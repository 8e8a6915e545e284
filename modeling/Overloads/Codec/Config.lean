import Overloads.Codec.Value
import Overloads.Config.Basic

/-! JSON form of a configuration. -/

namespace Overloads
open Json

namespace LoweringOptions

def encode (o : LoweringOptions) : Json :=
  .object [("nullable-style", o.style.encode), ("emit-native-defaults", .bool o.nativeDefaults),
    ("placeholder", .string o.placeholder), ("threads", .ofNat o.threads.toNat)]

def decode : Decoder LoweringOptions := fun origin v => do
  let d : LoweringOptions := {}
  let r ← record? ["nullable-style", "emit-native-defaults", "placeholder", "threads"] v
  let style ← r.defaulted "nullable-style" d.style NullableStyle.decode origin
  let nativeDefaults ← r.defaulted "emit-native-defaults" d.nativeDefaults decodeBool origin
  let placeholder ← r.defaulted "placeholder" d.placeholder decodeString origin
  let threads ← r.defaulted "threads" d.threads decodeUInt64 origin
  some { style, nativeDefaults, placeholder, threads }

end LoweringOptions

namespace Config

def encode (c : Config) : Json :=
  .object [("lowering", c.lowering.encode),
    ("types", .object [("value-types", .strings c.valueTypes)])]

def decodeValueTypes : Decoder (List String) := fun origin v => do
  let r ← record? ["value-types"] v
  r.defaulted "value-types" [] (decodeList decodeString) origin

def decode : Decoder Config := fun origin v => do
  let r ← record? ["lowering", "types"] v
  let lowering ← r.defaulted "lowering" {} LoweringOptions.decode origin
  let valueTypes ← r.defaulted "types" [] decodeValueTypes origin
  some { lowering, valueTypes }

end Config
end Overloads
