import Overloads.Codec.Value
import Overloads.Config.Basic
import Overloads.Toml.Document

/-! Configuration from TOML. Keys that are not known are ignored; a record may also be given as
an array of its fields in order. -/

namespace Overloads

namespace Toml

def toText? : Toml → Option String
  | .string s => some s
  | _ => none

def toBool? : Toml → Option Bool
  | .boolean b => some b
  | _ => none

/-- A count; negative numbers are none. -/
def toCount? : Toml → Option UInt64
  | .integer n => if 0 ≤ n then some (.ofNat n.toNat) else none
  | _ => none

def toItems? : Toml → Option (List Toml)
  | .array items | .tables items => some items
  | _ => none

def toStrings? (v : Toml) : Option (List String) := v.toItems?.bind fun items => items.mapM toText?

def isEmpty : Toml → Bool
  | .array [] | .tables [] | .table _ [] => true
  | _ => false

/-- The name of a variant: a string, or a table that maps it to an empty container. -/
def variantName? : Toml → Option String
  | .string s => some s
  | .table _ [(name, content)] => if content.isEmpty then some name else none
  | _ => none

/-- The members of a record with the given fields. Surplus items of an array are ignored, and a
date is a record without known members. -/
def record? (fields : List String) : Toml → Option Entries
  | .table _ entries => some entries
  | .array items | .tables items => some (fields.zip items)
  | .date => some []
  | _ => none

def field (entries : Entries) (name : String) (default : α) (read : Toml → Option α) : Option α :=
  match entries.lookup name with
  | none => some default
  | some v => read v

end Toml

namespace LoweringOptions

def fields : List String := ["nullable-style", "emit-native-defaults", "placeholder", "threads"]

def ofToml? (v : Toml) : Option LoweringOptions := do
  let entries ← Toml.record? fields v
  let d : LoweringOptions := {}
  let style ← Toml.field entries "nullable-style" d.style fun v =>
    v.variantName?.bind NullableStyle.ofName?
  let nativeDefaults ← Toml.field entries "emit-native-defaults" d.nativeDefaults Toml.toBool?
  let placeholder ← Toml.field entries "placeholder" d.placeholder Toml.toText?
  let threads ← Toml.field entries "threads" d.threads Toml.toCount?
  some { style, nativeDefaults, placeholder, threads }

end LoweringOptions

namespace Config

def valueTypesOfToml? (v : Toml) : Option (List String) := do
  let entries ← Toml.record? ["value-types"] v
  Toml.field entries "value-types" [] Toml.toStrings?

def ofEntries? (entries : Toml.Entries) : Option Config := do
  let lowering ← Toml.field entries "lowering" {} LoweringOptions.ofToml?
  let valueTypes ← Toml.field entries "types" [] valueTypesOfToml?
  some { lowering, valueTypes }

/-- The configuration that a TOML text gives, if it is a valid one. -/
def ofToml (text : String) : Except ConfigError Config :=
  match (Toml.parse? text).bind ofEntries? with
  | none => .error .malformed
  | some c => c.validate

end Config
end Overloads
