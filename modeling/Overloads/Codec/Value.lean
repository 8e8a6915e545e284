import Overloads.Json.Decoding
import Overloads.Value.Slot

/-! JSON forms of types and literals. -/

namespace Overloads
open Json

namespace Primitive

def name : Primitive → String
  | .int => "int"
  | .long => "long"
  | .byte => "byte"
  | .double => "float"
  | .single => "single"
  | .bool => "bool"
  | .char => "char"

def ofName? (name : String) : Option Primitive := all.find? (·.name == name)

def encode (p : Primitive) : Json := .string p.name

def decode : Decoder Primitive := decodeName ofName?

end Primitive

namespace ValueType

def encode : ValueType → Json
  | .primitive p => .object [("kind", .string "primitive"), ("name", p.encode)]
  | .user name => .object [("kind", .string "user"), ("name", .string name)]

def decode : Decoder ValueType := fun origin v => do
  let t ← tagged? "kind" "name" ["primitive", "user"] origin v
  match t.name with
  | "primitive" => (t.read Primitive.decode).map .primitive
  | "user" => (t.read decodeString).map .user
  | _ => none

end ValueType

namespace DeclaredType

def encode : DeclaredType → Json
  | .value name => .object [("kind", .string "value"), ("name", .string name)]
  | .reference name => .object [("kind", .string "reference"), ("name", .string name)]

def decode : Decoder DeclaredType := fun origin v => do
  let t ← tagged? "kind" "name" ["value", "reference"] origin v
  match t.name with
  | "value" => (t.read decodeString).map .value
  | "reference" => (t.read decodeString).map .reference
  | _ => none

end DeclaredType

namespace NullableStyle

def name : NullableStyle → String
  | .suffix => "suffix"
  | .generic => "generic"

def ofName? (name : String) : Option NullableStyle := [suffix, generic].find? (·.name == name)

def encode (s : NullableStyle) : Json := .string s.name

def decode : Decoder NullableStyle := decodeName ofName?

end NullableStyle

namespace Storage

def encode : Storage → Json
  | .bare type => .object [("repr", .string "bare"), ("ty", type.encode)]
  | .wrapped type => .object [("repr", .string "wrapped_nullable"), ("ty", type.encode)]

def decode : Decoder Storage := fun origin v => do
  let t ← tagged? "repr" "ty" ["bare", "wrapped_nullable"] origin v
  match t.name with
  | "bare" => (t.read ValueType.decode).map .bare
  | "wrapped_nullable" => (t.read ValueType.decode).map .wrapped
  | _ => none

end Storage

namespace SlotType

def encode : SlotType → Json
  | .value storage => .object [("kind", .string "value"), ("ty", storage.encode)]
  | .reference name => .object [("kind", .string "reference"), ("ty", .string name)]
  | .unresolved name => .object [("kind", .string "unresolved"), ("ty", .string name)]

def decode : Decoder SlotType := fun origin v => do
  let t ← tagged? "kind" "ty" ["value", "reference", "unresolved"] origin v
  match t.name with
  | "value" => (t.read Storage.decode).map .value
  | "reference" => (t.read decodeString).map .reference
  | "unresolved" => (t.read decodeString).map .unresolved
  | _ => none

end SlotType

namespace Literal

def encode : Literal → Json
  | .int n => .object [("kind", .string "int"), ("value", .int n.toInt)]
  | .float x => .object [("kind", .string "float"), ("value", .ofDouble x)]
  | .bool b => .object [("kind", .string "bool"), ("value", .bool b)]
  | .char c => .object [("kind", .string "char"), ("value", .string (.singleton c))]
  | .string s => .object [("kind", .string "string"), ("value", .string s)]
  | .null => .object [("kind", .string "null")]

def variants : List String := ["int", "float", "bool", "char", "string", "null"]

def decode : Decoder Literal := fun origin v => do
  let t ← tagged? "kind" "value" variants origin v
  match t.name with
  | "int" => (t.read decodeInt64).map .int
  | "float" => (t.read decodeDouble).map .float
  | "bool" => (t.read decodeBool).map .bool
  | "char" => (t.read decodeChar).map .char
  | "string" => (t.read decodeString).map .string
  | "null" => if t.isBare then some .null else none
  | _ => none

end Literal
end Overloads
