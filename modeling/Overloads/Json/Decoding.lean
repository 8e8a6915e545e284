import Overloads.Json.Basic

/-! Reading JSON values as scalars, lists, records and tagged variants. Records may also be
given as arrays of their fields in order, tagged variants as pairs. -/

namespace Overloads.Json

/-- Where a value comes from. A value whose meaning depends on a tag that comes later is held
until then; held values have to be readable throughout, and a few more spellings of a variant's
name pass. -/
inductive Origin
  | direct
  | held
deriving DecidableEq

abbrev Decoder (α : Type) := Origin → Json → Option α

def decodeBool : Decoder Bool
  | _, .bool b => some b
  | _, _ => none

def decodeString : Decoder String
  | _, .string s => some s
  | _, _ => none

def decodeChar : Decoder Char
  | _, .string s =>
    match s.toList with
    | [c] => some c
    | _ => none
  | _, _ => none

def decodeUInt32 : Decoder UInt32
  | _, .int n => if 0 ≤ n ∧ n < 0x100000000 then some (.ofNat n.toNat) else none
  | _, _ => none

def decodeUInt64 : Decoder UInt64
  | _, .int n => if 0 ≤ n ∧ n < 0x10000000000000000 then some (.ofNat n.toNat) else none
  | _, _ => none

def decodeInt64 : Decoder Int64
  | _, .int n => if -0x8000000000000000 ≤ n ∧ n < 0x8000000000000000 then some (.ofInt n) else none
  | _, _ => none

/-- Integers are read as floating point numbers too. -/
def decodeDouble : Decoder Double
  | _, .int n => some (.ofInt n)
  | _, .float x => some x
  | _, _ => none

def decodeList (item : Decoder α) : Decoder (List α)
  | origin, .array items => items.mapM (item origin)
  | _, _ => none

def decodeOption (value : Decoder α) : Decoder (Option α)
  | _, .null => some none
  | origin, v => (value origin v).map some

/-- The members of a record: what its fields are looked up in. -/
abbrev Record := List (String × Json)

def occursOnce (name : String) (members : Record) : Bool :=
  (members.filter fun m => m.1 == name).length ≤ 1

/-- The record with the given fields: an object that repeats none of them, or an array with
the values of the first of them in order. -/
def record? (fields : List String) : Json → Option Record
  | .object members => if fields.all (occursOnce · members) then some members else none
  | .array items => if items.length ≤ fields.length then some (fields.zip items) else none
  | _ => none

namespace Record

def required (r : Record) (name : String) (value : Decoder α) (origin : Origin) : Option α :=
  (r.lookup name).bind (value origin)

/-- An absent field has the default, but null is no value. -/
def defaulted (r : Record) (name : String) (default : α) (value : Decoder α) (origin : Origin) :
    Option α :=
  match r.lookup name with
  | none => some default
  | some v => value origin v

def optional (r : Record) (name : String) (value : Decoder α) (origin : Origin) :
    Option (Option α) :=
  r.defaulted name none (decodeOption value) origin

end Record

/-- The name of a variant: a string, or an object that maps it to null. -/
def variantName? : Decoder String
  | _, .string s => some s
  | _, .object [(name, .null)] => some name
  | .held, .object [(name, .object [])] => some name
  | _, _ => none

/-- The name of a variant that stands in front of its content in an array. A held value may also
give its position among all variants. -/
def leadingName? (variants : List String) : Decoder String
  | _, .string s => some s
  | .held, .int n => if 0 ≤ n then variants[n.toNat]? else none
  | _, _ => none

def decodeName (named : String → Option α) : Decoder α :=
  fun origin v => (variantName? origin v).bind named

/-- A tagged value taken apart: the variant's name, its content and the content's origin. -/
structure Tagged where
  name : String
  content : Option Json
  origin : Origin

/-- The tag, one of the given variants, and its content under two given keys, or both in an
array. Content that comes before the tag is held. -/
def tagged? (tagKey contentKey : String) (variants : List String) (origin : Origin) :
    Json → Option Tagged
  | .object members =>
    if occursOnce tagKey members && occursOnce contentKey members then
      let content := members.lookup contentKey
      let contentFirst :=
        (members.find? fun m => m.1 == tagKey || m.1 == contentKey).any (·.1 == contentKey)
      if contentFirst && !content.all isReadable then none
      else
        ((members.lookup tagKey).bind (variantName? origin)).map
          (⟨·, content, if contentFirst then .held else origin⟩)
    else none
  | .array [tag, content] =>
    (leadingName? variants origin tag).map (⟨·, some content, origin⟩)
  | _ => none

def Tagged.read (t : Tagged) (value : Decoder α) : Option α := t.content.bind (value t.origin)

def Tagged.isBare (t : Tagged) : Bool :=
  match t.content with
  | none | some .null => true
  | _ => false

/-- The value of a member that is left out when absent. -/
def member? (name : String) (encode : α → Json) : Option α → List (String × Json)
  | none => []
  | some x => [(name, encode x)]

end Overloads.Json
