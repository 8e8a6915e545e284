import Overloads.Number.Double

/-! JSON values. An object keeps its members in order and may repeat a name, because a reader
of records refuses repetitions only of the names it knows. -/

namespace Overloads

/-- A JSON value. `unreadable` stands for text that is well formed and yet denotes no value: a
number too large, a surrogate without its partner, containers nested too deeply. Such text may
be skipped but not read. -/
inductive Json where
  | null
  | bool (b : Bool)
  | int (n : Int)
  | float (x : Double)
  | string (s : String)
  | array (items : List Json)
  | object (members : List (String × Json))
  | unreadable

namespace Json

mutual

def isReadable : Json → Bool
  | .array items => areReadable items
  | .object members => membersReadable members
  | .unreadable => false
  | _ => true

def areReadable : List Json → Bool
  | [] => true
  | item :: rest => item.isReadable && areReadable rest

def membersReadable : List (String × Json) → Bool
  | [] => true
  | (_, value) :: rest => value.isReadable && membersReadable rest

end

@[simp] theorem isReadable_bool (b : Bool) : (bool b).isReadable = true := rfl

@[simp] theorem isReadable_int (n : Int) : (int n).isReadable = true := rfl

@[simp] theorem isReadable_string (s : String) : (string s).isReadable = true := rfl

@[simp] theorem isReadable_array (items : List Json) :
    (array items).isReadable = areReadable items := rfl

@[simp] theorem isReadable_object (members : List (String × Json)) :
    (object members).isReadable = membersReadable members := rfl

@[simp] theorem areReadable_nil : areReadable [] = true := rfl

@[simp] theorem areReadable_cons (item : Json) (rest : List Json) :
    areReadable (item :: rest) = (item.isReadable && areReadable rest) := rfl

@[simp] theorem membersReadable_nil : membersReadable [] = true := rfl

@[simp] theorem membersReadable_cons (name : String) (value : Json)
    (rest : List (String × Json)) :
    membersReadable ((name, value) :: rest) = (value.isReadable && membersReadable rest) := rfl

/-- A floating point number that is not finite has no JSON form and is written as null. -/
def ofDouble (x : Double) : Json := if x.isFinite then .float x else .null

def ofNat (n : Nat) : Json := .int n

def strings (xs : List String) : Json := .array (xs.map .string)

def ofOption (encode : α → Json) : Option α → Json
  | none => .null
  | some x => encode x

end Json
end Overloads
