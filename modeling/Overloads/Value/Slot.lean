import Overloads.Value.Literal
import Overloads.Value.Registry

/-! The types of emitted slots (parameters, fields, returns) and how declarations get them. -/

namespace Overloads

/-- The type of a slot. A value type that the registry does not know stays unresolved. -/
inductive SlotType
  | value (storage : Storage)
  | reference (name : String)
  | unresolved (name : String)
deriving DecidableEq

namespace SlotType

def render (style : NullableStyle) (placeholder : String) : SlotType → String
  | .value storage => storage.render style
  | .reference name => name
  | .unresolved name => placeholder ++ "<" ++ name ++ ">"

def display : SlotType → String
  | .value storage => storage.display
  | .reference name => name
  | .unresolved name => "<unresolved " ++ name ++ ">"

def primitive? : SlotType → Option Primitive
  | .value storage => storage.primitive?
  | _ => none

def isWrapped : SlotType → Bool
  | .value storage => storage.isWrapped
  | _ => false

/-- Whether the literal may be stored in the slot; nothing is known of unresolved ones. -/
def admits (slot : SlotType) (literal : Literal) : Bool :=
  match slot with
  | .value storage => literal.fitsValue storage
  | .reference _ => literal.fitsReference
  | .unresolved _ => true

end SlotType

inductive TypeError
  | unsupported (name : String)
  | misfit (literal : Literal) (slot : SlotType)

namespace TypeError

def message : TypeError → String
  | .unsupported name =>
    "Unsupported type: '" ++ name ++ "' has no target value-type representation"
  | .misfit literal slot =>
    "Literal " ++ literal.display ++ " is not assignable to '" ++ slot.display ++ "'"

end TypeError

/-- The storage of a declaration of value type. Only the nullable mark decides on the wrapper. -/
def Registry.storage (r : Registry) (type : DeclaredType) (nullable : Bool) :
    Except TypeError Storage :=
  let resolved :=
    match type with
    | .value name => r.resolve? name
    | .reference _ => none
  match resolved with
  | some v => .ok (if nullable then .wrapped v else .bare v)
  | none => .error (.unsupported type.name)

/-- The slot type of a declaration; reference types stay as they are. -/
def Registry.slot (r : Registry) (type : DeclaredType) (nullable : Bool) :
    Except TypeError SlotType :=
  match type with
  | .reference name => .ok (.reference name)
  | .value _ => (r.storage type nullable).map .value

namespace SlotType

/-- The slot type of a declaration, unresolved where the registry has none. -/
def ofDeclared (r : Registry) (type : DeclaredType) (nullable : Bool) : SlotType :=
  match r.slot type nullable with
  | .ok slot => slot
  | .error _ => .unresolved type.name

theorem ofDeclared_value (r : Registry) (name : String) (nullable : Bool) :
    ofDeclared r (.value name) nullable =
      (r.resolve? name).elim (.unresolved name) fun type =>
        .value (if nullable then .wrapped type else .bare type) := by
  cases resolved : r.resolve? name <;>
    simp [ofDeclared, Registry.slot, Registry.storage, resolved, Except.map,
      DeclaredType.name]

def check (slot : SlotType) (literal : Literal) : Except TypeError Unit :=
  if slot.admits literal then .ok () else .error (.misfit literal slot)

end SlotType
end Overloads
