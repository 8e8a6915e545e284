import Overloads.Source.Declaration

/-! What lowering produces: overloads, grouped by the method they come from. -/

namespace Overloads

/-- A parameter of an overload; only canonical overloads carry native defaults. -/
structure TargetParam where
  name : String
  slot : SlotType
  nativeDefault : Option String := none
deriving DecidableEq

/-- A canonical overload has the body of its method; every other one calls it. -/
inductive OverloadBody
  | source (body : MethodBody)
  | forward (call : Call)
deriving DecidableEq

structure Overload where
  name : String
  kind : MethodKind
  modifiers : Modifiers
  params : List TargetParam
  returnType : Option SlotType
  body : OverloadBody
deriving DecidableEq

/-- What the target's overload resolution can tell apart. -/
structure Signature where
  kind : MethodKind
  name : String
  slots : List SlotType
deriving DecidableEq

namespace Overload

def arity (o : Overload) : Nat := o.params.length

def isCanonical (o : Overload) : Bool :=
  match o.body with
  | .source _ => true
  | .forward _ => false

def call? (o : Overload) : Option Call :=
  match o.body with
  | .source _ => none
  | .forward call => some call

def slots (o : Overload) : List SlotType := o.params.map TargetParam.slot

def signature (o : Overload) : Signature := ⟨o.kind, o.name, o.slots⟩

def display (o : Overload) : String :=
  o.name ++ "(" ++ ", ".intercalate (o.slots.map SlotType.display) ++ ")"

end Overload

/-- The overloads of one method, the canonical one first, with the position of the method's
declaration in its type. -/
structure TargetMethod where
  name : String
  index : UInt64
  overloads : List Overload
deriving DecidableEq

namespace TargetMethod

def canonical? (m : TargetMethod) : Option Overload :=
  m.overloads.head?.filter Overload.isCanonical

def forwarding (m : TargetMethod) : List Overload := m.overloads.filter (!·.isCanonical)

end TargetMethod

structure TargetField where
  name : String
  modifiers : Modifiers
  slot : SlotType
  initializer : Option String := none
deriving DecidableEq

/-- A lowered type; methods that could not be lowered are missing. -/
structure TargetType where
  name : String
  fields : List TargetField
  methods : List TargetMethod
deriving DecidableEq

namespace TargetType

def overloads (t : TargetType) : List Overload := t.methods.flatMap TargetMethod.overloads

def overloadsNamed (t : TargetType) (name : String) : List Overload :=
  t.overloads.filter (·.name == name)

/-- Whether two overloads compete for a call with the same number of arguments. -/
def competes (o canonical : Overload) : Bool :=
  o.kind == canonical.kind && o.name == canonical.name && o.arity == canonical.arity

/-- Whether an overload of another method competes with the canonical overload of the method
at the position. -/
def hasRival (t : TargetType) (position : Nat) : Bool :=
  match t.methods[position]?.bind TargetMethod.canonical? with
  | none => false
  | some canonical =>
    (t.methods.eraseIdx position).any fun m => m.overloads.any (competes · canonical)

end TargetType
end Overloads
