import Overloads.Diagnostic.Basic
import Overloads.Target.Overload

/-! Lowering of one method. The canonical overload takes every parameter and has the method's own
body; for each parameter that callers may omit there is one overload that ends before it and
calls the canonical one with the defaults of the rest. -/

namespace Overloads

/-- What lowering depends on: the known value types, and whether canonical parameters keep their
defaults. -/
structure Setting where
  registry : Registry
  nativeDefaults : Bool

inductive LowerError
  | incompatibleDefault (param : String) (literal : Literal) (slot : SlotType)

def LowerError.message : LowerError → String
  | .incompatibleDefault param literal slot =>
    "Default value " ++ literal.display ++ " of parameter '" ++ param ++
      "' is not assignable to '" ++ slot.display ++ "'"

structure MethodLowering where
  overloads : List Overload
  diagnostics : List Diagnostic

namespace Parameter

/-- The parameter of an overload, with its default in the target's spelling if asked for. -/
def lower (r : Registry) (native : Bool) (p : Parameter) : TargetParam :=
  let slot := p.slot r
  { name := p.name
    slot
    nativeDefault := if native then p.default.map (·.render slot.primitive?) else none }

def argument? (r : Registry) (p : Parameter) : Option Argument :=
  let slot := p.slot r
  p.default.map fun literal =>
    .literal literal (slot.isWrapped && !literal.isNull) slot.primitive?

def misfit? (r : Registry) (p : Parameter) : Option LowerError :=
  match p.default with
  | none => none
  | some literal =>
    let slot := p.slot r
    if slot.admits literal then none else some (.incompatibleDefault p.name literal slot)

end Parameter

/-- The report on a declared type without slot type; `place` names the slot if a member has
several. -/
def unsupportedDiagnostic (r : Registry) (owner member place : String) (type : DeclaredType)
    (nullable : Bool) (span : Option Span) : List Diagnostic :=
  match r.slot type nullable with
  | .ok _ => []
  | .error e => [.report .unsupportedType owner member (place ++ e.message) span]

namespace Method

def targetParams (s : Setting) (m : Method) : List TargetParam :=
  (m.params.take m.optionalStart).map (Parameter.lower s.registry false) ++
    (m.params.drop m.optionalStart).map (Parameter.lower s.registry s.nativeDefaults)

def canonical (s : Setting) (m : Method) : Overload :=
  { name := m.name
    kind := m.kind
    modifiers := m.modifiers
    params := m.targetParams s
    returnType := m.returnType.map (ReturnType.slot s.registry)
    body := .source m.body }

/-- The name that a call of the method itself uses. -/
def callTarget (m : Method) : String :=
  match m.kind with
  | .method => m.name
  | .constructor => "this"

/-- The overload that keeps the first parameters and fills the others in. -/
def forwarding (s : Setting) (m : Method) (keep : Nat) : Overload :=
  let kept := m.params.take keep
  let args := kept.map (fun p => Argument.param p.name) ++
    (m.params.drop keep).filterMap (Parameter.argument? s.registry)
  { m.canonical s with
    params := kept.map (Parameter.lower s.registry false)
    body := .forward ⟨m.callTarget, args⟩ }

/-- The canonical overload, then the forwarding ones from the longest to the shortest. -/
def overloads (s : Setting) (m : Method) : List Overload :=
  m.canonical s ::
    (List.range m.optionalCount).map fun i => m.forwarding s (m.params.length - 1 - i)

def lastRequired? (params : List Parameter) : Option Parameter :=
  params.reverse.find? (!·.hasDefault)

/-- The report on a default that cannot be used, because of a parameter after it. -/
def ignoredDiagnostic (owner : String) (m : Method) (p : Parameter) (after : List Parameter) :
    List Diagnostic :=
  match p.default, lastRequired? after with
  | some _, some required =>
    [.report .nonTrailingDefault owner m.name
      ("default value of parameter '" ++ p.name ++ "' is ignored: parameter '" ++ required.name ++
        "' after it is required")
      (p.span.or m.span)]
  | _, _ => []

def paramDiagnostics (r : Registry) (owner : String) (m : Method) :
    List Parameter → List Diagnostic
  | [] => []
  | p :: after =>
    unsupportedDiagnostic r owner m.name (p.name ++ ": ") p.type p.nullable p.span ++
      ignoredDiagnostic owner m p after ++ paramDiagnostics r owner m after

def returnDiagnostics (r : Registry) (owner : String) (m : Method) : List Diagnostic :=
  match m.returnType with
  | none => []
  | some t => unsupportedDiagnostic r owner m.name "return: " t.type t.nullable m.span

/-- What is reported of a method that can be lowered, from left to right. -/
def diagnostics (r : Registry) (owner : String) (m : Method) : List Diagnostic :=
  paramDiagnostics r owner m m.params ++ returnDiagnostics r owner m

def misfit? (r : Registry) (m : Method) : Option LowerError :=
  (m.params.drop m.optionalStart).findSome? (Parameter.misfit? r)

/-- A default that does not fit fails the whole method; all else is only reported. -/
def lower (s : Setting) (owner : String) (m : Method) : Except LowerError MethodLowering :=
  match m.misfit? s.registry with
  | some e => .error e
  | none => .ok ⟨m.overloads s, m.diagnostics s.registry owner⟩

end Method
end Overloads
