import Overloads.Lowering.Collision
import Overloads.Lowering.Method
import Overloads.Target.Stats

/-! Lowering of one type: its fields, and those of its methods that can be lowered and do not
collide with another. -/

namespace Overloads

/-- Diagnostics of fields and methods come in declaration order, collisions last. -/
structure TypeLowering where
  decl : TargetType
  diagnostics : List Diagnostic
  stats : Stats

namespace Field

/-- An initializer that does not fit is dropped. -/
def lower (r : Registry) (f : Field) : TargetField :=
  let slot := f.slot r
  { name := f.name
    modifiers := f.modifiers
    slot
    initializer := (f.initializer.filter slot.admits).map (·.render slot.primitive?) }

/-- An initializer that is kept is a literal that fits, as the slot spells it. -/
theorem lower_initializer_eq_some_iff {r : Registry} {f : Field} {text : String} :
    (f.lower r).initializer = some text ↔
      ∃ literal, f.initializer = some literal ∧ (f.slot r).admits literal = true ∧
        text = literal.render (f.slot r).primitive? := by
  simp only [lower, Option.map_eq_some_iff]
  constructor
  · rintro ⟨literal, kept, rfl⟩
    obtain ⟨given, fits⟩ := Option.filter_eq_some_iff.mp kept
    exact ⟨literal, given, fits, rfl⟩
  · rintro ⟨literal, given, fits, rfl⟩
    exact ⟨literal, Option.filter_eq_some_iff.mpr ⟨given, fits⟩, rfl⟩

def initializerDiagnostics (r : Registry) (owner : String) (f : Field) : List Diagnostic :=
  match f.initializer with
  | none => []
  | some literal =>
    match (f.slot r).check literal with
    | .ok _ => []
    | .error e =>
      [.report .incompatibleDefault owner f.name ("initializer dropped: " ++ e.message) f.span]

def diagnostics (r : Registry) (owner : String) (f : Field) : List Diagnostic :=
  unsupportedDiagnostic r owner f.name "" f.type f.nullable f.span ++
    f.initializerDiagnostics r owner

end Field

structure Attempt where
  index : Nat
  method : Method
  outcome : Except LowerError MethodLowering

namespace Attempt

/-- What the method alone gives rise to; a failure takes the place of everything else. -/
def diagnostics (owner : String) (a : Attempt) : List Diagnostic :=
  match a.outcome with
  | .ok lowering => lowering.diagnostics
  | .error e => [.report .incompatibleDefault owner a.method.name e.message a.method.span]

/-- Failed methods do not take part in collisions. -/
def record (detector : CollisionDetector) (a : Attempt) : CollisionDetector :=
  match a.outcome with
  | .ok lowering => detector.record a.index a.method.span lowering.overloads
  | .error _ => detector

def emitted? (report : CollisionReport) (a : Attempt) : Option TargetMethod :=
  match a.outcome with
  | .ok lowering =>
    if report.isSkipped a.index then none
    else some ⟨a.method.name, .ofNat a.index, lowering.overloads⟩
  | .error _ => none

end Attempt

namespace TypeDecl

def attempts (s : Setting) (t : TypeDecl) : List Attempt :=
  t.methods.zipIdx.map fun (m, index) => ⟨index, m, m.lower s t.name⟩

def collisions (s : Setting) (t : TypeDecl) : CollisionReport :=
  ((t.attempts s).foldl Attempt.record {}).report t.name

def emitted (s : Setting) (t : TypeDecl) : List TargetMethod :=
  let report := t.collisions s
  (t.attempts s).filterMap (Attempt.emitted? report)

def diagnostics (s : Setting) (t : TypeDecl) : List Diagnostic :=
  t.fields.flatMap (Field.diagnostics s.registry t.name) ++
    (t.attempts s).flatMap (Attempt.diagnostics t.name) ++ (t.collisions s).diagnostics

def stats (s : Setting) (t : TypeDecl) : Stats :=
  let report := t.collisions s
  let overloads := (t.emitted s).flatMap TargetMethod.overloads
  { types := 1
    fields := .ofNat t.fields.length
    methods := .ofNat t.methods.length
    overloads := .ofNat overloads.length
    forwarding := .ofNat (overloads.countP (!·.isCanonical))
    skippedMethods := .ofNat ((t.attempts s).countP fun a => (a.emitted? report).isNone)
    collisions := .ofNat report.diagnostics.length
    unsupported := .ofNat ((t.diagnostics s).countP (·.kind == .unsupportedType)) }

def lower (s : Setting) (t : TypeDecl) : TypeLowering :=
  { decl := ⟨t.name, t.fields.map (Field.lower s.registry), t.emitted s⟩
    diagnostics := t.diagnostics s
    stats := t.stats s }

end TypeDecl
end Overloads
