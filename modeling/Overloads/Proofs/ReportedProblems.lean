import Overloads.Proofs.Emission
import Overloads.Proofs.UnknownTypes
import Mathlib.Algebra.GroupWithZero.Nat
import Mathlib.Data.List.Infix

/-! How many problems of a type are reported. Unknown types and ignored defaults are counted in
full for fields and for every method that lowers, whether it is emitted or collides. A method
whose lowering fails reports its misfit alone, so its other problems are lost. -/

namespace Overloads.Proofs.ReportedProblems
open Emission UnknownTypes

def count (kind : DiagnosticKind) (diagnostics : List Diagnostic) : Nat :=
  diagnostics.countP (·.kind = kind)

/-- The slots of a method whose types the registry does not know. -/
def unknownSlots (r : Registry) (m : Method) : Nat :=
  m.params.countP (fun p => unknown r p.type) +
    m.returnType.toList.countP fun declared => unknown r declared.type

/-- The defaults of a method that stand before a parameter without one. -/
def ignoredDefaults (m : Method) : Nat :=
  m.params.tails.countP fun
    | [] => false
    | p :: after => p.hasDefault && after.any (!·.hasDefault)

/-- All slots of a type whose types the registry does not know. -/
def unknownSlotsOf (r : Registry) (t : TypeDecl) : Nat :=
  t.fields.countP (fun f => unknown r f.type) + (t.methods.map (unknownSlots r)).sum

def ignoredDefaultsOf (t : TypeDecl) : Nat := (t.methods.map ignoredDefaults).sum

def fails (s : Setting) (t : TypeDecl) (m : Method) : Bool :=
  match m.lower s t.name with
  | .ok _ => false
  | .error _ => true

@[simp] theorem count_nil (kind : DiagnosticKind) : count kind [] = 0 := rfl

@[simp] theorem count_append (kind : DiagnosticKind) (first second : List Diagnostic) :
    count kind (first ++ second) = count kind first + count kind second := List.countP_append

theorem count_flatMap (kind : DiagnosticKind) (items : List α) (f : α → List Diagnostic) :
    count kind (items.flatMap f) = (items.map fun item => count kind (f item)).sum :=
  List.countP_flatMap

@[simp] theorem count_report (kind other : DiagnosticKind) (owner member detail : String)
    (span : Option Span) :
    count kind [.report other owner member detail span] = if other = kind then 1 else 0 := by
  by_cases same : other = kind <;> simp [count, Diagnostic.report, same]

theorem count_unsupported (kind : DiagnosticKind) (r : Registry) (owner member place : String)
    (type : DeclaredType) (nullable : Bool) (span : Option Span) :
    count kind (unsupportedDiagnostic r owner member place type nullable span) =
      if .unsupportedType = kind ∧ unknown r type then 1 else 0 := by
  rw [unsupportedDiagnostic_eq]
  cases unknown r type <;> simp

theorem lastRequired?_isSome (params : List Parameter) :
    (Method.lastRequired? params).isSome = params.any (!·.hasDefault) := by
  rw [Bool.eq_iff_iff]
  simp [Method.lastRequired?, List.find?_isSome]

theorem count_ignored (kind : DiagnosticKind) (owner : String) (m : Method) (p : Parameter)
    (after : List Parameter) :
    count kind (m.ignoredDiagnostic owner p after) =
      if .nonTrailingDefault = kind ∧ p.hasDefault ∧ after.any (!·.hasDefault) then 1 else 0 := by
  rw [← lastRequired?_isSome]
  unfold Method.ignoredDiagnostic
  cases literal : p.default with
  | none => simp [Parameter.hasDefault, literal]
  | some value => cases Method.lastRequired? after <;> simp [Parameter.hasDefault, literal]

theorem count_params (kind : DiagnosticKind) (r : Registry) (owner : String) (m : Method)
    (params : List Parameter) :
    count kind (m.paramDiagnostics r owner params) =
      (if .unsupportedType = kind then params.countP (fun p => unknown r p.type) else 0) +
      if .nonTrailingDefault = kind then
        params.tails.countP fun
          | [] => false
          | p :: after => p.hasDefault && after.any (!·.hasDefault)
      else 0 := by
  induction params with
  | nil => simp [Method.paramDiagnostics]
  | cons p after ih =>
    simp only [Method.paramDiagnostics, count_append, count_unsupported, count_ignored, ih,
      List.tails_cons, List.countP_cons, Bool.and_eq_true]
    cases kind <;> simp
    all_goals omega

theorem count_return (kind : DiagnosticKind) (r : Registry) (owner : String) (m : Method) :
    count kind (m.returnDiagnostics r owner) =
      if .unsupportedType = kind then
        m.returnType.toList.countP fun declared => unknown r declared.type
      else 0 := by
  unfold Method.returnDiagnostics
  cases m.returnType with
  | none => simp
  | some declared =>
    by_cases same : .unsupportedType = kind <;> simp [count_unsupported, same]

theorem count_method (r : Registry) (owner : String) (m : Method) :
    count .unsupportedType (m.diagnostics r owner) = unknownSlots r m ∧
      count .nonTrailingDefault (m.diagnostics r owner) = ignoredDefaults m := by
  simp [Method.diagnostics, count_params, count_return, unknownSlots, ignoredDefaults]

theorem count_initializer (kind : DiagnosticKind) (r : Registry) (owner : String) (f : Field)
    (other : kind ≠ .incompatibleDefault) : count kind (f.initializerDiagnostics r owner) = 0 := by
  unfold Field.initializerDiagnostics
  cases f.initializer with
  | none => rfl
  | some literal =>
    simp only
    split
    · rfl
    · simp [Ne.symm other]

theorem count_field (r : Registry) (owner : String) (f : Field) :
    count .unsupportedType (f.diagnostics r owner) = (if unknown r f.type then 1 else 0) ∧
      count .nonTrailingDefault (f.diagnostics r owner) = 0 := by
  simp [Field.diagnostics, count_unsupported, count_initializer]

theorem count_collisions (s : Setting) (t : TypeDecl) (kind : DiagnosticKind)
    (other : kind ≠ .signatureCollision) : count kind (t.collisions s).diagnostics = 0 := by
  simp only [count, List.countP_eq_zero, decide_eq_true_eq]
  intro d member same
  obtain ⟨g, _, rfl⟩ := List.mem_map.mp member
  exact other same.symm

/-- A failed attempt hides all problems of its method but the misfit. -/
theorem count_attempts (s : Setting) (t : TypeDecl) (kind : DiagnosticKind)
    {problems : Method → Nat} (other : kind ≠ .incompatibleDefault)
    (reported : ∀ m : Method, count kind (m.diagnostics s.registry t.name) = problems m) :
    count kind ((t.attempts s).flatMap (Attempt.diagnostics t.name)) +
        ((t.methods.filter (fails s t)).map problems).sum =
      (t.methods.map problems).sum := by
  have single : ∀ a ∈ t.attempts s, count kind (a.diagnostics t.name) =
      if fails s t a.method then 0 else problems a.method := by
    intro a member
    have lowered := (mem_attempts.mp member).2
    cases misfit : a.method.misfit? s.registry with
    | none =>
      simpa [Attempt.diagnostics, lowered, fails, Method.lower, misfit] using reported a.method
    | some e => simp [Attempt.diagnostics, lowered, fails, Method.lower, misfit, Ne.symm other]
  have whole : (t.attempts s).map (fun a => count kind (a.diagnostics t.name)) =
      t.methods.map fun m => if fails s t m then 0 else problems m := by
    rw [List.map_congr_left single, ← attempts_methods s t, List.map_map]
    rfl
  rw [count_flatMap, whole]
  induction t.methods with
  | nil => rfl
  | cons m methods ih =>
    cases failed : fails s t m <;> simp [failed] <;> omega

theorem reported_unknown (s : Setting) (t : TypeDecl) :
    count .unsupportedType (t.lower s).diagnostics +
        ((t.methods.filter (fails s t)).map (unknownSlots s.registry)).sum =
      unknownSlotsOf s.registry t := by
  have methods := count_attempts s t .unsupportedType (by decide)
    fun m => (count_method s.registry t.name m).1
  have fields : count .unsupportedType (t.fields.flatMap (Field.diagnostics s.registry t.name)) =
      t.fields.countP fun f => unknown s.registry f.type := by
    rw [count_flatMap]
    induction t.fields with
    | nil => rfl
    | cons f fields ih =>
      rw [List.map_cons, List.sum_cons, ih, (count_field s.registry t.name f).1, List.countP_cons]
      omega
  simp only [TypeDecl.lower, TypeDecl.diagnostics, count_append, fields, unknownSlotsOf,
    count_collisions s t .unsupportedType (by decide)]
  omega

theorem reported_ignored (s : Setting) (t : TypeDecl) :
    count .nonTrailingDefault (t.lower s).diagnostics +
        ((t.methods.filter (fails s t)).map ignoredDefaults).sum =
      ignoredDefaultsOf t := by
  have methods := count_attempts s t .nonTrailingDefault (by decide)
    fun m => (count_method s.registry t.name m).2
  have fields : count .nonTrailingDefault
      (t.fields.flatMap (Field.diagnostics s.registry t.name)) = 0 := by
    rw [count_flatMap, List.sum_eq_zero_iff_forall_eq_nat]
    intro found member
    obtain ⟨f, _, rfl⟩ := List.mem_map.mp member
    exact (count_field s.registry t.name f).2
  simp only [TypeDecl.lower, TypeDecl.diagnostics, count_append, fields, ignoredDefaultsOf,
    count_collisions s t .nonTrailingDefault (by decide)]
  omega

private theorem nothing_hidden_iff (s : Setting) (t : TypeDecl) (problems : Method → Nat) :
    ((t.methods.filter (fails s t)).map problems).sum = 0 ↔
      ∀ m ∈ t.methods, fails s t m = true → problems m = 0 := by
  simp only [List.sum_eq_zero_iff_forall_eq_nat, List.forall_mem_map, List.mem_filter, and_imp]

/-- The reports fall short by the problems of the methods that fail, so they are complete exactly
if such methods have no problem but their misfits. -/
theorem reports_complete_iff (s : Setting) (t : TypeDecl) :
    (t.lower s).stats.unsupported = .ofNat (count .unsupportedType (t.lower s).diagnostics) ∧
    count .unsupportedType (t.lower s).diagnostics +
        ((t.methods.filter (fails s t)).map (unknownSlots s.registry)).sum =
      unknownSlotsOf s.registry t ∧
    count .nonTrailingDefault (t.lower s).diagnostics +
        ((t.methods.filter (fails s t)).map ignoredDefaults).sum =
      ignoredDefaultsOf t ∧
    (count .unsupportedType (t.lower s).diagnostics = unknownSlotsOf s.registry t ↔
      ∀ m ∈ t.methods, fails s t m = true → unknownSlots s.registry m = 0) ∧
    (count .nonTrailingDefault (t.lower s).diagnostics = ignoredDefaultsOf t ↔
      ∀ m ∈ t.methods, fails s t m = true → ignoredDefaults m = 0) := by
  have slots := reported_unknown s t
  have defaults := reported_ignored s t
  refine ⟨?_, slots, defaults, ?_, ?_⟩
  · simp only [TypeDecl.lower, TypeDecl.stats, count]
    rfl
  · rw [← nothing_hidden_iff]
    omega
  · rw [← nothing_hidden_iff]
    omega

/-- A method with an ignored default, an unknown type and a default that does not fit. -/
def crowded : TypeDecl :=
  { name := "T"
    methods := [
      { name := "f"
        params := [
          { name := "x", type := .value "Int", default := some (.int 1) },
          { name := "a", type := .value "Vec3" },
          { name := "b", type := .value "Int", default := some (.string "s") }] }] }

theorem misfit_hides_problems :
    count .unsupportedType (crowded.lower ⟨.empty, true⟩).diagnostics = 0 ∧
      (crowded.lower ⟨.empty, true⟩).stats.unsupported = 0 ∧
      unknownSlotsOf .empty crowded = 1 ∧
      count .nonTrailingDefault (crowded.lower ⟨.empty, true⟩).diagnostics = 0 ∧
      ignoredDefaultsOf crowded = 1 := by
  decide

end Overloads.Proofs.ReportedProblems
