import Overloads.Proofs.NativeDefaults
import Overloads.Proofs.UnknownTypes

/-! What is reported of a method that lowers, report by report. Each parameter answers for its type
and for its default, in this order and from left to right, and the return type comes last. An
ignored default is blamed on the last parameter that has none, which stands right before those that
callers may omit. -/

namespace Overloads.Proofs.MethodReports
open NativeDefaults OverloadSets UnknownTypes

/-- One report on a value type that the registry does not resolve, and none on any other type. -/
inductive TypeReports (r : Registry) (owner member place : String) (span : Option Span) :
    DeclaredType → List Diagnostic → Prop
  | reference (name : String) : TypeReports r owner member place span (.reference name) []
  | resolved {name : String} {type : ValueType} (found : r.resolve? name = some type) :
    TypeReports r owner member place span (.value name) []
  | unresolved {name : String} (missing : r.resolve? name = none) :
    TypeReports r owner member place span (.value name)
      [.report .unsupportedType owner member
        (place ++ ": " ++
          ("Unsupported type: '" ++ name ++ "' has no target value-type representation")) span]

/-- The parameter at the position has no default, and all parameters after it have one. -/
structure LastRequired (m : Method) (j : Nat) (required : Parameter) : Prop where
  declared : m.params[j]? = some required
  required : required.default = none
  last : Omittable m (j + 1)

/-- One report on a default that a later parameter makes useless, and none on any other. -/
inductive DefaultReports (owner : String) (m : Method) (i : Nat) (p : Parameter) :
    List Diagnostic → Prop
  | absent (missing : p.default = none) : DefaultReports owner m i p []
  | usable (omittable : Omittable m (i + 1)) : DefaultReports owner m i p []
  | ignored {j : Nat} {required : Parameter} (given : p.hasDefault = true) (later : i < j)
    (last : LastRequired m j required) :
    DefaultReports owner m i p
      [.report .nonTrailingDefault owner m.name
        ("default value of parameter '" ++ p.name ++ "' is ignored: parameter '" ++ required.name ++
          "' after it is required")
        (p.span.or m.span)]

/-- What is reported of one parameter: first of its type, then of its default. -/
def ParameterReports (r : Registry) (owner : String) (m : Method) (place : Parameter × Nat)
    (reports : List Diagnostic) : Prop :=
  ∃ ofType ofDefault, reports = ofType ++ ofDefault ∧
    TypeReports r owner m.name place.1.name place.1.span place.1.type ofType ∧
    DefaultReports owner m place.2 place.1 ofDefault

def ReturnReports (r : Registry) (owner : String) (m : Method) (reports : List Diagnostic) : Prop :=
  match m.returnType with
  | none => reports = []
  | some returned => TypeReports r owner m.name "return" m.span returned.type reports

/-- These are all reports of the method, in their order. -/
def Reports (r : Registry) (owner : String) (m : Method) (diagnostics : List Diagnostic) : Prop :=
  ∃ ofParams ofReturn, diagnostics = ofParams.flatten ++ ofReturn ∧
    List.Forall₂ (ParameterReports r owner m) m.params.zipIdx ofParams ∧
    ReturnReports r owner m ofReturn

/-- The slot is unresolved exactly if the declared type is, and then it keeps the declared name. -/
def KeepsUnresolved (r : Registry) (p : Parameter) (target : TargetParam) : Prop :=
  ∀ name, target.slot = .unresolved name ↔ p.type = .value name ∧ r.resolve? name = none

theorem unsupportedDiagnostic_reports (r : Registry) (owner member place : String)
    (type : DeclaredType) (nullable : Bool) (span : Option Span) :
    TypeReports r owner member place span type
      (unsupportedDiagnostic r owner member (place ++ ": ") type nullable span) := by
  rw [unsupportedDiagnostic_eq]
  cases type with
  | reference name =>
    rw [unknown, if_neg Bool.false_ne_true]
    exact .reference name
  | value name =>
    cases resolved : r.resolve? name with
    | some type =>
      rw [unknown, resolved, Option.isNone_some, if_neg Bool.false_ne_true]
      exact .resolved resolved
    | none =>
      rw [unknown, resolved, Option.isNone_none, if_pos rfl]
      exact .unresolved resolved

theorem lastRequired?_eq_none_iff {params : List Parameter} :
    Method.lastRequired? params = none ↔ ∀ p ∈ params, p.hasDefault = true := by
  simp [Method.lastRequired?]

theorem lastRequired?_eq_some_iff {params : List Parameter} {required : Parameter} :
    Method.lastRequired? params = some required ↔
      required.hasDefault = false ∧ ∃ before after, params = before ++ required :: after ∧
        ∀ p ∈ after, p.hasDefault = true := by
  simp only [Method.lastRequired?, List.find?_eq_some_iff_append, Bool.not_not,
    Bool.not_eq_eq_eq_not, Bool.not_true]
  refine and_congr_right fun _ => ?_
  constructor
  · rintro ⟨after, before, shape, defaulted⟩
    refine ⟨before.reverse, after.reverse, ?_, fun p member => ?_⟩
    · rw [← List.reverse_inj, shape]
      simp
    · exact defaulted p (List.mem_reverse.mp member)
  · rintro ⟨before, after, rfl, defaulted⟩
    refine ⟨after.reverse, before.reverse, by simp, fun p member => ?_⟩
    exact defaulted p (List.mem_reverse.mp member)

theorem lastRequired_of_split {m : Method} {before after : List Parameter} {required : Parameter}
    (shape : m.params = before ++ required :: after) (missing : required.hasDefault = false)
    (defaulted : ∀ p ∈ after, p.hasDefault = true) : LastRequired m before.length required := by
  refine ⟨?_, Option.isNone_iff_eq_none.mp (Option.isSome_eq_false_iff.mp missing), ?_⟩
  · rw [shape, List.getElem?_append_right (Nat.le_refl _), Nat.sub_self, List.getElem?_cons_zero]
  · have behind : m.params.drop (before.length + 1) = after := by simp [shape]
    rwa [Omittable, behind]

/-- The parameters behind a default decide whether it is reported, and which of them is named. -/
theorem ignoredDiagnostic_reports (owner : String) {m : Method} {before after : List Parameter}
    {p : Parameter} (shape : m.params = before ++ p :: after) :
    DefaultReports owner m before.length p (m.ignoredDiagnostic owner p after) := by
  unfold Method.ignoredDiagnostic
  cases given : p.default with
  | none => exact .absent given
  | some literal =>
    cases last : Method.lastRequired? after with
    | none =>
      have behind : m.params.drop (before.length + 1) = after := by simp [shape]
      refine .usable ?_
      rw [Omittable, behind]
      exact lastRequired?_eq_none_iff.mp last
    | some required =>
      obtain ⟨missing, middle, rest, rfl, defaulted⟩ := lastRequired?_eq_some_iff.mp last
      have place : m.params = (before ++ p :: middle) ++ required :: rest := by simp [shape]
      have later : before.length < (before ++ p :: middle).length := by simp
      have hasDefault : p.hasDefault = true := by simp [Parameter.hasDefault, given]
      exact .ignored hasDefault later (lastRequired_of_split place missing defaulted)

theorem paramDiagnostics_reports (r : Registry) (owner : String) {m : Method}
    {before params : List Parameter} (shape : m.params = before ++ params) :
    ∃ reports, m.paramDiagnostics r owner params = reports.flatten ∧
      List.Forall₂ (ParameterReports r owner m) (params.zipIdx before.length) reports := by
  induction params generalizing before with
  | nil => exact ⟨[], rfl, .nil⟩
  | cons p after ih =>
    have next : m.params = (before ++ [p]) ++ after := by simp [shape]
    obtain ⟨reports, same, each⟩ := ih next
    rw [List.length_append, List.length_singleton] at each
    have ofType := unsupportedDiagnostic_reports r owner m.name p.name p.type p.nullable p.span
    refine ⟨_ :: reports, ?_, .cons ⟨_, _, rfl, ofType, ignoredDiagnostic_reports owner shape⟩ each⟩
    rw [Method.paramDiagnostics, same, List.flatten_cons]

theorem returnDiagnostics_reports (r : Registry) (owner : String) (m : Method) :
    ReturnReports r owner m (m.returnDiagnostics r owner) := by
  unfold ReturnReports Method.returnDiagnostics
  cases m.returnType with
  | none => rfl
  | some returned =>
    exact unsupportedDiagnostic_reports r owner m.name "return" returned.type returned.nullable
      m.span

theorem diagnostics_reports (r : Registry) (owner : String) (m : Method) :
    Reports r owner m (m.diagnostics r owner) := by
  have whole : m.params = [] ++ m.params := rfl
  obtain ⟨ofParams, same, each⟩ := paramDiagnostics_reports r owner whole
  exact ⟨ofParams, _, by rw [Method.diagnostics, same], each, returnDiagnostics_reports r owner m⟩

/-- Every overload has the first parameters of the method, unresolved where their types are. -/
theorem overload_keepsUnresolved {s : Setting} {m : Method} {o : Overload}
    (member : o ∈ m.overloads s) :
    List.Forall₂ (KeepsUnresolved s.registry) (m.params.take o.arity) o.params := by
  have slots : o.params.map TargetParam.slot =
      (m.params.take o.arity).map (Parameter.slot s.registry) := by
    rcases mem_overloads.mp member with rfl | ⟨keep, least, most, rfl⟩
    · rw [canonical_arity, List.take_length]
      exact canonical_slots s m
    · rw [forwarding_arity s m (Nat.le_of_lt most)]
      exact forwarding_slots s m keep
  have same : List.Forall₂ Eq ((m.params.take o.arity).map (Parameter.slot s.registry))
      (o.params.map TargetParam.slot) := by
    rw [slots]
    exact List.forall₂_refl _
  rw [List.forall₂_map_left_iff, List.forall₂_map_right_iff] at same
  exact same.imp fun p target same name => by rw [← same]; exact ofDeclared_eq_unresolved_iff

/-- A default that is not used has the last required parameter behind it, at the place right before
those that callers may omit. -/
theorem lastRequired_behind {m : Method} {i : Nat} {p : Parameter}
    (declared : m.params[i]? = some p)
    (given : p.hasDefault = true) (ignored : i < m.optionalStart) :
    i + 1 < m.optionalStart ∧ ∃ required, LastRequired m (m.optionalStart - 1) required := by
  have total := optionalStart_add m
  have omittable : Omittable m m.optionalStart := (omittable_iff m (by omega)).mpr (Nat.le_refl _)
  have blocked : ¬ Omittable m (m.optionalStart - 1) := by
    rw [omittable_iff m (by omega)]
    omega
  have inside : m.optionalStart - 1 < m.params.length := by omega
  have missing : m.params[m.optionalStart - 1].hasDefault = false := by
    refine Bool.eq_false_iff.mpr fun defaulted => blocked fun q member => ?_
    rw [List.drop_eq_getElem_cons inside, List.mem_cons] at member
    rcases member with rfl | member
    · exact defaulted
    · exact omittable q (by rwa [Nat.sub_add_cancel (by omega)] at member)
  constructor
  · refine Nat.lt_of_le_of_ne ignored fun same => ?_
    obtain rfl : i = m.optionalStart - 1 := by omega
    rw [List.getElem?_eq_getElem inside, Option.some.injEq] at declared
    rw [declared, given] at missing
    cases missing
  · refine ⟨_, List.getElem?_eq_getElem inside, ?_, ?_⟩
    · exact Option.isNone_iff_eq_none.mp (Option.isSome_eq_false_iff.mp missing)
    · rwa [Nat.sub_add_cancel (by omega)]

/-- A default is ignored exactly if a parameter behind it has none. -/
theorem ignored_iff {m : Method} {i : Nat} {p : Parameter} (declared : m.params[i]? = some p)
    (given : p.hasDefault = true) :
    i < m.optionalStart ↔ ∃ required ∈ m.params.drop (i + 1), required.default = none := by
  have inside := (List.getElem?_eq_some_iff.mp declared).1
  have split : Omittable m i ↔ Omittable m (i + 1) := by
    obtain ⟨_, rfl⟩ := List.getElem?_eq_some_iff.mp declared
    rw [Omittable, Omittable, List.drop_eq_getElem_cons inside, List.forall_mem_cons]
    exact and_iff_right given
  rw [← Nat.not_le, ← omittable_iff m (Nat.le_of_lt inside), split]
  simp [Omittable, Parameter.hasDefault]

/-- The reports of a method that lowers are exactly those of its parameters, from left to right, and
of its return type. What is reported as ignored is blamed on the parameter before the optional ones,
which always exists, and the overloads have unresolved slots exactly where a type is reported. -/
theorem reports_exact (s : Setting) (owner : String) (m : Method) {lowering : MethodLowering}
    (lowered : m.lower s owner = .ok lowering) :
    Reports s.registry owner m lowering.diagnostics ∧
    (∃ canonical, lowering.overloads[0]? = some canonical ∧ canonical.arity = m.params.length) ∧
    (∀ o ∈ lowering.overloads,
      List.Forall₂ (KeepsUnresolved s.registry) (m.params.take o.arity) o.params) ∧
    ∀ i p, m.params[i]? = some p → p.hasDefault = true →
      (i < m.optionalStart ↔ ∃ required ∈ m.params.drop (i + 1), required.default = none) ∧
      (i < m.optionalStart → i + 1 < m.optionalStart ∧
        ∃ required, LastRequired m (m.optionalStart - 1) required) := by
  obtain ⟨_, rfl⟩ := lower_eq_ok_iff.mp lowered
  exact ⟨diagnostics_reports s.registry owner m, ⟨_, rfl, canonical_arity s m⟩,
    fun o member => overload_keepsUnresolved member,
    fun i p declared given => ⟨ignored_iff declared given, lastRequired_behind declared given⟩⟩

/-- Both problems at once, one of each, an unknown type that callers may omit, and a reference that
is ignored. -/
def troubled : Method :=
  { name := "f"
    params := [
      { name := "a", type := .value "Vec3", default := some (.int 1) },
      { name := "b", type := .reference "Vec3", default := some .null },
      { name := "c", type := .value "Mat4" },
      { name := "d", type := .value "Int" },
      { name := "e", type := .value "Vec3", default := some (.int 2), span := some ⟨3, 7⟩ }]
    returnType := some { type := .value "Vec3" }
    span := some ⟨0, 9⟩ }

theorem troubled_reports :
    ∃ lowering, troubled.lower ⟨.empty, true⟩ "T" = .ok lowering ∧
      lowering.diagnostics.map (fun d => (d.detail, d.span)) = [
        ("a: Unsupported type: 'Vec3' has no target value-type representation", none),
        ("default value of parameter 'a' is ignored: parameter 'd' after it is required",
          some ⟨0, 9⟩),
        ("default value of parameter 'b' is ignored: parameter 'd' after it is required",
          some ⟨0, 9⟩),
        ("c: Unsupported type: 'Mat4' has no target value-type representation", none),
        ("e: Unsupported type: 'Vec3' has no target value-type representation", some ⟨3, 7⟩),
        ("return: Unsupported type: 'Vec3' has no target value-type representation",
          some ⟨0, 9⟩)] ∧
      Reports .empty "T" troubled lowering.diagnostics ∧
      LastRequired troubled 3 troubled.params[3] := by
  have lowered : troubled.lower ⟨.empty, true⟩ "T" = .ok ⟨troubled.overloads ⟨.empty, true⟩,
      troubled.diagnostics .empty "T"⟩ := lower_eq_ok_iff.mpr ⟨by decide, rfl⟩
  obtain ⟨reports, _, _, blamed⟩ := reports_exact ⟨.empty, true⟩ "T" troubled lowered
  obtain ⟨_, required, last⟩ := (blamed 0 _ rfl rfl).2 (by decide)
  refine ⟨_, lowered, by decide, reports, ?_⟩
  obtain rfl : troubled.params[3] = required := Option.some.inj last.declared
  exact last

end Overloads.Proofs.MethodReports
