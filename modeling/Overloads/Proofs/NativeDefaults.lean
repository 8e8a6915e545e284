import Overloads.Config.Basic
import Overloads.Proofs.Collection
import Overloads.Proofs.Resolution
import Overloads.Proofs.UnseenChanges

/-! Native defaults and forwarding overloads are two ways to fill in an argument that a caller
leaves out, and they fill in the same text. Whether native defaults are kept changes nothing but
the canonical parameters that carry them: no check, collision, report or counter looks at them. -/

namespace Overloads.Proofs.NativeDefaults
open OverloadSets UnseenChanges

/-- The parameter at the position and all parameters after it have defaults. -/
def Omittable (m : Method) (i : Nat) : Prop := ∀ p ∈ m.params.drop i, p.hasDefault = true

/-- What the overloads of one method say of the arguments that callers leave out. -/
structure Agrees (m : Method) (canonical : Overload) (forwarding : List Overload) : Prop where
  source : canonical.body = .source m.body
  params : canonical.params.map TargetParam.name = m.params.map Parameter.name
  native : ∀ i p, canonical.params[i]? = some p → (p.nativeDefault.isSome ↔ Omittable m i)
  filled : ∀ o ∈ forwarding, ∃ call, o.call? = some call ∧
    ∀ i p, canonical.params[i]? = some p → o.arity ≤ i →
      ∃ arg, call.args[i]? = some arg ∧ p.nativeDefault = some arg.render
  plain : ∀ o ∈ forwarding, ∀ p ∈ o.params, p.nativeDefault = none

theorem omittable_iff (m : Method) {i : Nat} (inside : i ≤ m.params.length) :
    Omittable m i ↔ m.optionalStart ≤ i := by
  constructor
  · intro defaulted
    have all : ∀ p ∈ (m.params.drop i).reverse, p.hasDefault = true :=
      fun p member => defaulted p (List.mem_reverse.mp member)
    have split : m.params.reverse = (m.params.drop i).reverse ++ (m.params.take i).reverse := by
      rw [← List.reverse_append, List.take_append_drop]
    have run : (m.params.drop i).reverse.length ≤ m.optionalCount := by
      rw [Method.optionalCount, split, List.takeWhile_append_of_pos all, List.length_append]
      omega
    rw [List.length_reverse, List.length_drop] at run
    rw [Method.optionalStart]
    omega
  · intro least p member
    exact omitted_hasDefault m (List.drop_subset_drop_left m.params least member)

/-- The optional parameters are those at the positions that callers may leave out. -/
theorem mem_optional_iff {m : Method} {p : Parameter} :
    p ∈ m.params.drop m.optionalStart ↔ ∃ i, m.params[i]? = some p ∧ Omittable m i := by
  constructor
  · intro member
    obtain ⟨i, place⟩ := List.mem_iff_getElem?.mp member
    rw [List.getElem?_drop] at place
    have inside := (List.getElem?_eq_some_iff.mp place).1
    exact ⟨_, place, (omittable_iff m (Nat.le_of_lt inside)).mpr (Nat.le_add_right _ i)⟩
  · rintro ⟨i, place, omittable⟩
    have inside := (List.getElem?_eq_some_iff.mp place).1
    have optional := (omittable_iff m (Nat.le_of_lt inside)).mp omittable
    refine List.mem_of_getElem? (i := i - m.optionalStart) ?_
    rw [List.getElem?_drop, Nat.add_sub_cancel' optional, place]

theorem targetParams_getElem? (s : Setting) (m : Method) (i : Nat) :
    (m.targetParams s)[i]? = m.params[i]?.map
      (Parameter.lower s.registry (s.nativeDefaults && decide (m.optionalStart ≤ i))) := by
  have bound : m.optionalStart ≤ m.params.length := Nat.sub_le _ _
  simp only [Method.targetParams, List.getElem?_append, List.length_map, List.length_take,
    List.getElem?_map, List.getElem?_drop, Nat.min_eq_left bound]
  split
  next required =>
    have before : ¬ m.optionalStart ≤ i := Nat.not_le.mpr required
    rw [List.getElem?_take_of_lt required, decide_eq_false before, Bool.and_false]
  next optional =>
    have after : m.optionalStart ≤ i := Nat.le_of_not_lt optional
    rw [decide_eq_true after, Bool.and_true, Nat.add_sub_cancel' after]

theorem default_of_omittable {m : Method} {i : Nat} {p : Parameter}
    (found : m.params[i]? = some p) (optional : m.optionalStart ≤ i) :
    ∃ literal, p.default = some literal := by
  have inside := (List.getElem?_eq_some_iff.mp found).1
  have omittable := (omittable_iff m (Nat.le_of_lt inside)).mpr optional
  have member : p ∈ m.params.drop i := by
    refine List.mem_iff_getElem?.mpr ⟨0, ?_⟩
    rw [List.getElem?_drop, Nat.add_zero, found]
  exact Option.isSome_iff_exists.mp (omittable p member)

/-- A canonical parameter keeps its default if callers may leave the argument out. -/
theorem native_iff {s : Setting} (on : s.nativeDefaults = true) {m : Method} {i : Nat}
    {p : TargetParam} (found : (m.canonical s).params[i]? = some p) :
    p.nativeDefault.isSome ↔ Omittable m i := by
  have position : (m.targetParams s)[i]? = some p := found
  rw [targetParams_getElem?, Option.map_eq_some_iff, on, Bool.true_and] at position
  obtain ⟨declared, place, rfl⟩ := position
  have inside := (List.getElem?_eq_some_iff.mp place).1
  rw [omittable_iff m (Nat.le_of_lt inside)]
  by_cases optional : m.optionalStart ≤ i
  · obtain ⟨literal, given⟩ := default_of_omittable place optional
    simp [Parameter.lower, optional, given]
  · simp [Parameter.lower, optional]

private theorem getElem?_of_forall₂ {R : α → β → Prop} {items : List α} {results : List β}
    (related : List.Forall₂ R items results) {i : Nat} {item : α} (found : items[i]? = some item) :
    ∃ result, results[i]? = some result ∧ R item result := by
  induction related generalizing i with
  | nil => cases found
  | cons head _ ih =>
    cases i with
    | zero =>
      cases found
      exact ⟨_, rfl, head⟩
    | succ i => exact ih found

/-- The argument of a forwarding call for a parameter that the caller leaves out. -/
theorem forwarding_argument {s : Setting} {m : Method} {keep i : Nat} {p : Parameter}
    (least : m.optionalStart ≤ keep) (omitted : keep ≤ i) (found : m.params[i]? = some p)
    {call : Call} (forwards : (m.forwarding s keep).call? = some call) :
    ∃ arg, call.args[i]? = some arg ∧ p.argument? s.registry = some arg := by
  cases forwards
  have inside := (List.getElem?_eq_some_iff.mp found).1
  have defaulted : ∀ q ∈ m.params.drop keep, q.hasDefault = true :=
    fun q member => omitted_hasDefault m (List.drop_subset_drop_left m.params least member)
  have filled := Resolution.forall₂_arguments (r := s.registry) defaulted fun _ _ _ given => given
  have place : (m.params.drop keep)[i - keep]? = some p := by
    rw [List.getElem?_drop, Nat.add_sub_cancel' omitted, found]
  obtain ⟨arg, position, given⟩ := getElem?_of_forall₂ filled place
  refine ⟨arg, ?_, given⟩
  have kept : ((m.params.take keep).map fun q => Argument.param q.name).length = keep := by
    rw [List.length_map, List.length_take]
    omega
  rw [List.getElem?_append_right (by omega), kept, position]

/-- Where a forwarding call fills an argument in, the canonical parameter has the same text as its
native default. -/
theorem forwarding_fills {s : Setting} (on : s.nativeDefaults = true) {m : Method} {keep : Nat}
    (least : m.optionalStart ≤ keep) {i : Nat} {p : TargetParam}
    (found : (m.canonical s).params[i]? = some p) (omitted : keep ≤ i) {call : Call}
    (forwards : (m.forwarding s keep).call? = some call) :
    ∃ arg, call.args[i]? = some arg ∧ p.nativeDefault = some arg.render := by
  have position : (m.targetParams s)[i]? = some p := found
  have optional := Nat.le_trans least omitted
  rw [targetParams_getElem?, Option.map_eq_some_iff, on, Bool.true_and,
    decide_eq_true optional] at position
  obtain ⟨declared, place, rfl⟩ := position
  obtain ⟨arg, filled, given⟩ := forwarding_argument least omitted place forwards
  refine ⟨arg, filled, ?_⟩
  obtain ⟨literal, default, rfl⟩ := Option.map_eq_some_iff.mp given
  simp only [Parameter.lower, default, if_true, Option.map_some]
  rfl

theorem overloads_agree {s : Setting} (on : s.nativeDefaults = true) (m : Method) :
    ∃ canonical forwarding, m.overloads s = canonical :: forwarding ∧
      Agrees m canonical forwarding := by
  refine ⟨m.canonical s, _, rfl, rfl, map_targetParams (fun _ _ => rfl) m,
    fun i p found => native_iff on found, ?_, ?_⟩
  · intro o member
    obtain ⟨keep, least, most, rfl⟩ := mem_forwarding.mp member
    refine ⟨_, rfl, fun i p found omitted => ?_⟩
    rw [forwarding_arity s m (Nat.le_of_lt most)] at omitted
    exact forwarding_fills on least found omitted rfl
  · intro o member p inside
    obtain ⟨keep, _, _, rfl⟩ := mem_forwarding.mp member
    obtain ⟨declared, _, rfl⟩ := List.mem_map.mp inside
    rfl

def withoutNative (s : Setting) : Setting := { s with nativeDefaults := false }

def plainParam (p : TargetParam) : TargetParam := { p with nativeDefault := none }

def plainOverload (o : Overload) : Overload := { o with params := o.params.map plainParam }

def plainMethod (m : TargetMethod) : TargetMethod :=
  { m with overloads := m.overloads.map plainOverload }

def plainType (t : TargetType) : TargetType := { t with methods := t.methods.map plainMethod }

def plainProgram (p : TargetProgram) : TargetProgram := { p with types := p.types.map plainType }

def plainLowering (l : MethodLowering) : MethodLowering :=
  { l with overloads := l.overloads.map plainOverload }

def plainTypeLowering (l : TypeLowering) : TypeLowering := { l with decl := plainType l.decl }

theorem plain_canonical (s : Setting) (m : Method) :
    plainOverload (m.canonical s) = m.canonical (withoutNative s) := by
  simp only [plainOverload, Method.canonical, Method.targetParams, List.map_append, List.map_map]
  rfl

theorem plain_forwarding (s : Setting) (m : Method) (keep : Nat) :
    plainOverload (m.forwarding s keep) = m.forwarding (withoutNative s) keep := by
  simp only [plainOverload, Method.forwarding, List.map_map]
  rfl

theorem plain_overloads (s : Setting) (m : Method) :
    (m.overloads s).map plainOverload = m.overloads (withoutNative s) := by
  simp only [Method.overloads, List.map_cons, List.map_map, Function.comp_def, plain_canonical,
    plain_forwarding]

theorem lower_withoutNative (s : Setting) (owner : String) (m : Method) :
    m.lower (withoutNative s) owner = (m.lower s owner).map plainLowering := by
  have check : (withoutNative s).registry = s.registry := rfl
  simp only [Method.lower, check]
  cases m.misfit? s.registry with
  | some e => rfl
  | none => simp only [Except.map, plainLowering, plain_overloads]

def plainAttempt (a : Attempt) : Attempt := { a with outcome := a.outcome.map plainLowering }

theorem attempts_withoutNative (s : Setting) (t : TypeDecl) :
    t.attempts (withoutNative s) = (t.attempts s).map plainAttempt := by
  simp only [TypeDecl.attempts, List.map_map, Function.comp_def, plainAttempt, lower_withoutNative]

@[simp] theorem plainOverload_isCanonical (o : Overload) :
    (plainOverload o).isCanonical = o.isCanonical := rfl

theorem plainOverload_unseen : Unseen plainOverload id := by
  refine ⟨fun o => ?_, fun _ => rfl, fun _ => rfl, fun _ => rfl⟩
  simp [Overload.signature, Overload.slots, plainOverload, plainParam, Function.comp_def]

theorem diagnostics_plainAttempt (owner : String) (a : Attempt) :
    (plainAttempt a).diagnostics owner = a.diagnostics owner :=
  diagnostics_mapAttempt plainOverload_unseen owner a

/-- The collision detector does not see native defaults. -/
theorem record_plainAttempt (detector : CollisionDetector) (a : Attempt) :
    (plainAttempt a).record detector = a.record detector :=
  record_mapAttempt plainOverload_unseen detector a

theorem emitted?_plainAttempt (report : CollisionReport) (a : Attempt) :
    (plainAttempt a).emitted? report = (a.emitted? report).map plainMethod :=
  emitted?_mapAttempt plainOverload_unseen report a

theorem collisions_withoutNative (s : Setting) (t : TypeDecl) :
    t.collisions (withoutNative s) = t.collisions s := by
  simp only [TypeDecl.collisions, attempts_withoutNative, List.foldl_map, record_plainAttempt]

theorem emitted_withoutNative (s : Setting) (t : TypeDecl) :
    t.emitted (withoutNative s) = (t.emitted s).map plainMethod := by
  simp only [TypeDecl.emitted, collisions_withoutNative, attempts_withoutNative,
    List.filterMap_map, List.map_filterMap, Function.comp_def, emitted?_plainAttempt]

theorem diagnostics_withoutNative (s : Setting) (t : TypeDecl) :
    t.diagnostics (withoutNative s) = t.diagnostics s := by
  simp only [TypeDecl.diagnostics, attempts_withoutNative, collisions_withoutNative,
    List.flatMap_map, diagnostics_plainAttempt]
  rfl

theorem stats_withoutNative (s : Setting) (t : TypeDecl) :
    t.stats (withoutNative s) = t.stats s := by
  have overloads : (t.emitted (withoutNative s)).flatMap TargetMethod.overloads =
      ((t.emitted s).flatMap TargetMethod.overloads).map plainOverload := by
    rw [emitted_withoutNative, List.flatMap_map, List.map_flatMap]
    rfl
  simp only [TypeDecl.stats, overloads, collisions_withoutNative, diagnostics_withoutNative,
    attempts_withoutNative, List.length_map, List.countP_map, Function.comp_def,
    emitted?_plainAttempt, Option.isNone_map, plainOverload_isCanonical]

theorem type_withoutNative (s : Setting) (t : TypeDecl) :
    t.lower (withoutNative s) = plainTypeLowering (t.lower s) := by
  simp only [TypeDecl.lower, emitted_withoutNative, diagnostics_withoutNative, stats_withoutNative]
  rfl

theorem program_withoutNative (s : Setting) (p : Program) :
    p.lower (withoutNative s) = plainProgram (p.lower s) := by
  simp only [Collection.lower_eq, type_withoutNative, plainProgram, List.map_map]
  rfl

/-- Native defaults say what forwarding calls fill in. Without them everything else stays as it is:
the overloads, the reports and the counters of methods, types and programs. -/
theorem defaults_filled_alike (s : Setting) :
    (s.nativeDefaults = true → ∀ (owner : String) (m : Method) (lowering : MethodLowering),
      m.lower s owner = .ok lowering →
        ∃ canonical forwarding, lowering.overloads = canonical :: forwarding ∧
          Agrees m canonical forwarding) ∧
    (∀ (owner : String) (m : Method),
      m.lower (withoutNative s) owner = (m.lower s owner).map plainLowering) ∧
    (∀ t : TypeDecl, t.lower (withoutNative s) = plainTypeLowering (t.lower s)) ∧
    ∀ p : Program, p.lower (withoutNative s) = plainProgram (p.lower s) := by
  refine ⟨?_, lower_withoutNative s, type_withoutNative s, program_withoutNative s⟩
  intro on owner m lowering lowered
  rw [(lower_eq_ok_iff.mp lowered).2]
  exact overloads_agree on m

/-- A required parameter, an ignored default, and two that callers may leave out. -/
def optionalTail : Method :=
  { name := "f"
    params := [
      { name := "a", type := .value "Bool", default := some (.bool true) },
      { name := "b", type := .value "Int" },
      { name := "c", type := .value "Int", nullable := true, default := some (.int 4) },
      { name := "d", type := .value "Single", default := some (.float ⟨0x3ff0000000000000⟩) }] }

theorem optionalTail_filled_alike :
    ∃ canonical forwarding, optionalTail.overloads ⟨.empty, true⟩ = canonical :: forwarding ∧
      canonical.params.map TargetParam.nativeDefault = [none, none, some "4", some "1.0f"] ∧
      forwarding.map Overload.arity = [3, 2] ∧ Agrees optionalTail canonical forwarding ∧
      optionalTail.lower ⟨.empty, false⟩ "T" = (optionalTail.lower ⟨.empty, true⟩ "T").map plainLowering := by
  obtain ⟨agree, lowers, _, _⟩ := defaults_filled_alike ⟨.empty, true⟩
  have lowered : optionalTail.lower ⟨.empty, true⟩ "T" = .ok ⟨optionalTail.overloads ⟨.empty, true⟩,
      optionalTail.diagnostics .empty "T"⟩ := lower_eq_ok_iff.mpr ⟨by decide, rfl⟩
  obtain ⟨canonical, forwarding, shape, agrees⟩ := agree rfl "T" optionalTail _ lowered
  obtain ⟨rfl, rfl⟩ := List.cons.inj shape
  exact ⟨_, _, rfl, by decide, by decide, agrees, lowers "T" optionalTail⟩

end Overloads.Proofs.NativeDefaults
