import Overloads.Proofs.NativeDefaults

/-! What reaches the canonical overload when a caller leaves arguments out. For each number of
arguments that may be left out there is one overload, and its call passes on the values it was
given, in order, and after them the defaults of the parameters that it does not have. -/

namespace Overloads.Proofs.ForwardedValues
open NativeDefaults OverloadSets

/-- What a call hands to a parameter: a value that the calling overload was given, or a constant
with what the call knows of the slot. -/
inductive Passed (α : Type)
  | value (v : α)
  | constant (literal : Literal) (wraps : Bool) (slot : Option Primitive)
deriving DecidableEq

/-- An argument, with the parameters of the calling overload bound to values. -/
def Passed.of? (bound : List (String × α)) : Argument → Option (Passed α)
  | .param name => (bound.lookup name).map .value
  | .literal literal wraps slot => some (.constant literal wraps slot)

/-- What the call in the body of an overload passes on when the overload is given these values. -/
def passes? (o : Overload) (values : List α) : Option (List (Passed α)) :=
  if values.length = o.arity then
    o.call?.bind fun call =>
      call.args.mapM (Passed.of? ((o.params.map TargetParam.name).zip values))
  else none

/-- As many parameters at the end have defaults, and no more. -/
structure LongestRun (m : Method) (count : Nat) : Prop where
  inside : count ≤ m.params.length
  defaulted : Omittable m (m.params.length - count)
  longest : ∀ other ≤ m.params.length, Omittable m (m.params.length - other) → other ≤ count

/-- The default of a parameter as it is passed on. It is wrapped where the slot is, unless it is
null. -/
def PassesDefault (r : Registry) (p : Parameter) (passed : Passed α) : Prop :=
  ∃ literal wraps, p.default = some literal ∧
    passed = .constant literal wraps (p.slot r).primitive? ∧
    (wraps = true ↔ (p.slot r).isWrapped = true ∧ literal ≠ .null)

/-- The canonical overload has every parameter, in order, and the body of the method. -/
structure Canonical (r : Registry) (m : Method) (canonical : Overload) : Prop where
  body : canonical.body = .source m.body
  names : canonical.params.map TargetParam.name = m.params.map Parameter.name
  slots : canonical.slots = m.params.map (Parameter.slot r)
  returnType : canonical.returnType = m.returnType.map (ReturnType.slot r)

/-- The overload keeps the first parameters of the canonical one, and passes it the values given for
them and the defaults of the others. -/
structure Forwards (r : Registry) (m : Method) (canonical : Overload) (keep : Nat) (o : Overload) :
    Prop where
  params : o.params = (canonical.params.take keep).map plainParam
  target : ∃ call, o.call? = some call ∧ (m.kind = .constructor → call.target = "this") ∧
    (m.kind = .method → call.target = m.name)
  passes : ∀ (α : Type) (values : List α), values.length = keep → ∃ constants,
    passes? o values = some (values.map .value ++ constants) ∧
    List.Forall₂ (PassesDefault r) (m.params.drop keep) constants ∧
    (values.map Passed.value ++ constants).length = canonical.arity

theorem longestRun (m : Method) : LongestRun m m.optionalCount := by
  have total := optionalStart_add m
  refine ⟨by omega, ?_, ?_⟩
  · rw [omittable_iff m (Nat.sub_le _ _)]
    omega
  · intro other inside omittable
    rw [omittable_iff m (Nat.sub_le _ _)] at omittable
    omega

private theorem mapM_of_map {f : α → Option β} {items : List α} {results : List β}
    (all : items.map f = results.map some) : items.mapM f = some results := by
  induction items generalizing results with
  | nil =>
    have empty := List.map_eq_nil_iff.mp all.symm
    subst results
    rfl
  | cons item items ih =>
    cases results with
    | nil => cases all
    | cons result results =>
      obtain ⟨head, tail⟩ := List.cons.inj all
      rw [List.mapM_cons, head, ih tail]
      rfl

/-- Names that differ from each other stand for the values they were bound to. -/
theorem lookup_zip {names : List String} {values : List α} (distinct : names.Nodup)
    (count : names.length = values.length) :
    names.map (fun name => (names.zip values).lookup name) = values.map some := by
  induction names generalizing values with
  | nil =>
    have empty := List.eq_nil_of_length_eq_zero count.symm
    subst values
    rfl
  | cons name names ih =>
    cases values with
    | nil => cases count
    | cons value values =>
      obtain ⟨fresh, distinct⟩ := List.nodup_cons.mp distinct
      have rest := ih distinct (Nat.succ.inj count)
      have others : ∀ other ∈ names,
          ((name, value) :: names.zip values).lookup other = (names.zip values).lookup other := by
        intro other member
        have different : (other == name) = false :=
          beq_eq_false_iff_ne.mpr (ne_of_mem_of_not_mem member fresh)
        rw [List.lookup_cons, different]
      rw [List.zip_cons_cons, List.map_cons, List.map_congr_left others, rest,
        List.lookup_cons_self, List.map_cons]

theorem passed_constant {r : Registry} {p : Parameter} {arg : Argument}
    (bound : List (String × α)) (given : p.argument? r = some arg) :
    ∃ constant, Passed.of? bound arg = some constant ∧ PassesDefault r p constant := by
  obtain ⟨literal, declared, rfl⟩ := Option.map_eq_some_iff.mp given
  refine ⟨_, rfl, literal, (p.slot r).isWrapped && !literal.isNull, declared, rfl, ?_⟩
  cases literal <;> simp [Literal.isNull]

theorem passed_constants {r : Registry} {omitted : List Parameter} {args : List Argument}
    (bound : List (String × α))
    (filled : List.Forall₂ (fun p arg => p.argument? r = some arg) omitted args) :
    ∃ constants, args.map (Passed.of? bound) = constants.map some ∧
      List.Forall₂ (PassesDefault r) omitted constants := by
  induction filled with
  | nil => exact ⟨[], rfl, .nil⟩
  | cons given _ ih =>
    obtain ⟨constant, first, head⟩ := passed_constant bound given
    obtain ⟨constants, others, related⟩ := ih
    exact ⟨constant :: constants, by rw [List.map_cons, first, others, List.map_cons],
      .cons head related⟩

/-- The call of a forwarding overload, given values for its parameters. -/
theorem forwarding_passes {s : Setting} {m : Method} {keep : Nat}
    (distinct : (m.params.map Parameter.name).Nodup) (least : m.optionalStart ≤ keep)
    (fewer : keep ≤ m.params.length) (values : List α) (count : values.length = keep) :
    ∃ constants, passes? (m.forwarding s keep) values = some (values.map .value ++ constants) ∧
      List.Forall₂ (PassesDefault s.registry) (m.params.drop keep) constants := by
  have names : (m.forwarding s keep).params.map TargetParam.name =
      (m.params.take keep).map Parameter.name := by
    simp only [Method.forwarding, List.map_map]
    rfl
  have length : ((m.params.take keep).map Parameter.name).length = values.length := by
    rw [List.length_map, List.length_take, count]
    omega
  have alone : ((m.params.take keep).map Parameter.name).Nodup := by
    rw [List.map_take]
    exact distinct.sublist (List.take_sublist _ _)
  have defaulted : ∀ p ∈ m.params.drop keep, p.hasDefault = true :=
    fun p member => omitted_hasDefault m (List.drop_subset_drop_left m.params least member)
  have filled := Resolution.forall₂_arguments (r := s.registry) defaulted fun _ _ _ given => given
  obtain ⟨constants, omitted, related⟩ :=
    passed_constants (((m.params.take keep).map Parameter.name).zip values) filled
  refine ⟨constants, ?_, related⟩
  have kept : ((m.params.take keep).map fun p => Argument.param p.name).map
      (Passed.of? (((m.params.take keep).map Parameter.name).zip values)) =
        (values.map Passed.value).map some := by
    have bound := congrArg (List.map (Option.map Passed.value)) (lookup_zip alone length)
    simpa only [List.map_map, Function.comp_def, Option.map_some, Passed.of?] using bound
  have arity : values.length = (m.forwarding s keep).arity := by
    rw [count, forwarding_arity s m fewer]
  rw [passes?, if_pos arity, names]
  refine mapM_of_map ?_
  rw [List.map_append, List.map_append, kept, ← omitted]

theorem forwarding_forwards {s : Setting} {m : Method} {keep : Nat}
    (distinct : (m.params.map Parameter.name).Nodup) (least : m.optionalStart ≤ keep)
    (fewer : keep ≤ m.params.length) :
    Forwards s.registry m (m.canonical s) keep (m.forwarding s keep) := by
  refine ⟨?_, ⟨_, rfl, ?_, ?_⟩, ?_⟩
  · have plain : (m.canonical s).params.map plainParam =
        m.params.map (Parameter.lower s.registry false) := map_targetParams (fun _ _ => rfl) m
    rw [List.map_take, plain, ← List.map_take]
    rfl
  · intro kind
    simp [Method.callTarget, kind]
  · intro kind
    simp [Method.callTarget, kind]
  · intro α values count
    obtain ⟨constants, passed, related⟩ := forwarding_passes distinct least fewer values count
    refine ⟨constants, passed, related, ?_⟩
    have rest := related.length_eq
    rw [List.length_drop] at rest
    rw [List.length_append, List.length_map, canonical_arity]
    omega

theorem modifiers_of_mem {s : Setting} {m : Method} {o : Overload} (member : o ∈ m.overloads s) :
    o.modifiers = m.modifiers := by
  rcases mem_overloads.mp member with rfl | ⟨_, _, _, rfl⟩ <;> rfl

theorem canonical_canonical (s : Setting) (m : Method) :
    Canonical s.registry m (m.canonical s) :=
  ⟨rfl, map_targetParams (fun _ _ => rfl) m, canonical_slots s m, rfl⟩

/-- A method that lowers has one canonical overload and, for each number of defaulted parameters at
the end, one overload without so many of them, which passes their defaults on. -/
theorem overloads_forward (s : Setting) (owner : String) (m : Method) {lowering : MethodLowering}
    (distinct : (m.params.map Parameter.name).Nodup) (lowered : m.lower s owner = .ok lowering) :
    ∃ count canonical, LongestRun m count ∧ lowering.overloads.length = count + 1 ∧
      lowering.overloads[0]? = some canonical ∧ Canonical s.registry m canonical ∧
      (∀ o ∈ lowering.overloads, o.name = m.name ∧ o.kind = m.kind ∧ o.modifiers = m.modifiers ∧
        o.returnType = canonical.returnType) ∧
      ∀ omitted, 1 ≤ omitted → omitted ≤ count → ∃ o, lowering.overloads[omitted]? = some o ∧
        Forwards s.registry m canonical (m.params.length - omitted) o := by
  have overloads : lowering.overloads = m.overloads s :=
    congrArg MethodLowering.overloads (lower_eq_ok_iff.mp lowered).2
  have total := optionalStart_add m
  rw [overloads]
  refine ⟨m.optionalCount, m.canonical s, longestRun m, ?_, rfl, canonical_canonical s m, ?_, ?_⟩
  · simp [Method.overloads]
  · intro o member
    obtain ⟨kind, name⟩ := origin_of_mem member
    exact ⟨name, kind, modifiers_of_mem member, returnType_of_mem member⟩
  · intro omitted positive few
    refine ⟨m.forwarding s (m.params.length - omitted), ?_,
      forwarding_forwards distinct (by omega) (Nat.sub_le _ _)⟩
    obtain ⟨i, rfl⟩ := Nat.exists_eq_add_of_le' positive
    have inside : i < m.optionalCount := by omega
    rw [Method.overloads, List.getElem?_cons_succ, List.getElem?_map, List.getElem?_range inside,
      Option.map_some, Nat.add_comm i 1, Nat.sub_add_eq]

example : passes? (optionalTail.forwarding ⟨.empty, true⟩ 2) [10, 20] =
    some [.value 10, .value 20, .constant (.int 4) true (some .int),
      .constant (.float ⟨0x3ff0000000000000⟩) false (some .single)] := by decide

theorem optionalTail_forwards :
    ∃ canonical o, (optionalTail.overloads ⟨.empty, true⟩)[0]? = some canonical ∧
      (optionalTail.overloads ⟨.empty, true⟩)[2]? = some o ∧
      (optionalTail.params.map Parameter.name).Nodup ∧
      Forwards .empty optionalTail canonical 2 o := by
  have lowered : optionalTail.lower ⟨.empty, true⟩ "T" = .ok ⟨optionalTail.overloads ⟨.empty, true⟩,
      optionalTail.diagnostics .empty "T"⟩ := lower_eq_ok_iff.mpr ⟨by decide, rfl⟩
  have distinct : (optionalTail.params.map Parameter.name).Nodup := by decide
  obtain ⟨count, canonical, run, _, first, _, _, forwards⟩ :=
    overloads_forward ⟨.empty, true⟩ "T" optionalTail distinct lowered
  have two : 2 ≤ count := run.longest 2 (by decide) (by unfold Omittable; decide)
  obtain ⟨o, second, forwarded⟩ := forwards 2 (by decide) two
  exact ⟨canonical, o, first, second, distinct, forwarded⟩

end Overloads.Proofs.ForwardedValues
