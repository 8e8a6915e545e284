import Overloads.Lowering.Type
import Overloads.Proofs.OverloadSets
import Overloads.Proofs.SignatureGroups
import Mathlib.Data.List.Forall2

/-! Which methods of a type are emitted. A method is dropped if its own lowering fails or if
another method that lowers has an overload with the same signature, and for no other reason. -/

namespace Overloads.Proofs.Emission
open SignatureGroups OverloadSets

/-- The method declared at the index lowers to these overloads. -/
def Lowers (s : Setting) (t : TypeDecl) (index : Nat) (m : Method) (overloads : List Overload) :
    Prop :=
  t.methods[index]? = some m ∧
    ∃ diagnostics, m.lower s t.name = .ok ⟨overloads, diagnostics⟩

/-- Two declarations lower to overloads that the target cannot tell apart. -/
def Clash (s : Setting) (t : TypeDecl) (index other : Nat) : Prop :=
  ∃ m own n others, Lowers s t index m own ∧ Lowers s t other n others ∧
    ∃ first ∈ own, ∃ second ∈ others,
      first.kind = second.kind ∧ first.name = second.name ∧ first.slots = second.slots

structure Survives (s : Setting) (t : TypeDecl) (index : Nat) : Prop where
  lowers : ∃ m overloads, Lowers s t index m overloads
  alone : ∀ other, other ≠ index → ¬ Clash s t index other

/-- What is emitted for a declaration. -/
def EmittedAs (s : Setting) (t : TypeDecl) (index : Nat) (target : TargetMethod) : Prop :=
  ∃ m overloads, Lowers s t index m overloads ∧ target = ⟨m.name, .ofNat index, overloads⟩

theorem signature_eq_iff (first second : Overload) :
    first.signature = second.signature ↔
      first.kind = second.kind ∧ first.name = second.name ∧ first.slots = second.slots := by
  simp [Overload.signature]

theorem mem_attempts {s : Setting} {t : TypeDecl} {a : Attempt} :
    a ∈ t.attempts s ↔
      t.methods[a.index]? = some a.method ∧ a.outcome = a.method.lower s t.name := by
  simp only [TypeDecl.attempts, List.mem_map, Prod.exists, List.mem_zipIdx_iff_getElem?]
  constructor
  · rintro ⟨m, index, declared, rfl⟩
    exact ⟨declared, rfl⟩
  · rintro ⟨declared, outcome⟩
    exact ⟨a.method, a.index, declared, by rw [← outcome]⟩

theorem attempts_methods (s : Setting) (t : TypeDecl) :
    (t.attempts s).map Attempt.method = t.methods := by
  simp [TypeDecl.attempts, Function.comp_def, List.zipIdx_map_fst]

theorem attempts_indices (s : Setting) (t : TypeDecl) :
    (t.attempts s).map Attempt.index = List.range t.methods.length := by
  simp [TypeDecl.attempts, Function.comp_def, List.zipIdx_map_snd, List.range_eq_range']

theorem attempts_ordered (s : Setting) (t : TypeDecl) :
    (t.attempts s).Pairwise fun earlier later => earlier.index < later.index := by
  rw [← List.pairwise_map, attempts_indices]
  exact List.pairwise_lt_range

theorem Lowers.of_attempt {s : Setting} {t : TypeDecl} {a : Attempt} {lowering : MethodLowering}
    (attempted : a ∈ t.attempts s) (outcome : a.outcome = .ok lowering) :
    Lowers s t a.index a.method lowering.overloads := by
  obtain ⟨declared, lowered⟩ := mem_attempts.mp attempted
  exact ⟨declared, lowering.diagnostics, by rw [← lowered, outcome]⟩

theorem Lowers.outcome_eq {s : Setting} {t : TypeDecl} {a : Attempt} {m : Method}
    {overloads : List Overload} (lowers : Lowers s t a.index m overloads)
    (attempted : a ∈ t.attempts s) :
    m = a.method ∧ ∃ diagnostics, a.outcome = .ok ⟨overloads, diagnostics⟩ := by
  obtain ⟨declared, lowered⟩ := mem_attempts.mp attempted
  obtain ⟨found, diagnostics, succeeded⟩ := lowers
  have same := Option.some.inj (found.symm.trans declared)
  subst same
  exact ⟨rfl, diagnostics, lowered.trans succeeded⟩

/-- What an attempt hands to the collision detector. -/
def entriesOf (a : Attempt) : List Entry :=
  match a.outcome with
  | .ok lowering => lowering.overloads.map (entryOf a.index a.method.span)
  | .error _ => []

theorem record_attempts (attempts : List Attempt) (entries : List Entry) :
    attempts.foldl Attempt.record ⟨groupsOf entries⟩ =
      ⟨groupsOf (entries ++ attempts.flatMap entriesOf)⟩ := by
  induction attempts generalizing entries with
  | nil => simp
  | cons a attempts ih =>
    rw [List.foldl_cons, List.flatMap_cons, ← List.append_assoc, ← ih]
    congr 1
    cases outcome : a.outcome with
    | ok lowering => simp only [Attempt.record, entriesOf, outcome, record_groupsOf]
    | error e => simp only [Attempt.record, entriesOf, outcome, List.append_nil]

theorem collisions_eq (s : Setting) (t : TypeDecl) :
    t.collisions s =
      CollisionDetector.report ⟨groupsOf ((t.attempts s).flatMap entriesOf)⟩ t.name := by
  have run := record_attempts (t.attempts s) []
  rw [List.nil_append] at run
  rw [← run]
  rfl

theorem mem_entries {s : Setting} {t : TypeDecl} {signature : Signature} {o : Occurrence} :
    (signature, o) ∈ (t.attempts s).flatMap entriesOf ↔
      ∃ m overloads, Lowers s t o.index m overloads ∧
        ∃ overload ∈ overloads, (signature, o) = entryOf o.index m.span overload := by
  simp only [List.mem_flatMap]
  constructor
  · rintro ⟨a, member, entry⟩
    cases outcome : a.outcome with
    | error e => simp [entriesOf, outcome] at entry
    | ok lowering =>
      simp only [entriesOf, outcome, List.mem_map] at entry
      obtain ⟨overload, present, same⟩ := entry
      have lowers := Lowers.of_attempt member outcome
      have index : a.index = o.index := congrArg (fun entry => entry.2.index) same
      rw [index] at lowers same
      exact ⟨a.method, lowering.overloads, lowers, overload, present, same.symm⟩
  · rintro ⟨m, overloads, ⟨declared, diagnostics, lowered⟩, overload, present, same⟩
    refine ⟨⟨o.index, m, m.lower s t.name⟩, mem_attempts.mpr ⟨declared, rfl⟩, ?_⟩
    simp only [entriesOf, lowered, List.mem_map]
    exact ⟨overload, present, same.symm⟩

theorem isSkipped_iff (s : Setting) (t : TypeDecl) (index : Nat) :
    (t.collisions s).isSkipped index = true ↔ ∃ other, other ≠ index ∧ Clash s t index other := by
  simp only [CollisionReport.isSkipped, List.contains_eq_mem, decide_eq_true_eq, collisions_eq,
    mem_skipped_iff]
  constructor
  · rintro ⟨signature, first, second, firstEntry, secondEntry, rfl, different⟩
    obtain ⟨m, own, lowers, overload, present, same⟩ := mem_entries.mp firstEntry
    obtain ⟨n, others, otherLowers, rival, rivalPresent, rivalSame⟩ := mem_entries.mp secondEntry
    refine ⟨second.index, different, m, own, n, others, lowers, otherLowers, overload, present, rival,
      rivalPresent, (signature_eq_iff _ _).mp ?_⟩
    exact (congrArg Prod.fst same).symm.trans (congrArg Prod.fst rivalSame)
  · rintro ⟨other, different, m, own, n, others, lowers, otherLowers, overload, present, rival,
      rivalPresent, same⟩
    refine ⟨overload.signature, ⟨index, overload.isCanonical, m.span⟩,
      ⟨other, rival.isCanonical, n.span⟩, ?_, ?_, rfl, different⟩
    · exact mem_entries.mpr ⟨m, own, lowers, overload, present, rfl⟩
    · refine mem_entries.mpr ⟨n, others, otherLowers, rival, rivalPresent, ?_⟩
      rw [(signature_eq_iff _ _).mpr same]
      rfl

/-- An attempt is emitted if it survives, as its declaration says. -/
theorem emitted?_eq_some_iff {s : Setting} {t : TypeDecl} {a : Attempt}
    (attempted : a ∈ t.attempts s) {target : TargetMethod} :
    a.emitted? (t.collisions s) = some target ↔
      Survives s t a.index ∧ EmittedAs s t a.index target := by
  cases outcome : a.outcome with
  | error e =>
    simp only [Attempt.emitted?, outcome]
    constructor
    · intro impossible
      cases impossible
    · rintro ⟨⟨⟨m, overloads, lowers⟩, _⟩, _⟩
      obtain ⟨_, diagnostics, succeeded⟩ := lowers.outcome_eq attempted
      rw [outcome] at succeeded
      cases succeeded
  | ok lowering =>
    have lowers := Lowers.of_attempt attempted outcome
    simp only [Attempt.emitted?, outcome]
    by_cases skipped : (t.collisions s).isSkipped a.index = true
    · rw [if_pos skipped]
      obtain ⟨other, different, clash⟩ := (isSkipped_iff s t a.index).mp skipped
      constructor
      · intro impossible
        cases impossible
      · exact fun ⟨survives, _⟩ => False.elim (survives.alone other different clash)
    · rw [if_neg skipped]
      have survives : Survives s t a.index := by
        refine ⟨⟨_, _, lowers⟩, ?_⟩
        intro other different clash
        exact skipped ((isSkipped_iff s t a.index).mpr ⟨other, different, clash⟩)
      constructor
      · intro same
        exact ⟨survives, a.method, lowering.overloads, lowers, (Option.some.inj same).symm⟩
      · rintro ⟨_, m, overloads, found, rfl⟩
        obtain ⟨rfl, diagnostics, succeeded⟩ := found.outcome_eq attempted
        rw [outcome] at succeeded
        cases succeeded
        rfl

private theorem forall₂_filterMap {ι : Type} {R : ι → β → Prop} (f : α → Option β) (g : α → ι)
    (items : List α) (related : ∀ item ∈ items, ∀ result, f item = some result → R (g item) result) :
    List.Forall₂ R ((items.filter fun item => (f item).isSome).map g) (items.filterMap f) := by
  induction items with
  | nil => exact .nil
  | cons item items ih =>
    have rest := ih fun other member => related other (List.mem_cons_of_mem _ member)
    cases result : f item with
    | none => simpa [result] using rest
    | some value =>
      simpa [result] using List.Forall₂.cons (related item (by simp) value result) rest

/-- The declarations that are emitted. -/
def survivors (s : Setting) (t : TypeDecl) : List Nat :=
  ((t.attempts s).filter fun a => (a.emitted? (t.collisions s)).isSome).map Attempt.index

theorem survivors_ordered (s : Setting) (t : TypeDecl) : (survivors s t).Pairwise (· < ·) := by
  rw [survivors, List.pairwise_map]
  exact (attempts_ordered s t).sublist List.filter_sublist

theorem mem_survivors {s : Setting} {t : TypeDecl} {index : Nat} :
    index ∈ survivors s t ↔ Survives s t index := by
  simp only [survivors, List.mem_map, List.mem_filter, Option.isSome_iff_exists]
  constructor
  · rintro ⟨a, ⟨member, target, emitted⟩, rfl⟩
    exact ((emitted?_eq_some_iff member).mp emitted).1
  · intro survives
    obtain ⟨m, overloads, declared, diagnostics, lowered⟩ := survives.lowers
    have member : (⟨index, m, m.lower s t.name⟩ : Attempt) ∈ t.attempts s :=
      mem_attempts.mpr ⟨declared, rfl⟩
    exact ⟨_, ⟨member, _, (emitted?_eq_some_iff member).mpr
      ⟨survives, m, overloads, ⟨declared, diagnostics, lowered⟩, rfl⟩⟩, rfl⟩

theorem emitted_survivors (s : Setting) (t : TypeDecl) :
    List.Forall₂ (EmittedAs s t) (survivors s t) (t.emitted s) := by
  apply forall₂_filterMap
  intro a member target emitted
  exact ((emitted?_eq_some_iff member).mp emitted).2

theorem mem_emitted {s : Setting} {t : TypeDecl} {target : TargetMethod} :
    target ∈ t.emitted s ↔ ∃ index, Survives s t index ∧ EmittedAs s t index target := by
  simp only [TypeDecl.emitted, List.mem_filterMap]
  constructor
  · rintro ⟨a, member, emitted⟩
    exact ⟨a.index, (emitted?_eq_some_iff member).mp emitted⟩
  · rintro ⟨index, survives, m, overloads, ⟨declared, lowered⟩, same⟩
    have member : (⟨index, m, m.lower s t.name⟩ : Attempt) ∈ t.attempts s :=
      mem_attempts.mpr ⟨declared, rfl⟩
    exact ⟨_, member, (emitted?_eq_some_iff member).mpr
      ⟨survives, m, overloads, ⟨declared, lowered⟩, same⟩⟩

theorem Lowers.overloads_eq {s : Setting} {t : TypeDecl} {index : Nat} {m : Method}
    {overloads : List Overload} (lowers : Lowers s t index m overloads) :
    overloads = m.overloads s := by
  obtain ⟨_, diagnostics, lowered⟩ := lowers
  exact congrArg MethodLowering.overloads (lower_eq_ok_iff.mp lowered).2

/-- The overloads of a lowered type are those of the declarations that survive. -/
theorem mem_lowered {s : Setting} {t : TypeDecl} {o : Overload} :
    o ∈ (t.lower s).decl.overloads ↔
      ∃ index m, Survives s t index ∧ t.methods[index]? = some m ∧ o ∈ m.overloads s := by
  simp only [TypeDecl.lower, TargetType.overloads, List.mem_flatMap, mem_emitted]
  constructor
  · rintro ⟨target, ⟨index, survives, m, overloads, lowers, rfl⟩, inside⟩
    exact ⟨index, m, survives, lowers.1, lowers.overloads_eq ▸ inside⟩
  · rintro ⟨index, m, survives, declared, inside⟩
    obtain ⟨n, overloads, lowers⟩ := survives.lowers
    have same := Option.some.inj (lowers.1.symm.trans declared)
    subst same
    exact ⟨_, ⟨index, survives, _, overloads, lowers, rfl⟩, lowers.overloads_eq ▸ inside⟩

/-- The target can tell all overloads of a lowered type apart. -/
theorem overloads_distinct (s : Setting) (t : TypeDecl) :
    ((t.lower s).decl.overloads.map Overload.signature).Nodup := by
  simp only [TypeDecl.lower, TargetType.overloads, List.map_flatMap]
  refine List.pairwise_flatMap.mpr ⟨?_, ?_⟩
  · intro target member
    obtain ⟨index, _, m, overloads, lowers, rfl⟩ := mem_emitted.mp member
    rw [lowers.overloads_eq]
    exact signatures_nodup s m
  · refine List.pairwise_filterMap.mpr ((attempts_ordered s t).imp_of_mem ?_)
    intro a b first second before target emitted other otherEmitted
    obtain ⟨survives, m, own, lowers, rfl⟩ := (emitted?_eq_some_iff first).mp emitted
    obtain ⟨_, n, others, otherLowers, rfl⟩ := (emitted?_eq_some_iff second).mp otherEmitted
    intro signature inside rival inOther same
    obtain ⟨overload, present, rfl⟩ := List.mem_map.mp inside
    obtain ⟨competitor, competitorPresent, rfl⟩ := List.mem_map.mp inOther
    exact survives.alone b.index (Nat.ne_of_gt before)
      ⟨m, own, n, others, lowers, otherLowers, overload, present, competitor, competitorPresent,
        (signature_eq_iff _ _).mp same⟩

/-- Exactly the declarations that survive are emitted, in their order and as they lower on their
own, and all overloads of the type differ in their signatures. -/
theorem emission_exact (s : Setting) (t : TypeDecl) :
    ∃ indices : List Nat, indices.Pairwise (· < ·) ∧
      (∀ index, index ∈ indices ↔ Survives s t index) ∧
      List.Forall₂ (EmittedAs s t) indices (t.lower s).decl.methods ∧
      ((t.lower s).decl.overloads.map Overload.signature).Nodup :=
  ⟨survivors s t, survivors_ordered s t, fun _ => mem_survivors, emitted_survivors s t,
    overloads_distinct s t⟩

end Overloads.Proofs.Emission
