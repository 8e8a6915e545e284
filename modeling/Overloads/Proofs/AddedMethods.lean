import Overloads.Proofs.Balance
import Overloads.Proofs.Renumbering

/-! One more method in a type. If it fails, or shares no signature with the methods around it, they
are emitted as without it, and the same signatures collide. Declarations behind it move by one. -/

namespace Overloads.Proofs.AddedMethods
open Balance Emission OverloadSets Renumbering ReportedProblems SignatureGroups

/-- The type with these methods in place of its own. -/
def withMethods (t : TypeDecl) (methods : List Method) : TypeDecl := { t with methods }

/-- Where a declaration stands after one more at the position. -/
def shifted (position i : Nat) : Nat := if i < position then i else i + 1

/-- A method behind the one that was added. -/
def next (m : TargetMethod) : TargetMethod := { m with index := m.index + 1 }

/-- The collisions among what a type reports. -/
def collisionReports (l : TypeLowering) : List Diagnostic :=
  l.diagnostics.filter (·.kind == .signatureCollision)

/-- No overload of the method has a signature of another method that lowers. -/
def Unshared (s : Setting) (owner : String) (lowering : MethodLowering) (others : List Method) :
    Prop :=
  ∀ other ∈ others, ∀ l, other.lower s owner = .ok l →
    ∀ v ∈ lowering.overloads, ∀ w ∈ l.overloads,
      ¬ (v.kind = w.kind ∧ v.name = w.name ∧ v.slots = w.slots)

/-- What a type with one more method gives, against the type without it. For the method itself,
`own` is emitted. -/
structure Undisturbed (s : Setting) (t u : TypeDecl) (position : Nat) (own : List TargetMethod) :
    Prop where
  fields : (u.lower s).decl.fields = (t.lower s).decl.fields
  methods : ∃ earlier later, (t.lower s).decl.methods = earlier ++ later ∧
    (∀ target ∈ earlier, ∃ i < position, EmittedAs s t i target) ∧
    (∀ target ∈ later, ∃ i ≥ position, EmittedAs s t i target) ∧
    (u.lower s).decl.methods = earlier ++ own ++ later.map next
  reports : ∃ groups : List SignatureGroup,
    collisionReports (t.lower s) = groups.map (SignatureGroup.diagnostic t.name) ∧
    collisionReports (u.lower s) = groups.map fun g =>
      { g.diagnostic t.name with detail := (movedGroup (shifted position) g).detail }
  collisions : (u.lower s).stats.collisions = (t.lower s).stats.collisions
  declared : (u.lower s).stats.methods = (t.lower s).stats.methods + 1

theorem shifted_before {position i : Nat} (inside : i < position) : shifted position i = i :=
  if_pos inside

theorem shifted_behind {position i : Nat} (behind : position ≤ i) : shifted position i = i + 1 :=
  if_neg (Nat.not_lt.mpr behind)

theorem shifted_injective (position : Nat) : Function.Injective (shifted position) := by
  intro i j same
  simp only [shifted] at same
  split at same <;> split at same <;> omega

/-- All positions but the new one are taken by what was there before. -/
theorem exists_shifted {position i : Nat} (other : i ≠ position) : ∃ j, i = shifted position j := by
  rcases Nat.lt_or_gt_of_ne other with inside | behind
  · exact ⟨i, (shifted_before inside).symm⟩
  · obtain ⟨j, rfl⟩ := Nat.exists_eq_add_of_lt behind
    exact ⟨position + j, (shifted_behind (Nat.le_add_right position j)).symm⟩

theorem collisionReports_eq (s : Setting) (t : TypeDecl) :
    collisionReports (t.lower s) = (t.collisions s).diagnostics := by
  have all : ∀ d ∈ (t.collisions s).diagnostics, d.kind = .signatureCollision := by
    intro d member
    obtain ⟨g, _, rfl⟩ := List.mem_map.mp member
    rfl
  have full : count .signatureCollision (t.collisions s).diagnostics =
      (t.collisions s).diagnostics.length :=
    List.countP_eq_length.mpr fun d member => decide_eq_true (all d member)
  have total := count_collision s t
  rw [TypeDecl.diagnostics, count_append, full] at total
  have none : count .signatureCollision (t.fields.flatMap (Field.diagnostics s.registry t.name) ++
      (t.attempts s).flatMap (Attempt.diagnostics t.name)) = 0 := by
    omega
  have dropped := List.filter_eq_nil_iff.mpr (List.countP_eq_zero.mp none)
  have kept : (t.collisions s).diagnostics.filter (·.kind == .signatureCollision) =
      (t.collisions s).diagnostics :=
    List.filter_eq_self.mpr fun d member => beq_iff_eq.mpr (all d member)
  rw [collisionReports, TypeDecl.lower, TypeDecl.diagnostics, List.filter_append, kept]
  exact (congrArg (· ++ _) dropped).trans (List.nil_append _)

theorem clash_symm {s : Setting} {t : TypeDecl} {i j : Nat} (clash : Clash s t i j) :
    Clash s t j i := by
  obtain ⟨m, own, n, others, lowers, otherLowers, v, inOwn, w, inOther, same⟩ := clash
  exact ⟨n, others, m, own, otherLowers, lowers, w, inOther, v, inOwn,
    same.1.symm, same.2.1.symm, same.2.2.symm⟩

theorem moved_next {s : Setting} {t : TypeDecl} {i : Nat} {target : TargetMethod}
    (emitted : emittedAt s t i = some target) :
    moved i target = target ∧ moved (i + 1) target = next target := by
  obtain ⟨_, _, _, rfl⟩ := (emittedAt_eq_some_iff.mp emitted).2
  exact ⟨rfl, by rw [moved, next, UInt64.ofNat_add]; rfl⟩

section Insertion
variable {s : Setting} {t : TypeDecl} {before after : List Method} {m : Method}

theorem inserted_placed (t : TypeDecl) (before after : List Method) (m : Method) :
    Placed (withMethods t (before ++ after)) (withMethods t (before ++ m :: after))
      (shifted before.length) := by
  refine ⟨rfl, shifted_injective _, fun i => ?_⟩
  simp only [withMethods, shifted]
  split
  next inside => rw [List.getElem?_append_left inside, List.getElem?_append_left inside]
  next outside =>
    have behind : before.length ≤ i := Nat.le_of_not_lt outside
    rw [List.getElem?_append_right (by omega), List.getElem?_append_right behind,
      Nat.sub_add_comm behind, List.getElem?_cons_succ]

theorem inserted_at (t : TypeDecl) (before after : List Method) (m : Method) :
    (withMethods t (before ++ m :: after)).methods[before.length]? = some m := by
  simp [withMethods]

/-- What is emitted for the new method. -/
def ownOf (s : Setting) (owner : String) (position : Nat) (m : Method) : List TargetMethod :=
  match m.lower s owner with
  | .ok lowering => [⟨m.name, .ofNat position, lowering.overloads⟩]
  | .error _ => []

/-- The declarations in front of a position, and those from it on. -/
theorem emitted_split (s : Setting) (t : TypeDecl) (before after : List Method) :
    (withMethods t (before ++ after)).emitted s =
      (List.range before.length).filterMap (emittedAt s (withMethods t (before ++ after))) ++
        (List.range after.length).filterMap fun j =>
          emittedAt s (withMethods t (before ++ after)) (before.length + j) := by
  have count : (withMethods t (before ++ after)).methods.length = before.length + after.length :=
    List.length_append
  rw [emitted_eq, count, List.range_add, List.filterMap_append, List.filterMap_map]
  rfl

/-- The attempt at a method that is declared at the position. -/
def attemptAt (s : Setting) (owner : String) (declared : Method × Nat) : Attempt :=
  ⟨declared.2, declared.1, declared.1.lower s owner⟩

theorem attempts_eq (s : Setting) (t : TypeDecl) :
    t.attempts s = t.methods.zipIdx.map (attemptAt s t.name) := rfl

/-- The attempts at the other methods are the same, at their new positions. -/
theorem attempts_inserted (s : Setting) (t : TypeDecl) (before after : List Method) (m : Method) :
    ∃ first second : List Attempt,
      (withMethods t (before ++ after)).attempts s = first ++ second ∧
      (withMethods t (before ++ m :: after)).attempts s =
        first.map (fun a => { a with index := shifted before.length a.index }) ++
          ⟨before.length, m, m.lower s t.name⟩ ::
            second.map fun a => { a with index := shifted before.length a.index } := by
  refine ⟨before.zipIdx.map (attemptAt s t.name),
    (after.zipIdx before.length).map (attemptAt s t.name), ?_, ?_⟩
  · rw [attempts_eq, withMethods, List.zipIdx_append, List.map_append, Nat.zero_add]
  · have front : ∀ pair ∈ before.zipIdx, shifted before.length pair.2 = pair.2 :=
      fun pair member => shifted_before (List.snd_lt_of_mem_zipIdx member)
    have back : ∀ pair ∈ after.zipIdx before.length,
        shifted before.length pair.2 = pair.2 + 1 :=
      fun pair member => shifted_behind (List.le_snd_of_mem_zipIdx member)
    rw [attempts_eq, withMethods, List.zipIdx_append, List.zipIdx_cons, List.map_append,
      List.map_cons, Nat.zero_add, List.zipIdx_succ, List.map_map, List.map_map, List.map_map]
    congr 1
    · refine List.map_congr_left fun pair member => ?_
      rw [Function.comp_apply, attemptAt, front pair member]
    · congr 1
      refine List.map_congr_left fun pair member => ?_
      rw [Function.comp_apply, Function.comp_apply, attemptAt, attemptAt, back pair member]

section Sharing
variable (unshared : ∀ lowering, m.lower s t.name = .ok lowering →
  Unshared s t.name lowering (before ++ after))
include unshared

/-- A clash with the new method is a signature that it shares. -/
theorem not_clash_inserted (i : Nat) :
    ¬ Clash s (withMethods t (before ++ m :: after)) (shifted before.length i) before.length := by
  rintro ⟨n, others, own, overloads, lowers, ⟨found, diagnostics, lowered⟩, w, inOther, v, inOwn,
    same⟩
  obtain rfl := Option.some.inj ((inserted_at t before after m).symm.trans found)
  obtain ⟨declared, otherDiagnostics, otherLowered⟩ :=
    (inserted_placed t before after m).lowers_iff.mp lowers
  exact unshared _ lowered n (List.mem_of_getElem? declared) _ otherLowered v inOwn w inOther
    ⟨same.1.symm, same.2.1.symm, same.2.2.symm⟩

theorem emittedAt_inserted (i : Nat) :
    emittedAt s (withMethods t (before ++ m :: after)) (shifted before.length i) =
      (emittedAt s (withMethods t (before ++ after)) i).map (moved (shifted before.length i)) := by
  refine (inserted_placed t before after m).emittedAt_eq fun other clash => exists_shifted ?_
  rintro rfl
  exact not_clash_inserted unshared i clash

theorem emittedAt_earlier {i : Nat} (inside : i < before.length) :
    emittedAt s (withMethods t (before ++ m :: after)) i =
      emittedAt s (withMethods t (before ++ after)) i := by
  have place := emittedAt_inserted unshared i
  rw [shifted_before inside] at place
  rw [place]
  cases emitted : emittedAt s (withMethods t (before ++ after)) i with
  | none => rfl
  | some target => rw [Option.map_some, (moved_next emitted).1]

theorem emittedAt_later (j : Nat) :
    emittedAt s (withMethods t (before ++ m :: after)) (before.length + (j + 1)) =
      (emittedAt s (withMethods t (before ++ after)) (before.length + j)).map next := by
  have place := emittedAt_inserted unshared (before.length + j)
  rw [shifted_behind (Nat.le_add_right _ j)] at place
  rw [← Nat.add_assoc, place]
  cases emitted : emittedAt s (withMethods t (before ++ after)) (before.length + j) with
  | none => rfl
  | some target => rw [Option.map_some, Option.map_some, (moved_next emitted).2]

theorem emittedAt_own :
    (emittedAt s (withMethods t (before ++ m :: after)) before.length).toList =
      ownOf s t.name before.length m := by
  have found := inserted_at t before after m
  cases lowered : m.lower s t.name with
  | error e =>
    have none : emittedAt s (withMethods t (before ++ m :: after)) before.length = none := by
      refine Option.eq_none_iff_forall_not_mem.mpr fun target emitted => ?_
      obtain ⟨_, _, ⟨declared, _, succeeded⟩, _⟩ := (emittedAt_eq_some_iff.mp emitted).2
      obtain rfl := Option.some.inj (found.symm.trans declared)
      cases lowered.symm.trans succeeded
    rw [none, ownOf, lowered]
    rfl
  | ok lowering =>
    have lowers : Lowers s (withMethods t (before ++ m :: after)) before.length m
        lowering.overloads := ⟨found, lowering.diagnostics, lowered⟩
    have survives : Survives s (withMethods t (before ++ m :: after)) before.length := by
      refine ⟨⟨_, _, lowers⟩, fun other different clash => ?_⟩
      obtain ⟨i, rfl⟩ := exists_shifted different
      exact not_clash_inserted unshared i (clash_symm clash)
    rw [emittedAt_eq_some_iff.mpr ⟨survives, m, lowering.overloads, lowers, rfl⟩, ownOf, lowered]
    rfl

/-- The new method comes in between, and what is behind it moves. -/
theorem emitted_inserted :
    (withMethods t (before ++ m :: after)).emitted s =
      (List.range before.length).filterMap (emittedAt s (withMethods t (before ++ after))) ++
        ownOf s t.name before.length m ++
        ((List.range after.length).filterMap fun j =>
          emittedAt s (withMethods t (before ++ after)) (before.length + j)).map next := by
  have earlier : (List.range before.length).filterMap
        (emittedAt s (withMethods t (before ++ m :: after))) =
      (List.range before.length).filterMap (emittedAt s (withMethods t (before ++ after))) :=
    List.filterMap_congr fun i member => emittedAt_earlier unshared (List.mem_range.mp member)
  have later : (List.range after.length).filterMap (fun j =>
        emittedAt s (withMethods t (before ++ m :: after)) (before.length + (j + 1))) =
      ((List.range after.length).filterMap fun j =>
        emittedAt s (withMethods t (before ++ after)) (before.length + j)).map next := by
    rw [List.map_filterMap]
    exact List.filterMap_congr fun j _ => emittedAt_later unshared j
  have own := emittedAt_own unshared
  rw [emitted_split, earlier, ← later, ← own, List.length_cons, List.range_succ_eq_map,
    List.append_assoc]
  congr 1
  cases emitted : emittedAt s (withMethods t (before ++ m :: after)) before.length with
  | none => rw [List.filterMap_cons_none (by exact emitted), List.filterMap_map]; rfl
  | some target => rw [List.filterMap_cons_some (by exact emitted), List.filterMap_map]; rfl

/-- The same signatures collide, in the same order. -/
theorem colliding_inserted :
    colliding (((withMethods t (before ++ m :: after)).attempts s).flatMap entriesOf) =
      (colliding (((withMethods t (before ++ after)).attempts s).flatMap entriesOf)).map
        (movedGroup (shifted before.length)) := by
  obtain ⟨first, second, split, inserted⟩ := attempts_inserted s t before after m
  have old : ∀ attempts : List Attempt,
      (attempts.map fun a => { a with index := shifted before.length a.index }).flatMap entriesOf =
        (attempts.flatMap entriesOf).map (movedEntry (shifted before.length)) := by
    intro attempts
    simp only [List.flatMap_map, List.map_flatMap, entriesOf_moved]
  have own : ∀ e ∈ entriesOf ⟨before.length, m, m.lower s t.name⟩,
      e.2.index = before.length ∧ ∃ lowering, m.lower s t.name = .ok lowering ∧
        ∃ v ∈ lowering.overloads, v.signature = e.1 := by
    intro e member
    cases lowered : m.lower s t.name with
    | error _ => simp [entriesOf, lowered] at member
    | ok lowering =>
      simp only [entriesOf, lowered, List.mem_map] at member
      obtain ⟨v, present, rfl⟩ := member
      exact ⟨rfl, lowering, rfl, v, present, rfl⟩
  rw [← colliding_moved (shifted_injective _), inserted, split, List.flatMap_append,
    List.flatMap_cons, List.flatMap_append, List.map_append, old, old, ← List.append_assoc]
  refine colliding_insert ?_ fun e member other otherMember =>
    (own e member).1.trans (own other otherMember).1.symm
  intro e member other otherMember same
  obtain ⟨_, lowering, lowered, v, inOwn, signature⟩ := own e member
  rw [← List.map_append, ← List.flatMap_append, ← split] at otherMember
  obtain ⟨⟨_, o⟩, entry, rfl⟩ := List.mem_map.mp otherMember
  obtain ⟨n, overloads, ⟨declared, _, otherLowered⟩, w, inOther, rest⟩ := mem_entries.mp entry
  refine unshared lowering lowered n (List.mem_of_getElem? declared) _ otherLowered v inOwn w
    inOther ((signature_eq_iff v w).mp ?_)
  exact signature.trans (same.trans (congrArg Prod.fst rest))

/-- What is emitted from the position on stays behind what is emitted before it. -/
theorem undisturbed_inserted :
    Undisturbed s (withMethods t (before ++ after)) (withMethods t (before ++ m :: after))
      before.length (ownOf s t.name before.length m) := by
  have groups := colliding_inserted unshared
  refine ⟨rfl, ?_, ?_, ?_, ?_⟩
  · refine ⟨_, _, emitted_split s t before after, ?_, ?_, emitted_inserted unshared⟩
    · intro target member
      obtain ⟨i, inside, emitted⟩ := List.mem_filterMap.mp member
      exact ⟨i, List.mem_range.mp inside, (emittedAt_eq_some_iff.mp emitted).2⟩
    · intro target member
      obtain ⟨j, _, emitted⟩ := List.mem_filterMap.mp member
      exact ⟨before.length + j, Nat.le_add_right _ _, (emittedAt_eq_some_iff.mp emitted).2⟩
  · refine ⟨colliding (((withMethods t (before ++ after)).attempts s).flatMap entriesOf), ?_, ?_⟩
    · rw [collisionReports_eq, collision_diagnostics]
    · rw [collisionReports_eq, collision_diagnostics, groups, List.map_map]
      exact List.map_congr_left fun g _ => diagnostic_moved _ _ g
  · simp only [TypeDecl.lower, TypeDecl.stats, collision_diagnostics, groups, List.length_map]
  · simp [TypeDecl.lower, TypeDecl.stats, withMethods, UInt64.ofNat_add, ← UInt64.add_assoc]

end Sharing
end Insertion

section Counters
variable {s : Setting} {t u : TypeDecl} {position : Nat} {own : List TargetMethod}

theorem Undisturbed.skipped (undisturbed : Undisturbed s t u position own) :
    (u.lower s).stats.skippedMethods + .ofNat own.length =
      (t.lower s).stats.skippedMethods + 1 := by
  -- In both types, what is emitted and what is skipped add up to what is declared.
  obtain ⟨earlier, later, old, _, _, new⟩ := undisturbed.methods
  have balance := (balances_type s t).emitted
  have extended := (balances_type s u).emitted
  simp only [List.flatMap_singleton, old] at balance
  simp only [List.flatMap_singleton, new] at extended
  rw [undisturbed.declared] at extended
  simp only [List.length_append, List.length_map, UInt64.ofNat_add] at balance extended
  grind

theorem Undisturbed.overloads_perm (undisturbed : Undisturbed s t u position own) :
    ((u.lower s).decl.methods.flatMap TargetMethod.overloads).Perm
      ((t.lower s).decl.methods.flatMap TargetMethod.overloads ++
        own.flatMap TargetMethod.overloads) := by
  obtain ⟨earlier, later, old, _, _, new⟩ := undisturbed.methods
  have same : (later.map next).flatMap TargetMethod.overloads =
      later.flatMap TargetMethod.overloads := by
    rw [List.flatMap_map]
    rfl
  rw [old, new, List.flatMap_append, List.flatMap_append, List.flatMap_append, same,
    List.append_assoc, List.append_assoc]
  exact List.perm_append_comm.append_left _

theorem Undisturbed.overloads (undisturbed : Undisturbed s t u position own) :
    (u.lower s).stats.overloads =
      (t.lower s).stats.overloads + .ofNat (own.flatMap TargetMethod.overloads).length := by
  have count := undisturbed.overloads_perm.length_eq
  rw [List.length_append] at count
  rw [TypeDecl.lower, TypeDecl.lower, TypeDecl.stats, TypeDecl.stats, ← UInt64.ofNat_add]
  exact congrArg UInt64.ofNat count

theorem Undisturbed.forwarding (undisturbed : Undisturbed s t u position own) :
    (u.lower s).stats.forwarding = (t.lower s).stats.forwarding +
      .ofNat ((own.flatMap TargetMethod.overloads).countP (!·.isCanonical)) := by
  have count := undisturbed.overloads_perm.countP_eq (!·.isCanonical)
  rw [List.countP_append] at count
  rw [TypeDecl.lower, TypeDecl.lower, TypeDecl.stats, TypeDecl.stats, ← UInt64.ofNat_add]
  exact congrArg UInt64.ofNat count

end Counters

/-- A method that fails or shares no signature leaves everything around it alone. -/
theorem addition_local (s : Setting) (t : TypeDecl) (before after : List Method) (m : Method) :
    (∀ e, m.lower s t.name = .error e →
      Undisturbed s (withMethods t (before ++ after)) (withMethods t (before ++ m :: after))
          before.length [] ∧
        ((withMethods t (before ++ m :: after)).lower s).stats.skippedMethods =
          ((withMethods t (before ++ after)).lower s).stats.skippedMethods + 1 ∧
        ((withMethods t (before ++ m :: after)).lower s).stats.overloads =
          ((withMethods t (before ++ after)).lower s).stats.overloads ∧
        ((withMethods t (before ++ m :: after)).lower s).stats.forwarding =
          ((withMethods t (before ++ after)).lower s).stats.forwarding) ∧
    ∀ lowering, m.lower s t.name = .ok lowering → Unshared s t.name lowering (before ++ after) →
      Undisturbed s (withMethods t (before ++ after)) (withMethods t (before ++ m :: after))
          before.length [⟨m.name, .ofNat before.length, lowering.overloads⟩] ∧
        ((withMethods t (before ++ m :: after)).lower s).stats.skippedMethods =
          ((withMethods t (before ++ after)).lower s).stats.skippedMethods ∧
        ((withMethods t (before ++ m :: after)).lower s).stats.overloads =
          ((withMethods t (before ++ after)).lower s).stats.overloads +
            .ofNat lowering.overloads.length := by
  constructor
  · intro e failed
    have alone : ∀ other, m.lower s t.name = .ok other →
        Unshared s t.name other (before ++ after) := by
      intro other lowered
      cases failed.symm.trans lowered
    have undisturbed := undisturbed_inserted alone
    have nothing : ownOf s t.name before.length m = [] := by rw [ownOf, failed]
    rw [nothing] at undisturbed
    refine ⟨undisturbed, ?_, ?_, ?_⟩
    · simpa using undisturbed.skipped
    · simpa using undisturbed.overloads
    · simpa using undisturbed.forwarding
  · intro lowering lowered unshared
    have alone : ∀ other, m.lower s t.name = .ok other →
        Unshared s t.name other (before ++ after) := by
      intro other again
      rwa [← Except.ok.inj (lowered.symm.trans again)]
    have undisturbed := undisturbed_inserted alone
    have single : ownOf s t.name before.length m =
        [⟨m.name, .ofNat before.length, lowering.overloads⟩] := by rw [ownOf, lowered]
    rw [single] at undisturbed
    refine ⟨undisturbed, ?_, ?_⟩
    · simpa using undisturbed.skipped
    · simpa using undisturbed.overloads

/-- Two setters that collide, and a getter. -/
def crowded : TypeDecl :=
  { name := "T"
    methods := [
      { name := "set", params := [{ name := "x", type := .value "Int" }] },
      { name := "set", params := [{ name := "y", type := .value "Int" }] },
      { name := "get" }] }

/-- A setter whose default does not fit. -/
def broken : Method :=
  { name := "set", params := [{ name := "x", type := .value "Int", default := some (.bool true) }] }

/-- A setter with other types, which may be called in two ways. -/
def overloaded : Method :=
  { name := "set"
    params := [
      { name := "b", type := .value "Bool" },
      { name := "n", type := .value "Int", default := some (.int 4) }] }

theorem crowded_undisturbed :
    (crowded.lower ⟨.empty, true⟩).stats.collisions = 1 ∧
      Undisturbed ⟨.empty, true⟩ crowded
        (withMethods crowded (crowded.methods.take 1 ++ broken :: crowded.methods.drop 1)) 1 [] ∧
      Undisturbed ⟨.empty, true⟩ crowded
        (withMethods crowded (crowded.methods.take 1 ++ overloaded :: crowded.methods.drop 1)) 1
        [⟨"set", 1, overloaded.overloads ⟨.empty, true⟩⟩] := by
  have refused : broken.lower ⟨.empty, true⟩ "T" =
      .error (.incompatibleDefault "x" (.bool true) (.value (.bare (.primitive .int)))) :=
    lower_eq_error_iff.mpr rfl
  have lowered : overloaded.lower ⟨.empty, true⟩ "T" =
      .ok ⟨overloaded.overloads ⟨.empty, true⟩, overloaded.diagnostics .empty "T"⟩ :=
    lower_eq_ok_iff.mpr ⟨by decide, rfl⟩
  have apart : ∀ other ∈ crowded.methods.take 1 ++ crowded.methods.drop 1,
      ∀ v ∈ overloaded.overloads ⟨.empty, true⟩, ∀ w ∈ other.overloads ⟨.empty, true⟩,
        ¬ (v.kind = w.kind ∧ v.name = w.name ∧ v.slots = w.slots) := by
    decide
  have unshared : Unshared ⟨.empty, true⟩ "T"
      ⟨overloaded.overloads ⟨.empty, true⟩, overloaded.diagnostics .empty "T"⟩
      (crowded.methods.take 1 ++ crowded.methods.drop 1) := by
    intro other member l otherLowered
    obtain ⟨_, rfl⟩ := lower_eq_ok_iff.mp otherLowered
    exact apart other member
  have added := addition_local ⟨.empty, true⟩ crowded (crowded.methods.take 1)
    (crowded.methods.drop 1)
  obtain ⟨fails, _⟩ := added broken
  obtain ⟨_, emitted⟩ := added overloaded
  exact ⟨by decide, (fails _ refused).1, (emitted _ lowered unshared).1⟩

end Overloads.Proofs.AddedMethods
