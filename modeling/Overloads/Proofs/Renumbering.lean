import Overloads.Proofs.Emission
import Mathlib.Logic.Function.Basic

/-! Declarations at other positions. If the methods of one type stand in another, each at a place of
its own, they lower, collide and survive there as before, and what is emitted for them differs in
its index alone. The collision detector sees indices only to tell declarations apart. -/

namespace Overloads.Proofs.Renumbering
open CollisionDetector (report)
open Emission SignatureGroups

/-- The methods of the first type stand in the second, each at its place. -/
structure Placed (t u : TypeDecl) (place : Nat → Nat) : Prop where
  name : u.name = t.name
  injective : Function.Injective place
  methods : ∀ i, u.methods[place i]? = t.methods[i]?

section Places
variable {s : Setting} {t u : TypeDecl} {place : Nat → Nat}

theorem Placed.lowers_iff (placed : Placed t u place) {i : Nat} {m : Method}
    {overloads : List Overload} :
    Lowers s u (place i) m overloads ↔ Lowers s t i m overloads := by
  simp only [Lowers, placed.methods, placed.name]

theorem Placed.clash_iff (placed : Placed t u place) {i j : Nat} :
    Clash s u (place i) (place j) ↔ Clash s t i j := by
  simp only [Clash, placed.lowers_iff]

/-- A declaration survives at its place if it clashes with nothing that is new. -/
theorem Placed.survives_iff (placed : Placed t u place) {i : Nat}
    (known : ∀ other, Clash s u (place i) other → ∃ j, other = place j) :
    Survives s u (place i) ↔ Survives s t i := by
  constructor
  · rintro ⟨⟨m, overloads, lowers⟩, alone⟩
    refine ⟨⟨m, overloads, placed.lowers_iff.mp lowers⟩, fun other different clash => ?_⟩
    exact alone (place other) (placed.injective.ne different) (placed.clash_iff.mpr clash)
  · rintro ⟨⟨m, overloads, lowers⟩, alone⟩
    refine ⟨⟨m, overloads, placed.lowers_iff.mpr lowers⟩, fun other different clash => ?_⟩
    obtain ⟨j, rfl⟩ := known other clash
    exact alone j (fun same => different (congrArg place same)) (placed.clash_iff.mp clash)

/-- The declaration at the position lowers to an overload with this signature. -/
def Bears (s : Setting) (t : TypeDecl) (i : Nat) (signature : Signature) : Prop :=
  ∃ m overloads, Lowers s t i m overloads ∧ ∃ o ∈ overloads, o.signature = signature

theorem Placed.bears_iff (placed : Placed t u place) {i : Nat} {signature : Signature} :
    Bears s u (place i) signature ↔ Bears s t i signature := by
  simp only [Bears, placed.lowers_iff]

/-- A method with the index of another declaration. -/
def moved (index : Nat) (m : TargetMethod) : TargetMethod := { m with index := .ofNat index }

@[simp] theorem moved_canonical? (index : Nat) (m : TargetMethod) :
    (moved index m).canonical? = m.canonical? := rfl

/-- What is emitted for the declaration at the position, if anything. -/
def emittedAt (s : Setting) (t : TypeDecl) (i : Nat) : Option TargetMethod :=
  (t.attempts s)[i]?.bind (Attempt.emitted? (t.collisions s))

theorem attempts_getElem? (s : Setting) (t : TypeDecl) (i : Nat) :
    (t.attempts s)[i]? = t.methods[i]?.map fun m => ⟨i, m, m.lower s t.name⟩ := by
  simp [TypeDecl.attempts, List.getElem?_zipIdx, Function.comp_def]

theorem emittedAt_eq_some_iff {i : Nat} {target : TargetMethod} :
    emittedAt s t i = some target ↔ Survives s t i ∧ EmittedAs s t i target := by
  simp only [emittedAt, Option.bind_eq_some_iff]
  constructor
  · rintro ⟨a, found, emitted⟩
    have attempted := List.mem_of_getElem? found
    rw [attempts_getElem?, Option.map_eq_some_iff] at found
    obtain ⟨m, _, rfl⟩ := found
    exact (emitted?_eq_some_iff attempted).mp emitted
  · rintro ⟨survives, emitted⟩
    obtain ⟨m, overloads, lowers⟩ := survives.lowers
    have found : (t.attempts s)[i]? = some ⟨i, m, m.lower s t.name⟩ := by
      rw [attempts_getElem?, lowers.1, Option.map_some]
    exact ⟨_, found, (emitted?_eq_some_iff (List.mem_of_getElem? found)).mpr ⟨survives, emitted⟩⟩

private theorem filterMap_positions (f : α → Option β) (items : List α) :
    items.filterMap f = (List.range items.length).filterMap fun i => items[i]?.bind f := by
  have positions : (List.range items.length).map (items[·]?) = items.map some := by
    refine List.ext_getElem (by simp) fun i first second => ?_
    have inside : i < items.length := by simpa using second
    simp [inside]
  have searched := congrArg (List.filterMap (Option.bind · f)) positions
  simpa only [List.filterMap_map, Function.comp_def, Option.bind_some] using searched.symm

/-- The emitted methods, declaration by declaration. -/
theorem emitted_eq (s : Setting) (t : TypeDecl) :
    t.emitted s = (List.range t.methods.length).filterMap (emittedAt s t) := by
  have count : (t.attempts s).length = t.methods.length := by
    rw [← attempts_methods s t, List.length_map]
  rw [TypeDecl.emitted, filterMap_positions, count]
  rfl

theorem Placed.emittedAs_iff (placed : Placed t u place) {i : Nat} {target : TargetMethod} :
    EmittedAs s u (place i) target ↔
      ∃ source, EmittedAs s t i source ∧ moved (place i) source = target := by
  constructor
  · rintro ⟨m, overloads, lowers, rfl⟩
    exact ⟨_, ⟨m, overloads, placed.lowers_iff.mp lowers, rfl⟩, rfl⟩
  · rintro ⟨_, ⟨m, overloads, lowers, rfl⟩, rfl⟩
    exact ⟨m, overloads, placed.lowers_iff.mpr lowers, rfl⟩

theorem Placed.emittedAt_eq (placed : Placed t u place) {i : Nat}
    (known : ∀ other, Clash s u (place i) other → ∃ j, other = place j) :
    emittedAt s u (place i) = (emittedAt s t i).map (moved (place i)) := by
  refine Option.ext fun target => ?_
  rw [emittedAt_eq_some_iff, Option.map_eq_some_iff, placed.survives_iff known,
    placed.emittedAs_iff]
  simp only [emittedAt_eq_some_iff, and_assoc, exists_and_left]

end Places

/-- An occurrence of a declaration that stands elsewhere. -/
def movedOccurrence (place : Nat → Nat) (o : Occurrence) : Occurrence :=
  { o with index := place o.index }

def movedEntry (place : Nat → Nat) (e : Entry) : Entry := (e.1, movedOccurrence place e.2)

def movedGroup (place : Nat → Nat) (g : SignatureGroup) : SignatureGroup :=
  { g with occurrences := g.occurrences.map (movedOccurrence place) }

theorem occurrencesOf_moved (place : Nat → Nat) (entries : List Entry) (signature : Signature) :
    occurrencesOf (entries.map (movedEntry place)) signature =
      (occurrencesOf entries signature).map (movedOccurrence place) := by
  simp only [occurrencesOf, List.filter_map, List.map_map]
  rfl

theorem groupsOf_moved (place : Nat → Nat) (entries : List Entry) :
    groupsOf (entries.map (movedEntry place)) = (groupsOf entries).map (movedGroup place) := by
  simp only [groupsOf, List.map_map, Function.comp_def, occurrencesOf_moved]
  rfl

/-- The number of declarations in a group does not depend on where they stand. -/
theorem collides_moved {place : Nat → Nat} (injective : Function.Injective place)
    (g : SignatureGroup) : (movedGroup place g).collides = g.collides := by
  have indices : ∀ o : Occurrence, (movedOccurrence place o).index = place o.index := fun _ => rfl
  rw [Bool.eq_iff_iff, collides_iff, collides_iff]
  simp only [movedGroup, List.mem_map, exists_exists_and_eq_and, indices, injective.ne_iff]

@[simp] theorem span_moved (place : Nat → Nat) (g : SignatureGroup) :
    (movedGroup place g).span = g.span := by
  simp only [SignatureGroup.span, movedGroup, ← List.map_reverse, List.findSome?_map]
  rfl

/-- The diagnostic on a group shows the positions of its declarations in the detail only. -/
theorem diagnostic_moved (place : Nat → Nat) (owner : String) (g : SignatureGroup) :
    (movedGroup place g).diagnostic owner =
      { g.diagnostic owner with detail := (movedGroup place g).detail } := by
  simp only [SignatureGroup.diagnostic, span_moved]
  rfl

theorem entriesOf_moved (place : Nat → Nat) (a : Attempt) :
    entriesOf { a with index := place a.index } = (entriesOf a).map (movedEntry place) := by
  obtain ⟨index, method, outcome⟩ := a
  cases outcome with
  | error e => rfl
  | ok lowering =>
    simp only [entriesOf, List.map_map]
    rfl

def colliding (entries : List Entry) : List SignatureGroup :=
  (groupsOf entries).filter SignatureGroup.collides

theorem colliding_moved {place : Nat → Nat} (injective : Function.Injective place)
    (entries : List Entry) :
    colliding (entries.map (movedEntry place)) = (colliding entries).map (movedGroup place) := by
  have same : SignatureGroup.collides ∘ movedGroup place = SignatureGroup.collides :=
    funext fun g => collides_moved injective g
  rw [colliding, groupsOf_moved, List.filter_map, same, colliding]

theorem collision_diagnostics (s : Setting) (t : TypeDecl) :
    (t.collisions s).diagnostics =
      (colliding ((t.attempts s).flatMap entriesOf)).map (SignatureGroup.diagnostic t.name) := by
  rw [collisions_eq]
  rfl

theorem mem_colliding_signatures {entries : List Entry} {signature : Signature} :
    signature ∈ (colliding entries).map SignatureGroup.signature ↔
      ∃ first second, (signature, first) ∈ entries ∧ (signature, second) ∈ entries ∧
        first.index ≠ second.index := by
  simp only [colliding, List.mem_map, List.mem_filter, mem_groupsOf, collides_iff]
  constructor
  · rintro ⟨g, ⟨⟨_, content⟩, first, firstMember, second, secondMember, different⟩, rfl⟩
    rw [content, mem_occurrencesOf] at firstMember secondMember
    exact ⟨first, second, firstMember, secondMember, different⟩
  · rintro ⟨first, second, firstMember, secondMember, different⟩
    refine ⟨⟨signature, occurrencesOf entries signature⟩, ⟨⟨⟨first, firstMember⟩, rfl⟩, ?_⟩, rfl⟩
    exact ⟨first, mem_occurrencesOf.mpr firstMember, second, mem_occurrencesOf.mpr secondMember,
      different⟩

theorem mem_colliding_indices {entries : List Entry} {signature : Signature} :
    signature ∈ (colliding entries).map SignatureGroup.signature ↔
      ∃ i j, i ≠ j ∧ (∃ o, (signature, o) ∈ entries ∧ o.index = i) ∧
        ∃ o, (signature, o) ∈ entries ∧ o.index = j := by
  rw [mem_colliding_signatures]
  constructor
  · rintro ⟨first, second, member, otherMember, different⟩
    exact ⟨_, _, different, ⟨first, member, rfl⟩, ⟨second, otherMember, rfl⟩⟩
  · rintro ⟨_, _, different, ⟨first, member, rfl⟩, ⟨second, otherMember, rfl⟩⟩
    exact ⟨first, second, member, otherMember, different⟩

theorem mem_entries_iff_bears {s : Setting} {t : TypeDecl} {i : Nat} {signature : Signature} :
    (∃ o, (signature, o) ∈ (t.attempts s).flatMap entriesOf ∧ o.index = i) ↔
      Bears s t i signature := by
  constructor
  · rintro ⟨o, member, rfl⟩
    obtain ⟨m, overloads, lowers, overload, present, same⟩ := mem_entries.mp member
    exact ⟨m, overloads, lowers, overload, present, (congrArg Prod.fst same).symm⟩
  · rintro ⟨m, overloads, lowers, overload, present, rfl⟩
    exact ⟨⟨i, overload.isCanonical, m.span⟩,
      mem_entries.mpr ⟨m, overloads, lowers, overload, present, rfl⟩, rfl⟩

/-- A collision is a signature that two declarations bear. -/
theorem mem_collisions_iff {s : Setting} {t : TypeDecl} {signature : Signature} :
    signature ∈ (colliding ((t.attempts s).flatMap entriesOf)).map SignatureGroup.signature ↔
      ∃ i j, i ≠ j ∧ Bears s t i signature ∧ Bears s t j signature := by
  simp only [mem_colliding_indices, mem_entries_iff_bears]

theorem colliding_signatures_nodup (entries : List Entry) :
    ((colliding entries).map SignatureGroup.signature).Nodup := by
  refine List.Nodup.sublist (List.filter_sublist.map _) ?_
  rw [groupsOf_signatures]
  exact nodup_eraseDups _

theorem filter_eraseDups [BEq α] [LawfulBEq α] (keep : α → Bool) (items : List α) :
    (items.filter keep).eraseDups = items.eraseDups.filter keep := by
  induction items using List.reverseRecOn with
  | nil => rfl
  | append_singleton items item ih =>
    rw [List.filter_append, eraseDups_concat]
    cases kept : keep item with
    | false =>
      rw [List.filter_cons_of_neg (by simp [kept]), List.filter_nil, List.append_nil, ih]
      split
      · rfl
      · rw [List.filter_append, List.filter_cons_of_neg (by simp [kept]), List.filter_nil,
          List.append_nil]
    | true =>
      rw [List.filter_cons_of_pos kept, List.filter_nil, eraseDups_concat, ih]
      by_cases present : item ∈ items
      · rw [if_pos present, if_pos (List.mem_filter.mpr ⟨present, kept⟩)]
      · rw [if_neg present, if_neg (fun member => present (List.mem_filter.mp member).1),
          List.filter_append, List.filter_cons_of_pos kept, List.filter_nil]

theorem occurrencesOf_filter {keep : Signature → Bool} {signature : Signature}
    (kept : keep signature = true) (entries : List Entry) :
    occurrencesOf (entries.filter fun e => keep e.1) signature =
      occurrencesOf entries signature := by
  rw [occurrencesOf, List.filter_filter, occurrencesOf]
  congr 1
  refine List.filter_congr fun e _ => ?_
  by_cases same : e.1 = signature
  · simp [same, kept]
  · simp [same]

theorem groupsOf_filter (keep : Signature → Bool) (entries : List Entry) :
    groupsOf (entries.filter fun e => keep e.1) =
      (groupsOf entries).filter fun g => keep g.signature := by
  have keys : ((entries.filter fun e => keep e.1).map Prod.fst).eraseDups =
      (entries.map Prod.fst).eraseDups.filter keep := by
    rw [← filter_eraseDups, List.filter_map]
    rfl
  rw [groupsOf, keys, groupsOf, List.filter_map]
  refine List.map_congr_left fun signature member => ?_
  rw [occurrencesOf_filter (List.mem_filter.mp member).2]

/-- Signatures that only one declaration has may be left out. -/
theorem colliding_filter {entries : List Entry} {keep : Signature → Bool}
    (alone : ∀ signature first second, keep signature = false → (signature, first) ∈ entries →
      (signature, second) ∈ entries → first.index = second.index) :
    colliding (entries.filter fun e => keep e.1) = colliding entries := by
  rw [colliding, colliding, groupsOf_filter, List.filter_filter]
  refine List.filter_congr fun g member => ?_
  cases collides : g.collides with
  | false => rfl
  | true =>
    obtain ⟨first, firstMember, second, secondMember, different⟩ := (collides_iff g).mp collides
    rw [(mem_groupsOf.mp member).2, mem_occurrencesOf] at firstMember secondMember
    rw [Bool.true_and]
    by_contra dropped
    exact different (alone g.signature first second (Bool.eq_false_iff.mpr dropped) firstMember
      secondMember)

/-- One more declaration changes no collision if it shares no signature with the others. -/
theorem colliding_insert {first new second : List Entry}
    (fresh : ∀ e ∈ new, ∀ other ∈ first ++ second, e.1 ≠ other.1)
    (single : ∀ e ∈ new, ∀ other ∈ new, e.2.index = other.2.index) :
    colliding (first ++ new ++ second) = colliding (first ++ second) := by
  let keep : Signature → Bool := fun signature => !decide (signature ∈ new.map Prod.fst)
  have old : ∀ other ∈ first ++ second, keep other.1 = true := by
    intro other member
    simp only [keep, Bool.not_eq_true', decide_eq_false_iff_not]
    intro present
    obtain ⟨e, inside, same⟩ := List.mem_map.mp present
    exact fresh e inside other member same
  have left : (first ++ new ++ second).filter (fun e => keep e.1) = first ++ second := by
    have before := List.filter_eq_self.mpr fun e member =>
      old e (List.mem_append_left second member)
    have after := List.filter_eq_self.mpr fun e member =>
      old e (List.mem_append_right first member)
    have dropped : new.filter (fun e => keep e.1) = [] := by
      refine List.filter_eq_nil_iff.mpr fun e member => ?_
      simp only [keep, Bool.not_eq_true', decide_eq_false_iff_not, not_not]
      exact List.mem_map_of_mem member
    rw [List.filter_append, List.filter_append, before, dropped, after, List.append_nil]
  -- Only signatures of the new declaration are dropped, and no other declaration has them.
  rw [← left]
  refine (colliding_filter ?_).symm
  intro signature o other dropped member otherMember
  have inside : ∀ {o : Occurrence}, (signature, o) ∈ first ++ new ++ second →
      (signature, o) ∈ new := by
    intro o member
    rw [List.append_assoc, List.mem_append, List.mem_append] at member
    rcases member with before | inside | after
    · cases dropped.symm.trans (old _ (List.mem_append_left second before))
    · exact inside
    · cases dropped.symm.trans (old _ (List.mem_append_right first after))
  exact single _ (inside member) _ (inside otherMember)

end Overloads.Proofs.Renumbering
