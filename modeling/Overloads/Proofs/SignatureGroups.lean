import Overloads.Lowering.Collision
import Mathlib.Data.List.Induction

/-! The groups of the collision detector in closed form. Overloads that come in one after the
other leave one group to each signature, in the order of first occurrence, and a group holds all
occurrences of its signature in the order of arrival. A declaration is skipped exactly if it
shares a signature with another declaration. -/

namespace Overloads.Proofs.SignatureGroups
open CollisionDetector (record report)

/-- What the detector takes in: a signature and where it occurred. -/
abbrev Entry := Signature × Occurrence

def entryOf (index : Nat) (span : Option Span) (o : Overload) : Entry :=
  (o.signature, ⟨index, o.isCanonical, span⟩)

def occurrencesOf (entries : List Entry) (signature : Signature) : List Occurrence :=
  (entries.filter (·.1 = signature)).map Prod.snd

def groupsOf (entries : List Entry) : List SignatureGroup :=
  (entries.map Prod.fst).eraseDups.map fun signature =>
    ⟨signature, occurrencesOf entries signature⟩

theorem groupsOf_signatures (entries : List Entry) :
    (groupsOf entries).map SignatureGroup.signature = (entries.map Prod.fst).eraseDups := by
  rw [groupsOf, List.map_map]
  exact List.map_id _

theorem eraseDups_concat [BEq α] [LawfulBEq α] (items : List α) (item : α) :
    (items ++ [item]).eraseDups =
      if item ∈ items then items.eraseDups else items.eraseDups ++ [item] := by
  rw [List.eraseDups_append]
  by_cases present : item ∈ items
  · simp [List.removeAll, present]
  · simp [List.removeAll, present, List.eraseDups_cons]

theorem nodup_eraseDups [BEq α] [LawfulBEq α] (items : List α) :
    items.eraseDups.Nodup := by
  induction items using List.reverseRecOn with
  | nil => simp
  | append_singleton items item ih =>
    rw [eraseDups_concat]
    split
    · exact ih
    next fresh =>
      refine List.nodup_append.mpr ⟨ih, by simp, ?_⟩
      intro kept member last singleton same
      rw [List.mem_singleton.mp singleton] at same
      exact fresh (same ▸ List.mem_eraseDups.mp member)

theorem occurrencesOf_concat (entries : List Entry) (signature known : Signature) (o : Occurrence) :
    occurrencesOf (entries ++ [(signature, o)]) known =
      if known = signature then occurrencesOf entries known ++ [o]
      else occurrencesOf entries known := by
  by_cases same : known = signature
  · subst known
    simp [occurrencesOf]
  · have other : ¬ signature = known := fun equal => same equal.symm
    simp [occurrencesOf, same, other]

theorem mem_occurrencesOf {entries : List Entry} {signature : Signature} {o : Occurrence} :
    o ∈ occurrencesOf entries signature ↔ (signature, o) ∈ entries := by
  simp [occurrencesOf]

private theorem insert_absent (signature : Signature) (o : Occurrence)
    (content : Signature → List Occurrence) (keys : List Signature) (absent : signature ∉ keys) :
    CollisionDetector.insert signature o (keys.map fun key => ⟨key, content key⟩) =
      keys.map (fun key => ⟨key, content key⟩) ++ [⟨signature, [o]⟩] := by
  induction keys with
  | nil => rfl
  | cons key keys ih =>
    obtain ⟨different, rest⟩ := not_or.mp (mt List.mem_cons.mpr absent)
    simp only [List.map_cons, CollisionDetector.insert, List.cons_append]
    rw [if_neg (Ne.symm different), ih rest]

private theorem insert_present (signature : Signature) (o : Occurrence)
    (content : Signature → List Occurrence) (keys : List Signature) (distinct : keys.Nodup)
    (present : signature ∈ keys) :
    CollisionDetector.insert signature o (keys.map fun key => ⟨key, content key⟩) =
      keys.map fun key =>
        ⟨key, if key = signature then content key ++ [o] else content key⟩ := by
  induction keys with
  | nil => cases present
  | cons key keys ih =>
    obtain ⟨fresh, distinct⟩ := List.nodup_cons.mp distinct
    simp only [List.map_cons, CollisionDetector.insert]
    by_cases first : key = signature
    · subst key
      rw [if_pos rfl, if_pos rfl]
      congr 1
      apply List.map_congr_left
      intro other member
      have different : other ≠ signature := fun same => fresh (same ▸ member)
      rw [if_neg different]
    · rw [if_neg first, if_neg first]
      have later : signature ∈ keys := by
        rcases List.mem_cons.mp present with same | later
        · exact False.elim (first same.symm)
        · exact later
      rw [ih distinct later]

/-- One step of the detector. -/
theorem insert_groupsOf (entries : List Entry) (signature : Signature) (o : Occurrence) :
    CollisionDetector.insert signature o (groupsOf entries) = groupsOf (entries ++ [(signature, o)]) := by
  simp only [groupsOf, List.map_append, List.map_singleton, eraseDups_concat]
  by_cases present : signature ∈ entries.map Prod.fst
  · rw [if_pos present, insert_present _ _ _ _ (nodup_eraseDups _) (List.mem_eraseDups.mpr present)]
    apply List.map_congr_left
    intro key _
    rw [occurrencesOf_concat]
  · have absent : signature ∉ (entries.map Prod.fst).eraseDups :=
      fun member => present (List.mem_eraseDups.mp member)
    have nothing : occurrencesOf entries signature = [] := by
      apply List.eq_nil_iff_forall_not_mem.mpr
      intro found member
      exact present (List.mem_map.mpr ⟨_, mem_occurrencesOf.mp member, rfl⟩)
    rw [if_neg present, insert_absent _ _ _ _ absent, List.map_append]
    congr 1
    · apply List.map_congr_left
      intro key member
      have other : key ≠ signature := fun same => absent (same ▸ member)
      rw [occurrencesOf_concat, if_neg other]
    · simp [occurrencesOf_concat, nothing]

theorem record_groupsOf (entries : List Entry) (index : Nat) (span : Option Span)
    (overloads : List Overload) :
    record ⟨groupsOf entries⟩ index span overloads =
      ⟨groupsOf (entries ++ overloads.map (entryOf index span))⟩ := by
  induction overloads generalizing entries with
  | nil => simp [record]
  | cons o overloads ih =>
    have rest := ih (entries ++ [entryOf index span o])
    simp only [record, List.foldl_cons, insert_groupsOf] at rest ⊢
    simpa only [entryOf, List.map_cons, List.append_assoc, List.singleton_append] using rest

theorem two_le_eraseDups_iff [BEq α] [LawfulBEq α] (items : List α) :
    2 ≤ items.eraseDups.length ↔ ∃ first ∈ items, ∃ second ∈ items, first ≠ second := by
  constructor
  · intro two
    have distinct := nodup_eraseDups items
    match shape : items.eraseDups with
    | [] | [_] => simp [shape] at two
    | first :: second :: rest =>
      refine ⟨first, ?_, second, ?_, ?_⟩
      · exact List.mem_eraseDups.mp (by simp [shape])
      · exact List.mem_eraseDups.mp (by simp [shape])
      · rw [shape] at distinct
        exact fun same => (List.nodup_cons.mp distinct).1 (by simp [same])
  · rintro ⟨first, firstMember, second, secondMember, different⟩
    apply Nat.le_of_not_lt
    intro few
    have firstKept := List.mem_eraseDups.mpr firstMember
    have secondKept := List.mem_eraseDups.mpr secondMember
    match shape : items.eraseDups with
    | [] => simp [shape] at firstKept
    | [only] =>
      rw [shape, List.mem_singleton] at firstKept secondKept
      exact different (firstKept.trans secondKept.symm)
    | _ :: _ :: rest =>
      rw [shape] at few
      simp only [List.length_cons] at few
      omega

theorem collides_iff (g : SignatureGroup) :
    g.collides = true ↔
      ∃ first ∈ g.occurrences, ∃ second ∈ g.occurrences, first.index ≠ second.index := by
  simp only [SignatureGroup.collides, decide_eq_true_eq, SignatureGroup.indices,
    two_le_eraseDups_iff, List.mem_map, exists_exists_and_eq_and]

theorem mem_indices {g : SignatureGroup} {index : Nat} :
    index ∈ g.indices ↔ ∃ o ∈ g.occurrences, o.index = index := by
  simp [SignatureGroup.indices]

theorem mem_groupsOf {entries : List Entry} {g : SignatureGroup} :
    g ∈ groupsOf entries ↔
      (∃ o, (g.signature, o) ∈ entries) ∧ g.occurrences = occurrencesOf entries g.signature := by
  simp only [groupsOf, List.mem_map, List.mem_eraseDups]
  constructor
  · rintro ⟨signature, ⟨⟨_, o⟩, member, rfl⟩, rfl⟩
    exact ⟨⟨o, member⟩, rfl⟩
  · rintro ⟨⟨o, member⟩, same⟩
    exact ⟨g.signature, ⟨_, member, rfl⟩, by rw [← same]⟩

/-- Whether two different declarations come in with one signature, the first at this index. -/
def Contested (entries : List Entry) (index : Nat) : Prop :=
  ∃ signature first second, (signature, first) ∈ entries ∧ (signature, second) ∈ entries ∧
    first.index = index ∧ second.index ≠ index

theorem mem_skipped_iff (entries : List Entry) (owner : String) (index : Nat) :
    index ∈ (report ⟨groupsOf entries⟩ owner).skipped ↔ Contested entries index := by
  simp only [report, List.mem_eraseDups, List.mem_flatMap, List.mem_filter, mem_groupsOf,
    mem_indices]
  constructor
  · rintro ⟨g, ⟨⟨_, content⟩, collides⟩, own, ownMember, rfl⟩
    obtain ⟨first, firstMember, second, secondMember, different⟩ := (collides_iff g).mp collides
    rw [content, mem_occurrencesOf] at ownMember firstMember secondMember
    by_cases same : first.index = own.index
    · exact ⟨_, own, second, ownMember, secondMember, rfl, fun equal => different (same.trans equal.symm)⟩
    · exact ⟨_, own, first, ownMember, firstMember, rfl, same⟩
  · rintro ⟨signature, first, second, firstMember, secondMember, rfl, different⟩
    refine ⟨⟨signature, occurrencesOf entries signature⟩, ⟨⟨⟨first, firstMember⟩, rfl⟩, ?_⟩, first,
      mem_occurrencesOf.mpr firstMember, rfl⟩
    exact (collides_iff _).mpr ⟨first, mem_occurrencesOf.mpr firstMember, second,
      mem_occurrencesOf.mpr secondMember, Ne.symm different⟩

/-- Nothing is reported exactly if nothing is skipped. -/
theorem diagnostics_eq_nil_iff (d : CollisionDetector) (owner : String) :
    (d.report owner).diagnostics = [] ↔ (d.report owner).skipped = [] := by
  simp only [report, List.map_eq_nil_iff]
  constructor
  · intro none
    simp [none]
  · intro unskipped
    apply List.eq_nil_iff_forall_not_mem.mpr
    intro g member
    obtain ⟨first, firstMember, _⟩ := (collides_iff g).mp (List.mem_filter.mp member).2
    have skipped : first.index ∈ ((d.groups.filter SignatureGroup.collides).flatMap
        SignatureGroup.indices).eraseDups :=
      List.mem_eraseDups.mpr (List.mem_flatMap.mpr ⟨g, member, mem_indices.mpr ⟨first, firstMember, rfl⟩⟩)
    simp [unskipped] at skipped

end Overloads.Proofs.SignatureGroups
