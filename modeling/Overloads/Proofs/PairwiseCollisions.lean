import Overloads.Proofs.Renumbering
import Mathlib.Data.List.Sort

/-! Collisions between recorded overloads, pair by pair. Any overloads may be recorded, under any
indices and in any order. An index is skipped if it shares a signature with another one, and each
shared signature is reported once, in the order of first recording. -/

namespace Overloads.Proofs.PairwiseCollisions
open SignatureGroups Renumbering

/-- The overloads recorded at one time, with the index and the span of their declaration. -/
structure Recording where
  index : Nat
  span : Option Span
  overloads : List Overload

def detect (recordings : List Recording) : CollisionDetector :=
  recordings.foldl (fun detector r => detector.record r.index r.span r.overloads) {}

def signatures (recordings : List Recording) : List Signature :=
  recordings.flatMap fun r => r.overloads.map Overload.signature

def occurrences (recordings : List Recording) (signature : Signature) : List Occurrence :=
  recordings.flatMap fun r =>
    (r.overloads.filter (·.signature = signature)).map fun o => ⟨r.index, o.isCanonical, r.span⟩

def RecordedUnder (recordings : List Recording) (signature : Signature) (index : Nat) : Prop :=
  ∃ r ∈ recordings, r.index = index ∧ ∃ o ∈ r.overloads, o.signature = signature

def Shared (recordings : List Recording) (signature : Signature) : Prop :=
  ∃ i j, i ≠ j ∧ RecordedUnder recordings signature i ∧ RecordedUnder recordings signature j

def FirstBefore (recordings : List Recording) (a b : Signature) : Prop :=
  (signatures recordings).idxOf a < (signatures recordings).idxOf b

inductive LatestSpan : List Occurrence → Option Span → Prop
  | absent {all : List Occurrence} (unknown : ∀ o ∈ all, o.span = none) : LatestSpan all none
  | known {earlier later : List Occurrence} {o : Occurrence} {span : Span}
      (own : o.span = some span) (unknown : ∀ o ∈ later, o.span = none) :
      LatestSpan (earlier ++ o :: later) (some span)

/-- The diagnostic on a signature lists all of its occurrences in the order of recording. -/
structure Describes (owner : String) (recordings : List Recording) (signature : Signature)
    (d : Diagnostic) : Prop where
  report : d = .report .signatureCollision owner signature.name
    ("parameter types (" ++ ", ".intercalate (signature.slots.map SlotType.display) ++
      ") are produced by " ++ " and ".intercalate
        ((occurrences recordings signature).map SignatureGroup.roleText)) d.span
  span : LatestSpan (occurrences recordings signature) d.span

/-- The report that comparing all pairs of recorded overloads gives. -/
structure PairwiseReport (owner : String) (recordings : List Recording)
    (report : CollisionReport) : Prop where
  skipped : ∀ i, i ∈ report.skipped ↔ ∃ j signature, j ≠ i ∧
    RecordedUnder recordings signature i ∧ RecordedUnder recordings signature j
  distinct : report.skipped.Nodup
  reported : ∃ shared : List Signature,
    (∀ signature, signature ∈ shared ↔ Shared recordings signature) ∧
    shared.Pairwise (FirstBefore recordings) ∧
    List.Forall₂ (Describes owner recordings) shared report.diagnostics

def entriesOf (recordings : List Recording) : List Entry :=
  recordings.flatMap fun r => r.overloads.map (entryOf r.index r.span)

variable {owner : String} {recordings : List Recording} {signature : Signature}

/-- What has been recorded stands in the groups of the detector after every recording. -/
theorem detect_groupsOf (recordings : List Recording) :
    detect recordings = ⟨groupsOf (entriesOf recordings)⟩ := by
  induction recordings using List.reverseRecOn with
  | nil => rfl
  | append_singleton recordings r ih =>
    have step := record_groupsOf (entriesOf recordings) r.index r.span r.overloads
    rw [← ih] at step
    simp only [detect, entriesOf] at step ⊢
    rwa [List.foldl_append, List.flatMap_append, List.flatMap_singleton]

theorem signatures_eq (recordings : List Recording) :
    (entriesOf recordings).map Prod.fst = signatures recordings := by
  simp only [entriesOf, signatures, List.map_flatMap, List.map_map]
  rfl

theorem occurrences_eq (recordings : List Recording) (signature : Signature) :
    occurrencesOf (entriesOf recordings) signature = occurrences recordings signature := by
  simp only [occurrencesOf, entriesOf, occurrences, List.filter_flatMap, List.filter_map,
    List.map_flatMap, List.map_map]
  rfl

theorem mem_entriesOf {index : Nat} :
    (∃ o, (signature, o) ∈ entriesOf recordings ∧ o.index = index) ↔
      RecordedUnder recordings signature index := by
  simp only [entriesOf, List.mem_flatMap, List.mem_map]
  constructor
  · rintro ⟨o, ⟨r, member, overload, present, same⟩, rfl⟩
    cases same
    exact ⟨r, member, rfl, overload, present, rfl⟩
  · rintro ⟨r, member, rfl, overload, present, rfl⟩
    exact ⟨_, ⟨r, member, overload, present, rfl⟩, rfl⟩

theorem latestSpan_iff {all : List Occurrence} {span : Option Span} :
    LatestSpan all span ↔ all.reverse.findSome? Occurrence.span = span := by
  constructor
  · intro latest
    cases latest with
    | absent unknown =>
      exact List.findSome?_eq_none_iff.mpr fun o member => unknown o (List.mem_reverse.mp member)
    | @known earlier later o span own unknown =>
      rw [List.findSome?_eq_some_iff]
      refine ⟨later.reverse, o, earlier.reverse, by simp, own, fun o member => ?_⟩
      exact unknown o (List.mem_reverse.mp member)
  · intro found
    cases span with
    | none =>
      have unknown := List.findSome?_eq_none_iff.mp found
      exact .absent fun o member => unknown o (List.mem_reverse.mpr member)
    | some span =>
      obtain ⟨later, o, earlier, split, own, unknown⟩ := List.findSome?_eq_some_iff.mp found
      have turned : all = earlier.reverse ++ o :: later.reverse := by
        rw [← List.reverse_reverse all, split]
        simp
      rw [turned]
      exact .known own fun o member => unknown o (List.mem_reverse.mp member)

theorem firstBefore_eraseDups (items : List Signature) :
    items.eraseDups.Pairwise fun a b => items.idxOf a < items.idxOf b := by
  induction items using List.reverseRecOn with
  | nil => exact .nil
  | append_singleton items item ih =>
    have kept : items.eraseDups.Pairwise fun a b =>
        (items ++ [item]).idxOf a < (items ++ [item]).idxOf b := by
      refine ih.imp_of_mem fun first second before => ?_
      rwa [List.idxOf_append_of_mem (List.mem_eraseDups.mp first),
        List.idxOf_append_of_mem (List.mem_eraseDups.mp second)]
    rw [eraseDups_concat]
    split
    · exact kept
    next fresh =>
      refine List.pairwise_append.mpr ⟨kept, List.pairwise_singleton _ _, ?_⟩
      intro known member last singleton
      rw [List.mem_singleton.mp singleton, List.idxOf_append_of_mem (List.mem_eraseDups.mp member),
        List.idxOf_append_of_notMem fresh]
      have inside := List.idxOf_lt_length_of_mem (List.mem_eraseDups.mp member)
      omega

theorem mem_colliding_iff :
    signature ∈ (colliding (entriesOf recordings)).map SignatureGroup.signature ↔
      Shared recordings signature := by
  simp only [mem_colliding_indices, mem_entriesOf, Shared]

/-- Groups stand in the order of their first occurrences. -/
theorem colliding_ordered (recordings : List Recording) :
    ((colliding (entriesOf recordings)).map SignatureGroup.signature).Pairwise
      (FirstBefore recordings) := by
  have ordered := firstBefore_eraseDups (signatures recordings)
  rw [← signatures_eq, ← groupsOf_signatures, signatures_eq] at ordered
  exact ordered.sublist (List.filter_sublist.map _)

theorem diagnostic_describes {g : SignatureGroup} (member : g ∈ groupsOf (entriesOf recordings)) :
    Describes owner recordings g.signature (g.diagnostic owner) := by
  have content : g.occurrences = occurrences recordings g.signature :=
    (mem_groupsOf.mp member).2.trans (occurrences_eq recordings g.signature)
  refine ⟨?_, ?_⟩
  · rw [← content]
    rfl
  · rw [← content]
    exact latestSpan_iff.mpr rfl

theorem mem_skipped_iff_shared {i : Nat} :
    i ∈ ((detect recordings).report owner).skipped ↔ ∃ j signature, j ≠ i ∧
      RecordedUnder recordings signature i ∧ RecordedUnder recordings signature j := by
  simp only [detect_groupsOf, mem_skipped_iff, ← mem_entriesOf]
  constructor
  · rintro ⟨signature, first, second, member, otherMember, own, different⟩
    exact ⟨_, signature, different, ⟨first, member, own⟩, ⟨second, otherMember, rfl⟩⟩
  · rintro ⟨_, signature, different, ⟨first, member, own⟩, ⟨second, otherMember, rfl⟩⟩
    exact ⟨signature, first, second, member, otherMember, own, different⟩

theorem Describes.eq {first second : Diagnostic}
    (left : Describes owner recordings signature first)
    (right : Describes owner recordings signature second) : first = second := by
  have span := (latestSpan_iff.mp left.span).symm.trans (latestSpan_iff.mp right.span)
  rw [left.report, right.report, span]

theorem shared_determined {first second : List Signature}
    (left : first.Pairwise (FirstBefore recordings))
    (right : second.Pairwise (FirstBefore recordings))
    (same : ∀ signature, signature ∈ first ↔ signature ∈ second) : first = second := by
  have irreflexive : Std.Irrefl (FirstBefore recordings) := ⟨fun _ => Nat.lt_irrefl _⟩
  have antisymmetric : Std.Antisymm (FirstBefore recordings) :=
    ⟨fun _ _ before after => absurd before (Nat.lt_asymm after)⟩
  exact left.eq_of_mem_iff right same

/-- Comparing all pairs leaves nothing open but the order in which skipped indices are kept. -/
theorem PairwiseReport.determined {first second : CollisionReport}
    (left : PairwiseReport owner recordings first)
    (right : PairwiseReport owner recordings second) :
    first.diagnostics = second.diagnostics ∧ first.skipped.Perm second.skipped := by
  constructor
  · obtain ⟨signatures, members, ordered, described⟩ := left.reported
    obtain ⟨others, otherMembers, otherOrdered, otherDescribed⟩ := right.reported
    obtain rfl : signatures = others := shared_determined ordered otherOrdered
      fun signature => (members signature).trans (otherMembers signature).symm
    have unique : Relator.RightUnique (Describes owner recordings) := fun _ _ _ => Describes.eq
    exact List.right_unique_forall₂' unique described otherDescribed
  · refine (List.perm_ext_iff_of_nodup left.distinct right.distinct).mpr fun i => ?_
    exact (left.skipped i).trans (right.skipped i).symm

end Overloads.Proofs.PairwiseCollisions
