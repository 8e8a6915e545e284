import Overloads.Config.Basic
import Overloads.Proofs.Collection
import Overloads.Proofs.ReportedProblems

/-! The counters of a run balance against what else it gives. Declarations are counted before they
are lowered; methods that fail and methods that collide are skipped once each; every other method
is emitted with one canonical overload in front. Counters are words, so all sums wrap around. -/

namespace Overloads.Proofs.Balance
open Emission OverloadSets ReportedProblems

/-- The first overload is canonical, and no other one is. -/
def Headed (m : TargetMethod) : Prop :=
  ∃ canonical forwarding, m.overloads = canonical :: forwarding ∧ canonical.isCanonical = true ∧
    ∀ o ∈ forwarding, o.isCanonical = false

structure Balances (declared : List TypeDecl) (lowered : List TargetType)
    (diagnostics : List Diagnostic) (stats : Stats) : Prop where
  types : stats.types = .ofNat declared.length
  fields : stats.fields = .ofNat (declared.flatMap TypeDecl.fields).length
  methods : stats.methods = .ofNat (declared.flatMap TypeDecl.methods).length
  overloads : stats.overloads = .ofNat (lowered.flatMap TargetType.overloads).length
  emitted : .ofNat (lowered.flatMap TargetType.methods).length + stats.skippedMethods = stats.methods
  headed : ∀ m ∈ lowered.flatMap TargetType.methods, Headed m
  canonical : stats.overloads - stats.forwarding =
    .ofNat (lowered.flatMap TargetType.methods).length
  collisions : stats.collisions = .ofNat (count .signatureCollision diagnostics)
  unsupported : stats.unsupported = .ofNat (count .unsupportedType diagnostics)

def counters : List (Stats → UInt64) :=
  [Stats.types, Stats.fields, Stats.methods, Stats.overloads, Stats.forwarding,
    Stats.skippedMethods, Stats.collisions, Stats.unsupported]

theorem overloads_headed (s : Setting) (m : Method) (index : UInt64) :
    Headed ⟨m.name, index, m.overloads s⟩ := by
  refine ⟨m.canonical s, _, rfl, rfl, ?_⟩
  intro o member
  obtain ⟨omitted, _, rfl⟩ := List.mem_map.mp member
  rfl

theorem emitted_headed (s : Setting) (t : TypeDecl) : ∀ m ∈ t.emitted s, Headed m := by
  intro target member
  obtain ⟨index, _, m, overloads, lowers, rfl⟩ := mem_emitted.mp member
  rw [lowers.overloads_eq]
  exact overloads_headed s m _

/-- Of the overloads of headed methods, all but one to each method are forwarding. -/
theorem forwarding_add_length {methods : List TargetMethod} (headed : ∀ m ∈ methods, Headed m) :
    (methods.flatMap TargetMethod.overloads).countP (!·.isCanonical) + methods.length =
      (methods.flatMap TargetMethod.overloads).length := by
  induction methods with
  | nil => rfl
  | cons m methods ih =>
    have rest := ih fun other member => headed other (List.mem_cons_of_mem m member)
    obtain ⟨canonical, forwarding, shape, first, others⟩ := headed m List.mem_cons_self
    have all : forwarding.countP (!·.isCanonical) = forwarding.length :=
      List.countP_eq_length.mpr fun o member => by rw [others o member]; rfl
    simp only [List.flatMap_cons, shape, List.cons_append, List.countP_cons, List.countP_append,
      first, all, List.length_cons, List.length_append, Bool.not_true, Bool.false_eq_true, if_false]
    omega

/-- Every declaration is either emitted or skipped. -/
theorem emitted_add_skipped (s : Setting) (t : TypeDecl) :
    (t.emitted s).length +
        (t.attempts s).countP (fun a => (a.emitted? (t.collisions s)).isNone) =
      t.methods.length := by
  have all : (t.attempts s).length = t.methods.length := by
    rw [← attempts_methods s t, List.length_map]
  have kept : (t.emitted s).length =
      (t.attempts s).countP fun a => (a.emitted? (t.collisions s)).isSome := by
    rw [TypeDecl.emitted, List.length_filterMap_eq_countP]
  have split := List.length_eq_countP_add_countP
    (fun a : Attempt => (a.emitted? (t.collisions s)).isSome) (l := t.attempts s)
  simp only [Bool.not_eq_true, Option.isSome_eq_false_iff, Bool.decide_eq_true] at split
  omega

/-- Only the collision detector reports collisions, and it counts all that it reports. -/
theorem count_collision (s : Setting) (t : TypeDecl) :
    count .signatureCollision (t.diagnostics s) = (t.collisions s).diagnostics.length := by
  have fields : count .signatureCollision
      (t.fields.flatMap (Field.diagnostics s.registry t.name)) = 0 := by
    rw [count_flatMap, List.sum_eq_zero_iff_forall_eq_nat, List.forall_mem_map]
    intro f _
    simp [Field.diagnostics, count_unsupported, count_initializer]
  have methods : count .signatureCollision
      ((t.attempts s).flatMap (Attempt.diagnostics t.name)) = 0 := by
    have none : ∀ m : Method, count .signatureCollision (m.diagnostics s.registry t.name) = 0 := by
      intro m
      simp [Method.diagnostics, count_params, count_return]
    have counted := @count_attempts s t .signatureCollision (fun _ => 0) (by decide) none
    simp only [List.map_const', List.sum_replicate_nat] at counted
    omega
  have reported : count .signatureCollision (t.collisions s).diagnostics =
      (t.collisions s).diagnostics.length := by
    refine List.countP_eq_length.mpr fun d member => ?_
    obtain ⟨g, _, rfl⟩ := List.mem_map.mp member
    rfl
  rw [TypeDecl.diagnostics, count_append, count_append, fields, methods, reported]
  omega

/-- The counters of one type. -/
theorem balances_type (s : Setting) (t : TypeDecl) :
    Balances [t] [(t.lower s).decl] (t.lower s).diagnostics (t.lower s).stats := by
  have headed := emitted_headed s t
  have forwarding := forwarding_add_length headed
  have skipped := emitted_add_skipped s t
  exact
    { types := rfl
      fields := by simp [TypeDecl.lower, TypeDecl.stats]
      methods := by simp [TypeDecl.lower, TypeDecl.stats]
      overloads := by simp [TypeDecl.lower, TypeDecl.stats, TargetType.overloads]
      emitted := by simp [TypeDecl.lower, TypeDecl.stats, ← UInt64.ofNat_add, skipped]
      headed := by simpa [TypeDecl.lower] using headed
      canonical := by
        simp only [TypeDecl.lower, TypeDecl.stats, List.flatMap_singleton, ← forwarding,
          UInt64.ofNat_add]
        grind
      collisions := by simp [TypeDecl.lower, TypeDecl.stats, count_collision]
      unsupported := by
        simp only [TypeDecl.lower, TypeDecl.stats, count]
        rfl }

theorem Balances.append {before after : List TypeDecl} {first second : List TargetType}
    {reports others : List Diagnostic} {a b : Stats} (left : Balances before first reports a)
    (right : Balances after second others b) :
    Balances (before ++ after) (first ++ second) (reports ++ others) (a + b) := by
  have sum : a + b = a.add b := rfl
  have emitted := left.emitted
  have otherEmitted := right.emitted
  have canonical := left.canonical
  have otherCanonical := right.canonical
  exact
    { types := by simp [sum, Stats.add, left.types, right.types, UInt64.ofNat_add]
      fields := by simp [sum, Stats.add, left.fields, right.fields, UInt64.ofNat_add]
      methods := by simp [sum, Stats.add, left.methods, right.methods, UInt64.ofNat_add]
      overloads := by simp [sum, Stats.add, left.overloads, right.overloads, UInt64.ofNat_add]
      emitted := by
        simp only [sum, Stats.add, List.flatMap_append, List.length_append, UInt64.ofNat_add]
        grind
      headed := by
        intro m member
        rw [List.flatMap_append, List.mem_append] at member
        exact member.elim (left.headed m) (right.headed m)
      canonical := by
        simp only [sum, Stats.add, List.flatMap_append, List.length_append, UInt64.ofNat_add]
        grind
      collisions := by simp [sum, Stats.add, left.collisions, right.collisions, UInt64.ofNat_add]
      unsupported := by
        simp [sum, Stats.add, left.unsupported, right.unsupported, UInt64.ofNat_add] }

theorem sum_cons (stats : Stats) (all : List Stats) :
    Stats.sum (stats :: all) = stats + Stats.sum all := by
  rw [← List.singleton_append, Collection.sum_append, Stats.sum, List.foldl_cons, List.foldl_nil,
    Collection.stats_zero_add]

theorem balances_nil : Balances [] [] [] {} := by
  constructor <;> simp

/-- The counters of all types, added up. -/
theorem balances_types (s : Setting) (types : List TypeDecl) :
    Balances types (types.map fun t => (t.lower s).decl)
      (types.flatMap fun t => (t.lower s).diagnostics)
      (Stats.sum (types.map fun t => (t.lower s).stats)) := by
  induction types with
  | nil => exact balances_nil
  | cons t types ih =>
    rw [List.map_cons, List.flatMap_cons, List.map_cons, sum_cons]
    exact (balances_type s t).append ih

theorem counter_additive {counter : Stats → UInt64} (known : counter ∈ counters) :
    counter {} = 0 ∧ ∀ a b : Stats, counter (a + b) = counter a + counter b := by
  simp only [counters, List.mem_cons, List.not_mem_nil, or_false] at known
  rcases known with rfl | rfl | rfl | rfl | rfl | rfl | rfl | rfl
  all_goals exact ⟨rfl, fun _ _ => rfl⟩

theorem counter_sum {counter : Stats → UInt64} (known : counter ∈ counters) (all : List Stats) :
    counter (Stats.sum all) = (all.map counter).foldl (· + ·) 0 := by
  obtain ⟨zero, add⟩ := counter_additive known
  rw [List.foldl_map, ← zero, Stats.sum]
  exact (List.foldl_hom counter fun total stats => (add total stats).symm).symm

/-- The counters of a run balance against its other outputs, and each of them is the sum of its
values for the types. -/
theorem counters_balance (c : Config) (p : Program) :
    Balances p.types (p.run c).types (p.run c).diagnostics (p.run c).stats ∧
      ∀ counter ∈ counters, counter (p.run c).stats =
        (p.types.map fun t => counter (t.lower c.setting).stats).foldl (· + ·) 0 := by
  rw [Program.run, Collection.lower_eq]
  refine ⟨balances_types c.setting p.types, ?_⟩
  intro counter known
  rw [counter_sum known, List.map_map]
  rfl

/-- A field of unknown type, a method with a default, one whose default does not fit, and two that
collide. -/
def mixed : Program :=
  { types := [
      { name := "A"
        fields := [{ name := "a", type := .value "Vec3" }]
        methods := [
          { name := "f", params := [{ name := "x", type := .value "Int", default := some (.int 4) }] },
          { name := "g"
            params := [{ name := "x", type := .value "Int", default := some (.bool true) }] }] },
      { name := "B"
        methods := [
          { name := "f", params := [{ name := "x", type := .value "Int" }] },
          { name := "f", params := [{ name := "y", type := .value "int" }] }] }] }

theorem mixed_balances :
    (mixed.run {}).stats =
        { types := 2, fields := 1, methods := 4, overloads := 2, forwarding := 1,
          skippedMethods := 3, collisions := 1, unsupported := 1 } ∧
      Balances mixed.types (mixed.run {}).types (mixed.run {}).diagnostics (mixed.run {}).stats ∧
      (mixed.run {}).stats.skippedMethods =
        (mixed.types.map fun t => (t.lower (Config.setting {})).stats.skippedMethods).foldl
          (· + ·) 0 := by
  obtain ⟨balances, sums⟩ := counters_balance {} mixed
  refine ⟨?_, balances, sums Stats.skippedMethods (by simp [counters])⟩
  rw [Program.run, Collection.lower_stats]
  decide

end Overloads.Proofs.Balance
