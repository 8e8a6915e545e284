import Overloads.Lowering.Program

/-! A lowered program is put together from its types alone: the results and the diagnostics stand
in the order in which the types are declared. -/

namespace Overloads.Proofs.Collection

/-- The diagnostics of one type as they arrive in the buffer. -/
def tagged (c : Completed) : List (Nat × Diagnostic) := c.lowering.diagnostics.map (c.order, ·)

theorem sink_entries (reports : List Completed) :
    (Completed.sink reports).entries = reports.flatMap tagged := by
  have run : ∀ sink : Sink,
      (reports.foldl (fun sink c => sink.extend c.order c.lowering.diagnostics) sink).entries =
        sink.entries ++ reports.flatMap tagged := by
    induction reports with
    | nil => simp
    | cons c reports ih =>
      intro sink
      rw [List.foldl_cons, ih, List.flatMap_cons, ← List.append_assoc]
      rfl
  simpa [Completed.sink] using run {}

theorem completed_orders (s : Setting) (p : Program) :
    (p.completed s).map Completed.order = List.range p.types.length := by
  simp [Program.completed, Function.comp_def, List.zipIdx_map_snd, List.range_eq_range']

theorem completed_lowerings (s : Setting) (p : Program) :
    (p.completed s).map Completed.lowering = p.types.map (·.lower s) := by
  have types := congrArg (List.map (TypeDecl.lower s)) (List.zipIdx_map_fst 0 p.types)
  simpa only [Program.completed, List.map_map, Function.comp_def] using types

theorem completed_ordered (s : Setting) (p : Program) :
    (p.completed s).Pairwise fun earlier later => earlier.order < later.order := by
  rw [← List.pairwise_map, completed_orders]
  exact List.pairwise_lt_range

theorem entries_ordered {reports : List Completed}
    (ordered : reports.Pairwise fun earlier later => earlier.order ≤ later.order) :
    (reports.flatMap tagged).Pairwise fun earlier later => earlier.1 ≤ later.1 := by
  refine List.pairwise_flatMap.mpr ⟨?_, ordered.imp ?_⟩
  · intro c _
    exact List.pairwise_map.mpr (List.pairwise_of_forall fun _ _ => Nat.le_refl _)
  · intro earlier later before first member second other
    obtain ⟨_, _, rfl⟩ := List.mem_map.mp member
    obtain ⟨_, _, rfl⟩ := List.mem_map.mp other
    exact before

theorem sorted_sink {reports : List Completed}
    (ordered : reports.Pairwise fun earlier later => earlier.order ≤ later.order) :
    (Completed.sink reports).sorted = reports.flatMap fun c => c.lowering.diagnostics := by
  have sorted := entries_ordered ordered
  rw [Sink.sorted, sink_entries, List.mergeSort_of_pairwise (by simpa using sorted), List.map_flatMap]
  simp [tagged, Function.comp_def]

private theorem results_sorted (s : Setting) (p : Program) :
    (p.completed s).mergeSort (fun a b => a.order ≤ b.order) = p.completed s := by
  apply List.mergeSort_of_pairwise
  simpa using (completed_ordered s p).imp Nat.le_of_lt

theorem lower_types (s : Setting) (p : Program) :
    (p.lower s).types = p.types.map fun t => (t.lower s).decl := by
  have results := congrArg (List.map TypeLowering.decl) (completed_lowerings s p)
  simp only [List.map_map] at results
  simp only [Program.lower, Completed.collect, results_sorted]
  exact results

theorem lower_diagnostics (s : Setting) (p : Program) :
    (p.lower s).diagnostics = p.types.flatMap fun t => (t.lower s).diagnostics := by
  have results := congrArg (List.flatMap TypeLowering.diagnostics) (completed_lowerings s p)
  simp only [List.flatMap_map] at results
  simp only [Program.lower, Completed.collect]
  rw [sorted_sink ((completed_ordered s p).imp Nat.le_of_lt)]
  exact results

theorem lower_stats (s : Setting) (p : Program) :
    (p.lower s).stats = Stats.sum (p.types.map fun t => (t.lower s).stats) := by
  have results := congrArg (List.map TypeLowering.stats) (completed_lowerings s p)
  simp only [List.map_map] at results
  simp only [Program.lower, Completed.collect, results_sorted]
  exact congrArg Stats.sum results

theorem stats_add_assoc (a b c : Stats) : a + b + c = a + (b + c) := by
  change (a.add b).add c = a.add (b.add c)
  simp only [Stats.add, UInt64.add_assoc]

theorem stats_add_zero (a : Stats) : a + {} = a := by
  change a.add {} = a
  simp only [Stats.add, UInt64.add_zero]

theorem stats_zero_add (a : Stats) : {} + a = a := by
  change Stats.add {} a = a
  simp only [Stats.add, UInt64.zero_add]

theorem sum_append (first second : List Stats) :
    Stats.sum (first ++ second) = Stats.sum first + Stats.sum second := by
  have run : ∀ start : Stats, second.foldl (· + ·) start = start + Stats.sum second := by
    induction second with
    | nil => exact fun start => (stats_add_zero start).symm
    | cons stats second ih =>
      intro start
      have tail : Stats.sum (stats :: second) = stats + Stats.sum second := by
        rw [Stats.sum, List.foldl_cons, ih, stats_zero_add]
      rw [List.foldl_cons, ih, tail, stats_add_assoc]
  rw [Stats.sum, List.foldl_append, run]
  rfl

/-- Everything a run gives, in terms of the types alone. -/
theorem lower_eq (s : Setting) (p : Program) :
    p.lower s =
      { namespaceName := p.namespaceName
        types := p.types.map fun t => (t.lower s).decl
        diagnostics := p.types.flatMap fun t => (t.lower s).diagnostics
        stats := Stats.sum (p.types.map fun t => (t.lower s).stats) } := by
  rw [← lower_types, ← lower_diagnostics, ← lower_stats]
  rfl

/-- Types that come later only add to what those before them give. -/
theorem lower_append (s : Setting) (p : Program) (before after : List TypeDecl) :
    Program.lower s { p with types := before ++ after } =
      { namespaceName := p.namespaceName
        types := (Program.lower s { p with types := before }).types ++
          (Program.lower s { p with types := after }).types
        diagnostics := (Program.lower s { p with types := before }).diagnostics ++
          (Program.lower s { p with types := after }).diagnostics
        stats := (Program.lower s { p with types := before }).stats +
          (Program.lower s { p with types := after }).stats } := by
  simp only [lower_eq, List.map_append, List.flatMap_append, sum_append]

end Overloads.Proofs.Collection
