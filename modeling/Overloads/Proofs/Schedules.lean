import Overloads.Lowering.Workers
import Overloads.Proofs.Collection
import Mathlib.Algebra.GroupWithZero.Nat
import Mathlib.Data.List.Perm.Basic
import Mathlib.Data.List.Perm.Lattice

/-! Lowering by several workers gives what lowering in order gives. At any time each type of the
program waits, is being lowered or is reported once, so only the order of the results and of the
reports is left to the schedule, and both are sorted in the end. -/

namespace Overloads.Proofs.Schedules
open Collection

/-- The entries of a sorted list with one key are those of the list it came from, in their
order. -/
theorem filter_mergeSort (key : α → Nat) (items : List α) (k : Nat) :
    (items.mergeSort fun a b => key a ≤ key b).filter (key · = k) = items.filter (key · = k) := by
  have equal : (items.filter (key · = k)).Pairwise fun a b => (key a ≤ key b : Bool) := by
    refine List.pairwise_of_forall_mem_list ?_
    intro a first b second
    have left := (List.mem_filter.mp first).2
    have right := (List.mem_filter.mp second).2
    simp only [decide_eq_true_eq] at left right ⊢
    omega
  have kept : (items.filter (key · = k)).Sublist (items.mergeSort fun a b => key a ≤ key b) := by
    refine List.sublist_mergeSort ?_ ?_ equal List.filter_sublist
    · intro a b c
      simp only [decide_eq_true_eq]
      exact Nat.le_trans
    · intro a b
      simp only [Bool.or_eq_true, decide_eq_true_eq]
      exact Nat.le_total _ _
  have inside := kept.filter (key · = k)
  rw [List.filter_filter] at inside
  simp only [Bool.and_self] at inside
  refine (inside.eq_of_length ?_).symm
  exact (((List.mergeSort_perm items _).filter _).length_eq).symm

theorem mergeSort_ordered (key : α → Nat) (items : List α) :
    (items.mergeSort fun a b => key a ≤ key b).Pairwise fun a b => key a ≤ key b := by
  have ordered : (items.mergeSort fun a b => key a ≤ key b).Pairwise
      fun a b => decide (key a ≤ key b) = true := by
    refine List.pairwise_mergeSort ?_ ?_ items
    · intro a b c
      simp only [decide_eq_true_eq]
      exact Nat.le_trans
    · intro a b
      simp only [Bool.or_eq_true, decide_eq_true_eq]
      exact Nat.le_total _ _
  simpa only [decide_eq_true_eq] using ordered

/-- Lists in the order of their keys are equal if they have the same entries for each key, in the
same order. -/
theorem eq_of_filter_eq (key : α → Nat) {first second : List α}
    (left : first.Pairwise fun a b => key a ≤ key b)
    (right : second.Pairwise fun a b => key a ≤ key b)
    (same : ∀ k, first.filter (key · = k) = second.filter (key · = k)) : first = second := by
  induction first generalizing second with
  | nil =>
    cases second with
    | nil => rfl
    | cons b second =>
      have found := same (key b)
      simp at found
  | cons a first ih =>
    cases second with
    | nil =>
      have found := same (key a)
      simp at found
    | cons b second =>
      obtain ⟨leastLeft, restLeft⟩ := List.pairwise_cons.mp left
      obtain ⟨leastRight, restRight⟩ := List.pairwise_cons.mp right
      have forward : key b ≤ key a := by
        have member : a ∈ (b :: second).filter (key · = key a) := by simp [← same (key a)]
        rcases List.mem_cons.mp (List.mem_filter.mp member).1 with rfl | later
        · exact Nat.le_refl _
        · exact leastRight a later
      have backward : key a ≤ key b := by
        have member : b ∈ (a :: first).filter (key · = key b) := by simp [same (key b)]
        rcases List.mem_cons.mp (List.mem_filter.mp member).1 with rfl | later
        · exact Nat.le_refl _
        · exact leastLeft b later
      have heads := same (key a)
      have keys : key b = key a := Nat.le_antisymm forward backward
      simp only [List.filter_cons, keys, decide_true, if_true, List.cons.injEq] at heads
      obtain ⟨rfl, _⟩ := heads
      refine congrArg (a :: ·) (ih restLeft restRight fun k => ?_)
      have both := same k
      by_cases here : key a = k
      · simpa [here] using both
      · simpa [here] using both

theorem completed_determined {s : Setting} {p : Program} {a b : Completed}
    (first : a ∈ p.completed s) (second : b ∈ p.completed s) (same : a.order = b.order) :
    a = b := by
  have distinct : ((p.completed s).map Completed.order).Nodup := by
    rw [completed_orders]
    exact List.nodup_range
  exact List.inj_on_of_nodup_map distinct first second same

/-- Results of the same types in the order of their places are the same list. -/
theorem eq_of_ordered {s : Setting} {p : Program} {first second : List Completed}
    (known : ∀ c ∈ first, c ∈ p.completed s) (perm : first.Perm second)
    (left : first.Pairwise fun a b => a.order ≤ b.order)
    (right : second.Pairwise fun a b => a.order ≤ b.order) : first = second := by
  refine List.Perm.eq_of_pairwise ?_ left right perm
  intro a b inFirst inSecond before after
  exact completed_determined (known a inFirst) (known b (perm.mem_iff.mpr inSecond))
    (Nat.le_antisymm before after)

theorem sorted_results {s : Setting} {p : Program} {results : List Completed}
    (perm : results.Perm (p.completed s)) :
    (results.mergeSort fun a b => a.order ≤ b.order) = p.completed s := by
  have sorted := List.mergeSort_perm results fun a b => a.order ≤ b.order
  refine eq_of_ordered (s := s) (p := p) ?_ (sorted.trans perm)
    (mergeSort_ordered Completed.order results) ((completed_ordered s p).imp Nat.le_of_lt)
  exact fun c member => (sorted.trans perm).mem_iff.mp member

theorem filter_tagged (reports : List Completed) (k : Nat) :
    (reports.flatMap tagged).filter (·.1 = k) = (reports.filter (·.order = k)).flatMap tagged := by
  induction reports with
  | nil => rfl
  | cons c reports ih =>
    rw [List.flatMap_cons, List.filter_append, ih, List.filter_cons]
    by_cases same : c.order = k
    · simp [tagged, same, List.filter_map, Function.comp_def]
    · simp [tagged, same, List.filter_map, Function.comp_def]

/-- The buffer gives the diagnostics back in the order of the types, whatever the order of their
arrival. -/
theorem sorted_reports {s : Setting} {p : Program} {reports : List Completed}
    (perm : reports.Perm (p.completed s)) :
    (Completed.sink reports).sorted = (Completed.sink (p.completed s)).sorted := by
  have whole := (completed_ordered s p).imp Nat.le_of_lt
  have entries : ((reports.flatMap tagged).mergeSort fun a b => a.1 ≤ b.1) =
      (p.completed s).flatMap tagged := by
    refine eq_of_filter_eq Prod.fst (mergeSort_ordered Prod.fst _) (entries_ordered whole)
      fun k => ?_
    rw [filter_mergeSort, filter_tagged, filter_tagged]
    congr 1
    refine eq_of_ordered (s := s) (p := p) ?_ (perm.filter _) ?_ (whole.filter _)
    · exact fun c member => perm.mem_iff.mp (List.mem_filter.mp member).1
    · refine List.pairwise_of_forall_mem_list fun a first b second => ?_
      have left := (List.mem_filter.mp first).2
      have right := (List.mem_filter.mp second).2
      simp only [decide_eq_true_eq] at left right
      omega
  rw [Sink.sorted, sink_entries, entries, sorted_sink whole, List.map_flatMap]
  simp [tagged, Function.comp_def]

theorem collect_perm {s : Setting} {p : Program} {results reports : List Completed}
    (resultsPerm : results.Perm (p.completed s)) (reportsPerm : reports.Perm (p.completed s)) :
    Completed.collect p.namespaceName results reports = p.lower s := by
  have alone := sorted_results (List.Perm.refl (p.completed s))
  simp only [Program.lower, Completed.collect, sorted_results resultsPerm, alone,
    sorted_reports reportsPerm]

/-- The rules of a pool. -/
inductive Steps (s : Setting) (pool : Pool) : Pool.Event → Pool → Prop
  | take {worker position : Nat} {results : List Completed} {job : Job}
      (idle : pool.workers[worker]? = some ⟨.idle, results⟩)
      (waits : pool.queue[position]? = some job) :
      Steps s pool (.take worker position)
        { pool with
          queue := pool.queue.eraseIdx position
          workers := pool.workers.set worker ⟨.lowering job, results⟩ }
  | retry {worker : Nat} {results : List Completed}
      (idle : pool.workers[worker]? = some ⟨.idle, results⟩) : Steps s pool (.retry worker) pool
  | finish {worker : Nat} {results : List Completed} {job : Job}
      (busy : pool.workers[worker]? = some ⟨.lowering job, results⟩) :
      Steps s pool (.finish worker)
        { pool with
          workers := pool.workers.set worker ⟨.idle, results ++ [.of s job]⟩
          reports := pool.reports ++ [.of s job] }
  | stop {worker : Nat} {results : List Completed}
      (idle : pool.workers[worker]? = some ⟨.idle, results⟩) (empty : pool.queue = []) :
      Steps s pool (.stop worker)
        { pool with workers := pool.workers.set worker ⟨.stopped, results⟩ }

theorem step?_eq_some_iff {s : Setting} {pool next : Pool} {event : Pool.Event} :
    pool.step? s event = some next ↔ Steps s pool event next := by
  constructor
  · intro stepped
    cases event with
    | take worker position =>
      simp only [Pool.step?] at stepped
      split at stepped
      next idle waits => cases stepped; exact .take idle waits
      next => cases stepped
    | retry worker =>
      simp only [Pool.step?] at stepped
      split at stepped
      next idle => cases stepped; exact .retry idle
      next => cases stepped
    | finish worker =>
      simp only [Pool.step?] at stepped
      split at stepped
      next busy => cases stepped; exact .finish busy
      next => cases stepped
    | stop worker =>
      simp only [Pool.step?] at stepped
      split at stepped
      next idle empty => cases stepped; exact .stop idle empty
      next => cases stepped
  · intro steps
    cases steps with
    | take idle waits => simp only [Pool.step?, idle, waits]
    | retry idle => simp only [Pool.step?, idle]
    | finish busy => simp only [Pool.step?, busy]
    | stop idle empty => simp only [Pool.step?, idle, empty]

/-- The type that a worker is lowering. -/
def held (w : Worker) : List Job :=
  match w.state with
  | .lowering job => [job]
  | _ => []

/-- The types that are not reported yet. -/
def outstanding (pool : Pool) : List Job := pool.queue ++ pool.workers.flatMap held

structure Accounted (s : Setting) (p : Program) (pool : Pool) : Prop where
  jobs : ((outstanding pool).map (Completed.of s) ++ pool.reports).Perm (p.completed s)
  results : (pool.workers.flatMap Worker.results).Perm pool.reports
  drained : ∀ w ∈ pool.workers, w.isStopped = true → pool.queue = []

/-- A worker that changes leaves the others as they are. -/
theorem set_perm {workers : List Worker} {index : Nat} {old : Worker}
    (found : workers[index]? = some old) (new : Worker) :
    ∃ others, workers.Perm (old :: others) ∧ (workers.set index new).Perm (new :: others) := by
  obtain ⟨inside, rfl⟩ := List.getElem?_eq_some_iff.mp found
  exact ⟨workers.eraseIdx index, (List.getElem_cons_eraseIdx_perm inside).symm,
    List.set_perm_cons_eraseIdx inside new⟩

/-- What the workers have together stays the same if the one that changes keeps its share. -/
theorem flatMap_set {workers : List Worker} {index : Nat} {old : Worker}
    (found : workers[index]? = some old) (new : Worker) {f : Worker → List α}
    (same : f new = f old) :
    ((workers.set index new).flatMap f).Perm (workers.flatMap f) := by
  obtain ⟨others, before, after⟩ := set_perm found new
  have first := after.flatMap_right f
  rw [List.flatMap_cons, same] at first
  exact first.trans (before.flatMap_right f).symm

private theorem flatMap_start (p : Program) (available : Nat) {f : Worker → List α}
    (nothing : f {} = []) : (Pool.start p available).workers.flatMap f = [] := by
  simp only [Pool.start, List.flatMap_eq_nil_iff]
  intro w member
  rw [List.eq_of_mem_replicate member, nothing]

theorem start_accounted (s : Setting) (p : Program) (available : Nat) :
    Accounted s p (.start p available) := by
  constructor
  · rw [outstanding, flatMap_start p available rfl, List.append_nil]
    exact List.Perm.of_eq (List.append_nil _)
  · rw [flatMap_start p available rfl]
    exact List.Perm.refl []
  · intro w member stopped
    rw [List.eq_of_mem_replicate member] at stopped
    cases stopped

theorem step_accounted {s : Setting} {p : Program} {pool next : Pool} {event : Pool.Event}
    (kept : Accounted s p pool) (steps : Steps s pool event next) : Accounted s p next := by
  cases steps with
  | retry idle => exact kept
  | @take worker position results job idle waits =>
    obtain ⟨others, before, after⟩ := set_perm idle ⟨.lowering job, results⟩
    obtain ⟨inside, rfl⟩ := List.getElem?_eq_some_iff.mp waits
    -- The type moves from the queue to the worker and stays outstanding.
    have same : (pool.queue.eraseIdx position ++
        (pool.workers.set worker ⟨.lowering pool.queue[position], results⟩).flatMap held).Perm
        (outstanding pool) := by
      refine ((after.flatMap_right held).append_left _).trans (List.perm_middle.trans ?_)
      exact (List.getElem_cons_eraseIdx_perm inside).append (before.flatMap_right held).symm
    refine ⟨((same.map _).append_right _).trans kept.jobs, ?_, ?_⟩
    · exact (flatMap_set idle ⟨.lowering _, results⟩ rfl).trans kept.results
    · intro w member stopped
      rcases List.mem_or_eq_of_mem_set member with old | rfl
      · have empty := kept.drained w old stopped
        simp [empty] at inside
      · cases stopped
  | @finish worker results job busy =>
    obtain ⟨others, before, after⟩ := set_perm busy ⟨.idle, results ++ [Completed.of s job]⟩
    have reported : (outstanding pool).Perm (job :: (pool.queue ++
        (pool.workers.set worker ⟨.idle, results ++ [.of s job]⟩).flatMap held)) := by
      refine ((before.flatMap_right held).append_left _).trans (List.perm_middle.trans ?_)
      exact ((after.flatMap_right held).symm.append_left _).cons job
    refine ⟨?_, ?_, ?_⟩
    · have moved := ((reported.map (Completed.of s)).append_right pool.reports).symm
      exact ((List.perm_append_comm.append_left _).trans List.perm_middle).trans
        (moved.trans kept.jobs)
    · have moved : ((results ++ [Completed.of s job]) ++ others.flatMap Worker.results).Perm
          ((results ++ others.flatMap Worker.results) ++ [Completed.of s job]) := by
        rw [List.append_assoc, List.append_assoc]
        exact List.perm_append_comm.append_left _
      have earlier := (before.flatMap_right Worker.results).symm.trans kept.results
      exact (after.flatMap_right Worker.results).trans (moved.trans (earlier.append_right _))
    · intro w member stopped
      rcases List.mem_or_eq_of_mem_set member with old | rfl
      · exact kept.drained w old stopped
      · cases stopped
  | @stop worker results idle empty =>
    have same : (pool.queue ++ (pool.workers.set worker ⟨.stopped, results⟩).flatMap held).Perm
        (outstanding pool) := (flatMap_set idle ⟨.stopped, results⟩ rfl).append_left _
    refine ⟨((same.map _).append_right _).trans kept.jobs, ?_, fun _ _ _ => empty⟩
    exact (flatMap_set idle ⟨.stopped, results⟩ rfl).trans kept.results

/-- The events that a worker will still take part in, apart from those for types that wait. -/
def weight (w : Worker) : Nat :=
  match w.state with
  | .idle => 1
  | .lowering _ => 2
  | .stopped => 0

/-- The number of events until all workers have stopped, retries apart. -/
def remaining (pool : Pool) : Nat := 2 * pool.queue.length + (pool.workers.map weight).sum

theorem sum_set {workers : List Worker} {index : Nat} {old : Worker}
    (found : workers[index]? = some old) (new : Worker) :
    ((workers.set index new).map weight).sum + weight old =
      (workers.map weight).sum + weight new := by
  obtain ⟨others, before, after⟩ := set_perm found new
  have first := (before.map weight).sum_nat
  have second := (after.map weight).sum_nat
  simp only [List.map_cons, List.sum_cons] at first second
  omega

theorem step_remaining {s : Setting} {pool next : Pool} {event : Pool.Event}
    (steps : Steps s pool event next) :
    remaining next + (if event.isRetry then 0 else 1) = remaining pool := by
  cases steps with
  | retry idle => rfl
  | @take worker position results job idle waits =>
    have sum := sum_set idle ⟨.lowering job, results⟩
    obtain ⟨inside, _⟩ := List.getElem?_eq_some_iff.mp waits
    have length := List.length_eraseIdx_add_one inside
    simp only [remaining, Pool.Event.isRetry, weight, Bool.false_eq_true, if_false] at sum ⊢
    omega
  | @finish worker results job busy =>
    have sum := sum_set busy ⟨.idle, results ++ [Completed.of s job]⟩
    simp only [remaining, Pool.Event.isRetry, weight, Bool.false_eq_true, if_false] at sum ⊢
    omega
  | @stop worker results idle empty =>
    have sum := sum_set idle ⟨.stopped, results⟩
    simp only [remaining, Pool.Event.isRetry, weight, Bool.false_eq_true, if_false] at sum ⊢
    omega

theorem step_workers {s : Setting} {pool next : Pool} {event : Pool.Event}
    (steps : Steps s pool event next) : next.workers.length = pool.workers.length := by
  cases steps with
  | retry idle => rfl
  | take idle waits => exact List.length_set
  | finish busy => exact List.length_set
  | stop idle empty => exact List.length_set

theorem run_cons {s : Setting} {pool final : Pool} {event : Pool.Event} {events : List Pool.Event}
    (ran : pool.run? s (event :: events) = some final) :
    ∃ next, Steps s pool event next ∧ next.run? s events = some final := by
  simp only [Pool.run?, List.foldlM_cons] at ran
  obtain ⟨next, stepped, rest⟩ := Option.bind_eq_some_iff.mp ran
  exact ⟨next, step?_eq_some_iff.mp stepped, rest⟩

/-- A schedule keeps account of the types and uses up the events that remain. -/
theorem run_accounted {s : Setting} {p : Program} {pool final : Pool} {events : List Pool.Event}
    (kept : Accounted s p pool) (ran : pool.run? s events = some final) :
    Accounted s p final ∧ remaining final + events.countP (!·.isRetry) = remaining pool ∧
      final.workers.length = pool.workers.length := by
  induction events generalizing pool with
  | nil =>
    cases ran
    exact ⟨kept, rfl, rfl⟩
  | cons event events ih =>
    obtain ⟨next, steps, rest⟩ := run_cons ran
    obtain ⟨accounted, used, workers⟩ := ih (step_accounted kept steps) rest
    have one := step_remaining steps
    refine ⟨accounted, ?_, workers.trans (step_workers steps)⟩
    rw [List.countP_cons]
    cases retries : event.isRetry with
    | true =>
      simp only [retries, if_true, Bool.not_true, Bool.false_eq_true, if_false] at one ⊢
      omega
    | false =>
      simp only [retries, Bool.not_false, Bool.false_eq_true, if_false, if_true] at one ⊢
      omega

/-- All that a joined pool leaves behind are the results and the reports of all types. -/
theorem joined_complete {s : Setting} {p : Program} {pool : Pool} (kept : Accounted s p pool)
    (staffed : 0 < pool.workers.length) (joined : pool.isJoined = true) :
    pool.reports.Perm (p.completed s) ∧
      (pool.workers.flatMap Worker.results).Perm (p.completed s) := by
  have stopped : ∀ w ∈ pool.workers, w.isStopped = true := List.all_eq_true.mp joined
  have empty := kept.drained _ (List.getElem_mem staffed) (stopped _ (List.getElem_mem staffed))
  have idle : pool.workers.flatMap held = [] := by
    rw [List.flatMap_eq_nil_iff]
    rintro ⟨state, results⟩ member
    have ended := stopped _ member
    cases state with
    | idle | lowering _ => cases ended
    | stopped => rfl
  have reports := kept.jobs
  rw [outstanding, empty, idle] at reports
  exact ⟨reports, kept.results.trans reports⟩

/-- Until all workers have stopped, one of them can go on: none waits for another. -/
theorem step_exists (s : Setting) {pool : Pool} (unfinished : pool.isJoined = false) :
    ∃ event next, event.isRetry = false ∧ Steps s pool event next := by
  obtain ⟨⟨state, results⟩, member, running⟩ := List.all_eq_false.mp unfinished
  obtain ⟨worker, found⟩ := List.mem_iff_getElem?.mp member
  cases state with
  | stopped => exact False.elim (running rfl)
  | lowering job => exact ⟨_, _, rfl, .finish found⟩
  | idle =>
    cases queue : pool.queue with
    | nil => exact ⟨_, _, rfl, .stop found queue⟩
    | cons job rest =>
      have first : pool.queue[0]? = some job := by rw [queue]; rfl
      exact ⟨_, _, rfl, .take found first⟩

/-- Every pool can be carried on until all workers have stopped. -/
theorem run_completes (s : Setting) (pool : Pool) :
    ∃ events final, pool.run? s events = some final ∧ final.isJoined = true := by
  -- By induction on the events that remain: a step that is no retry uses one of them up.
  generalize left : remaining pool = count
  induction count using Nat.strongRecOn generalizing pool with
  | ind count ih =>
    cases joined : pool.isJoined with
    | true => exact ⟨[], pool, rfl, joined⟩
    | false =>
      obtain ⟨event, next, productive, steps⟩ := step_exists s joined
      have fewer := step_remaining steps
      simp only [productive, Bool.false_eq_true, if_false] at fewer
      obtain ⟨events, final, ran, ended⟩ := ih (remaining next) (by omega) next rfl
      refine ⟨event :: events, final, ?_, ended⟩
      simp only [Pool.run?, List.foldlM_cons, step?_eq_some_iff.mpr steps]
      exact ran

theorem start_remaining (p : Program) (available : Nat) :
    remaining (.start p available) = 2 * p.types.length + p.workerCount available := by
  simp [remaining, Pool.start, weight]

/-- Whatever a schedule leaves behind is put together as lowering in order has it. -/
theorem collect_joined {s : Setting} {p : Program} {available : Nat} {events : List Pool.Event}
    {pool : Pool} (ran : (Pool.start p available).run? s events = some pool)
    (joined : pool.isJoined = true) {order : List Worker} (perm : order.Perm pool.workers) :
    Completed.collect p.namespaceName (order.flatMap Worker.results) pool.reports = p.lower s := by
  obtain ⟨kept, _, workers⟩ := run_accounted (start_accounted s p available) ran
  have staffed : 0 < pool.workers.length := by
    rw [workers, Pool.start, List.length_replicate, Program.workerCount]
    omega
  obtain ⟨reports, results⟩ := joined_complete kept staffed joined
  exact collect_perm ((perm.flatMap_right _).trans results) reports

/-- Any number of workers, under any schedule, gives what lowering in order gives. A schedule never
gets stuck, and retries apart it has a bounded length. Each type contributes to the outcome on its
own. -/
theorem lower_by_workers (s : Setting) (p : Program) (available : Nat) :
    (∀ events pool, (Pool.start p available).run? s events = some pool →
      (∃ more final, pool.run? s more = some final ∧ final.isJoined = true) ∧
      events.countP (!·.isRetry) ≤ 2 * p.types.length + p.workerCount available ∧
      (pool.isJoined = true → ∀ order : List Worker, order.Perm pool.workers →
        Completed.collect p.namespaceName (order.flatMap Worker.results) pool.reports =
          p.lower s)) ∧
    p.lower s =
      { namespaceName := p.namespaceName
        types := p.types.map fun t => (t.lower s).decl
        diagnostics := p.types.flatMap fun t => (t.lower s).diagnostics
        stats := Stats.sum (p.types.map fun t => (t.lower s).stats) } ∧
    ∀ before after, p.types = before ++ after →
      p.lower s =
        { namespaceName := p.namespaceName
          types := (Program.lower s { p with types := before }).types ++
            (Program.lower s { p with types := after }).types
          diagnostics := (Program.lower s { p with types := before }).diagnostics ++
            (Program.lower s { p with types := after }).diagnostics
          stats := (Program.lower s { p with types := before }).stats +
            (Program.lower s { p with types := after }).stats } := by
  refine ⟨?_, lower_eq s p, ?_⟩
  · intro events pool ran
    obtain ⟨_, used, _⟩ := run_accounted (start_accounted s p available) ran
    rw [start_remaining] at used
    exact ⟨run_completes s pool, by omega, fun joined _ perm => collect_joined ran joined perm⟩
  · intro before after types
    rw [← lower_append, ← types]

/-- Two types with a diagnostic each. -/
def reporting : Program :=
  { types := [
      { name := "A", fields := [{ name := "a", type := .value "Vec3" }] },
      { name := "B", fields := [{ name := "b", type := .value "Vec3" }] }] }

/-- The second type is taken and reported before the first. -/
def reversedEvents : List Pool.Event :=
  [.take 1 1, .retry 0, .finish 1, .take 0 0, .stop 1, .finish 0, .stop 0]

theorem reporting_out_of_order :
    ∃ pool, (Pool.start reporting 4).run? ⟨.empty, true⟩ reversedEvents = some pool ∧
      pool.isJoined = true ∧ pool.reports.map Completed.order = [1, 0] ∧
      Completed.collect "" (pool.workers.reverse.flatMap Worker.results) pool.reports =
        reporting.lower ⟨.empty, true⟩ ∧
      (reporting.lower ⟨.empty, true⟩).diagnostics.map Diagnostic.owner = ["A", "B"] := by
  obtain ⟨schedules, _, _⟩ := lower_by_workers ⟨.empty, true⟩ reporting 4
  refine ⟨_, rfl, rfl, rfl, ?_, ?_⟩
  · exact (schedules reversedEvents _ rfl).2.2 rfl _ (List.reverse_perm _)
  · rw [Collection.lower_eq]
    rfl

end Overloads.Proofs.Schedules
