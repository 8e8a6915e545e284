import Overloads.Command.Run
import Overloads.Proofs.Collection
import Overloads.Proofs.Emission
import Overloads.Proofs.UnknownTypes

/-! A run without errors loses nothing. Every way to drop a method or an initializer, or to leave
a slot unresolved, reports an error, and every error stands for such a loss. -/

namespace Overloads.Proofs.LosslessRuns
open Emission OverloadSets UnknownTypes

/-- The lowered type has every method, resolved slots, and every initializer. -/
structure Intact (t : TypeDecl) (lowered : TargetType) : Prop where
  methods : lowered.methods.map TargetMethod.index = (List.range t.methods.length).map .ofNat
  fields : ∀ f ∈ lowered.fields, Resolved f.slot
  params : ∀ o ∈ lowered.overloads, ∀ p ∈ o.params, Resolved p.slot
  returns : ∀ o ∈ lowered.overloads, ∀ slot, o.returnType = some slot → Resolved slot
  initializers : List.Forall₂ (fun (declared : Field) (target : TargetField) =>
    declared.initializer.isSome → target.initializer.isSome) t.fields lowered.fields

/-- No error among the diagnostics. -/
def Clean (diagnostics : List Diagnostic) : Prop := ∀ d ∈ diagnostics, d.isError = false

theorem clean_nil : Clean [] := by simp [Clean]

theorem clean_report {kind : DiagnosticKind} {owner member detail : String} {span : Option Span} :
    Clean [.report kind owner member detail span] ↔ kind = .nonTrailingDefault := by
  rw [Clean, List.forall_mem_singleton, Diagnostic.isError_report]

theorem clean_append {first second : List Diagnostic} :
    Clean (first ++ second) ↔ Clean first ∧ Clean second := by
  simp [Clean, or_imp, forall_and]

theorem clean_flatMap {items : List α} {f : α → List Diagnostic} :
    Clean (items.flatMap f) ↔ ∀ item ∈ items, Clean (f item) := by
  simp only [Clean, List.mem_flatMap]
  exact ⟨fun clean item member d inside => clean d ⟨item, member, inside⟩,
    fun clean d ⟨item, member, inside⟩ => clean item member d inside⟩

theorem clean_unsupported {r : Registry} {owner member place : String} {type : DeclaredType}
    {nullable : Bool} {span : Option Span} :
    Clean (unsupportedDiagnostic r owner member place type nullable span) ↔
      unknown r type = false := by
  rw [unsupportedDiagnostic_eq]
  cases unknown r type <;> simp [clean_nil, clean_report]

theorem clean_ignored (owner : String) (m : Method) (p : Parameter) (after : List Parameter) :
    Clean (Method.ignoredDiagnostic owner m p after) := by
  unfold Method.ignoredDiagnostic
  split
  · exact clean_report.mpr rfl
  · exact clean_nil

theorem clean_params {r : Registry} {owner : String} {m : Method} {params : List Parameter} :
    Clean (Method.paramDiagnostics r owner m params) ↔ ∀ p ∈ params, unknown r p.type = false := by
  induction params with
  | nil => simp [Method.paramDiagnostics, clean_nil]
  | cons p after ih =>
    simp only [Method.paramDiagnostics, clean_append, clean_unsupported, clean_ignored, and_true, ih,
      List.forall_mem_cons]

/-- The registry knows all types that a method mentions. -/
def Known (r : Registry) (m : Method) : Prop :=
  (∀ p ∈ m.params, unknown r p.type = false) ∧
    ∀ declared, m.returnType = some declared → unknown r declared.type = false

theorem clean_method {r : Registry} {owner : String} {m : Method} :
    Clean (m.diagnostics r owner) ↔ Known r m := by
  simp only [Method.diagnostics, clean_append, clean_params, Known, and_congr_right_iff]
  intro _
  unfold Method.returnDiagnostics
  cases m.returnType with
  | none => simp [clean_nil]
  | some declared => simp [clean_unsupported]

theorem clean_field {r : Registry} {owner : String} {f : Field} :
    Clean (f.diagnostics r owner) ↔
      Resolved (f.lower r).slot ∧ (f.initializer.isSome → (f.lower r).initializer.isSome) := by
  simp only [Field.diagnostics, clean_append, clean_unsupported]
  refine and_congr (resolved_ofDeclared_iff r f.type f.nullable).symm ?_
  unfold Field.initializerDiagnostics Field.lower SlotType.check
  cases f.initializer with
  | none => simp [clean_nil]
  | some literal =>
    cases admitted : (f.slot r).admits literal <;>
      simp [admitted, clean_nil, clean_report, Option.filter]

theorem clean_attempt {s : Setting} {t : TypeDecl} {a : Attempt} (attempted : a ∈ t.attempts s) :
    Clean (a.diagnostics t.name) ↔
      (∃ m overloads, Lowers s t a.index m overloads) ∧ Known s.registry a.method := by
  cases outcome : a.outcome with
  | error e =>
    simp only [Attempt.diagnostics, outcome]
    constructor
    · intro clean
      cases clean_report.mp clean
    · rintro ⟨⟨m, overloads, lowers⟩, _⟩
      obtain ⟨_, diagnostics, succeeded⟩ := lowers.outcome_eq attempted
      rw [outcome] at succeeded
      cases succeeded
  | ok lowering =>
    have lowered := (mem_attempts.mp attempted).2.symm.trans outcome
    have lowers := Lowers.of_attempt attempted outcome
    simp only [Attempt.diagnostics, outcome]
    rw [(lower_eq_ok_iff.mp lowered).2, clean_method]
    exact ⟨fun known => ⟨⟨_, _, lowers⟩, known⟩, fun both => both.2⟩

/-- A collision is an error, so a clean report skips nothing. -/
theorem clean_collisions (s : Setting) (t : TypeDecl) :
    Clean (t.collisions s).diagnostics ↔
      ∀ index other, other ≠ index → ¬ Clash s t index other := by
  have errors : ∀ d ∈ (t.collisions s).diagnostics, d.isError = true := by
    intro d member
    obtain ⟨g, _, rfl⟩ := List.mem_map.mp member
    rfl
  have empty : Clean (t.collisions s).diagnostics ↔ (t.collisions s).diagnostics = [] := by
    rw [List.eq_nil_iff_forall_not_mem]
    refine forall_congr' fun d => ⟨fun clean member => ?_, fun absent member => absurd member absent⟩
    cases (errors d member).symm.trans (clean member)
  have skipped : (t.collisions s).skipped = [] ↔
      ∀ index, (t.collisions s).isSkipped index = false := by
    simp [List.eq_nil_iff_forall_not_mem, CollisionReport.isSkipped]
  rw [empty, TypeDecl.collisions, SignatureGroups.diagnostics_eq_nil_iff, ← TypeDecl.collisions,
    skipped]
  refine forall_congr' fun index => ?_
  rw [← Bool.not_eq_true, isSkipped_iff]
  simp only [not_exists, not_and]

theorem emitted_indices (s : Setting) (t : TypeDecl) :
    (t.emitted s).map TargetMethod.index = (survivors s t).map .ofNat := by
  have pairs := emitted_survivors s t
  generalize survivors s t = indices at pairs
  generalize t.emitted s = targets at pairs
  induction pairs with
  | nil => rfl
  | cons same _ ih =>
    obtain ⟨m, overloads, _, rfl⟩ := same
    rw [List.map_cons, List.map_cons, ih]

/-- All methods are emitted exactly if all survive. -/
theorem all_emitted_iff (s : Setting) (t : TypeDecl) :
    (t.emitted s).map TargetMethod.index = (List.range t.methods.length).map .ofNat ↔
      ∀ index < t.methods.length, Survives s t index := by
  have part : (survivors s t).Sublist (List.range t.methods.length) := by
    rw [← attempts_indices s t]
    exact List.filter_sublist.map _
  rw [emitted_indices]
  constructor
  · intro all index inside
    have length := congrArg List.length all
    rw [List.length_map, List.length_map] at length
    have whole := part.eq_of_length length
    exact mem_survivors.mp (whole ▸ List.mem_range.mpr inside)
  · intro all
    have whole : List.range t.methods.length ⊆ survivors s t :=
      fun index inside => mem_survivors.mpr (all index (List.mem_range.mp inside))
    rw [part.eq_of_length_le ((List.nodup_range).length_le_of_subset whole)]

/-- Without methods lost, the slots of the output are those of the declarations. -/
theorem slots_resolved_iff {s : Setting} {t : TypeDecl}
    (all : ∀ index < t.methods.length, Survives s t index) :
    ((∀ o ∈ (t.lower s).decl.overloads, ∀ p ∈ o.params, Resolved p.slot) ∧
      ∀ o ∈ (t.lower s).decl.overloads, ∀ slot, o.returnType = some slot → Resolved slot) ↔
        ∀ m ∈ t.methods, Known s.registry m := by
  have present : ∀ o, o ∈ (t.lower s).decl.overloads ↔ ∃ m ∈ t.methods, o ∈ m.overloads s := by
    intro o
    rw [mem_lowered]
    constructor
    · rintro ⟨index, m, _, declared, inside⟩
      exact ⟨m, List.mem_of_getElem? declared, inside⟩
    · rintro ⟨m, member, inside⟩
      obtain ⟨index, inRange, rfl⟩ := List.mem_iff_getElem.mp member
      exact ⟨index, _, all index inRange, List.getElem?_eq_getElem inRange, inside⟩
  constructor
  · rintro ⟨params, returns⟩ m member
    have canonical := (present (m.canonical s)).mpr ⟨m, member, mem_overloads.mpr (Or.inl rfl)⟩
    constructor
    · intro p inside
      have slot : p.slot s.registry ∈ (m.canonical s).slots := by
        rw [canonical_slots]
        exact List.mem_map.mpr ⟨p, inside, rfl⟩
      obtain ⟨target, targetInside, same⟩ := List.mem_map.mp slot
      have resolved := params _ canonical target targetInside
      rw [same] at resolved
      exact (resolved_ofDeclared_iff _ _ _).mp resolved
    · intro declared returned
      have slot : (m.canonical s).returnType = some (declared.slot s.registry) := by
        simp [Method.canonical, returned]
      exact (resolved_ofDeclared_iff _ _ _).mp (returns _ canonical _ slot)
  · intro known
    constructor
    · intro o member p inside
      obtain ⟨m, declaredHere, overload⟩ := (present o).mp member
      obtain ⟨declared, param, same⟩ := slot_of_mem overload inside
      rw [same]
      exact (resolved_ofDeclared_iff _ _ _).mpr ((known m declaredHere).1 declared param)
    · intro o member slot returned
      obtain ⟨m, declaredHere, overload⟩ := (present o).mp member
      rw [returnType_of_mem overload] at returned
      obtain ⟨declared, found, rfl⟩ := Option.map_eq_some_iff.mp returned
      exact (resolved_ofDeclared_iff _ _ _).mpr ((known m declaredHere).2 declared found)

theorem clean_methods_iff (s : Setting) (t : TypeDecl) :
    (∀ a ∈ t.attempts s, Clean (a.diagnostics t.name)) ∧ Clean (t.collisions s).diagnostics ↔
      (∀ index < t.methods.length, Survives s t index) ∧
        ∀ m ∈ t.methods, Known s.registry m := by
  have attempt : ∀ index (inside : index < t.methods.length),
      (⟨index, t.methods[index], t.methods[index].lower s t.name⟩ : Attempt) ∈ t.attempts s :=
    fun index inside => mem_attempts.mpr ⟨List.getElem?_eq_getElem inside, rfl⟩
  rw [clean_collisions]
  constructor
  · rintro ⟨clean, alone⟩
    constructor
    · intro index inside
      exact ⟨((clean_attempt (attempt index inside)).mp (clean _ (attempt index inside))).1, alone index⟩
    · intro m member
      obtain ⟨index, inside, rfl⟩ := List.mem_iff_getElem.mp member
      exact ((clean_attempt (attempt index inside)).mp (clean _ (attempt index inside))).2
  · rintro ⟨all, known⟩
    constructor
    · intro a member
      have declared := (mem_attempts.mp member).1
      have inside := (List.getElem?_eq_some_iff.mp declared).1
      exact (clean_attempt member).mpr
        ⟨(all a.index inside).lowers, known a.method (List.mem_of_getElem? declared)⟩
    · intro index other different clash
      have ⟨_, _, _, _, ⟨declared, _⟩, _⟩ := clash
      have inside := (List.getElem?_eq_some_iff.mp declared).1
      exact (all index inside).alone other different clash

theorem clean_fields_iff (r : Registry) (owner : String) (fields : List Field) :
    (∀ f ∈ fields, Clean (f.diagnostics r owner)) ↔
      (∀ target ∈ fields.map (Field.lower r), Resolved target.slot) ∧
        List.Forall₂ (fun (declared : Field) (target : TargetField) =>
          declared.initializer.isSome → target.initializer.isSome) fields
          (fields.map (Field.lower r)) := by
  induction fields with
  | nil => simp
  | cons f fields ih =>
    rw [List.forall_mem_cons, ih, clean_field, List.map_cons, List.forall_mem_cons,
      List.forall₂_cons]
    constructor
    · rintro ⟨⟨resolved, kept⟩, others, rest⟩
      exact ⟨⟨resolved, others⟩, kept, rest⟩
    · rintro ⟨⟨resolved, others⟩, kept, rest⟩
      exact ⟨⟨resolved, kept⟩, others, rest⟩

/-- One type is lowered without error exactly if nothing of it is lost. -/
theorem clean_type_iff (s : Setting) (t : TypeDecl) :
    Clean (t.lower s).diagnostics ↔ Intact t (t.lower s).decl := by
  have parts : Clean (t.lower s).diagnostics ↔
      (∀ f ∈ t.fields, Clean (f.diagnostics s.registry t.name)) ∧
        (∀ a ∈ t.attempts s, Clean (a.diagnostics t.name)) ∧
          Clean (t.collisions s).diagnostics := by
    simp only [TypeDecl.lower, TypeDecl.diagnostics, clean_append, clean_flatMap, and_assoc]
  rw [parts, clean_fields_iff, clean_methods_iff]
  constructor
  · rintro ⟨⟨fields, initializers⟩, all, known⟩
    obtain ⟨params, returns⟩ := (slots_resolved_iff all).mpr known
    exact ⟨(all_emitted_iff s t).mpr all, fields, params, returns, initializers⟩
  · rintro ⟨methods, fields, params, returns, initializers⟩
    have all := (all_emitted_iff s t).mp methods
    exact ⟨⟨fields, initializers⟩, all, (slots_resolved_iff all).mp ⟨params, returns⟩⟩

/-- A run reports no error, and the command succeeds, exactly if nothing of the program is
lost. -/
theorem no_errors_iff_intact (c : Config) (p : Program) :
    ((p.run c).hasErrors = false ↔ List.Forall₂ Intact p.types (p.run c).types) ∧
      ∀ source, (Command.Session.mk c (p.run c) source).exit = 0 ↔
        List.Forall₂ Intact p.types (p.run c).types := by
  have types : List.Forall₂ Intact p.types (p.run c).types ↔
      ∀ t ∈ p.types, Intact t (t.lower c.setting).decl := by
    simp only [Program.run, Collection.lower_types, List.forall₂_map_right_iff, List.forall₂_same]
  have clean : (p.run c).hasErrors = false ↔ List.Forall₂ Intact p.types (p.run c).types := by
    have errors : (p.run c).hasErrors = false ↔ Clean (p.run c).diagnostics := by
      simp [TargetProgram.hasErrors, Clean]
    rw [errors, types, Program.run, Collection.lower_diagnostics, clean_flatMap]
    exact forall₂_congr fun t _ => clean_type_iff c.setting t
  refine ⟨clean, fun source => ?_⟩
  rw [← clean]
  cases errors : (p.run c).hasErrors <;> simp [Command.Session.exit, errors]

end Overloads.Proofs.LosslessRuns
