import Overloads.Config.Basic
import Overloads.Proofs.Collection
import Overloads.Proofs.Schedules

/-! What the outcome of a run depends on. Of the configured value types only those count that the
program uses and that are no primitives, in whatever order and however often they are listed. The
style of nullable types, the placeholder and the number of threads do not count. -/

namespace Overloads.Proofs.Dependence
open Schedules

def methodTypes (m : Method) : List DeclaredType :=
  m.params.map Parameter.type ++ m.returnType.toList.map ReturnType.type

def memberTypes (t : TypeDecl) : List DeclaredType :=
  t.fields.map Field.type ++ t.methods.flatMap methodTypes

/-- The name of a value type that is no primitive. -/
def userName? : DeclaredType → Option String
  | .value name => if (Primitive.ofSpelling? name).isNone then some name else none
  | .reference _ => none

/-- The names that a program uses for value types, those of primitives apart. -/
def userNames (p : Program) : List String := (p.types.flatMap memberTypes).filterMap userName?

/-- One run of a program by workers, as many as are configured or else one to each processor. -/
def Outcome (c : Config) (processors : Nat) (p : Program) (result : TargetProgram) : Prop :=
  ∃ events pool, (Pool.start p (c.workers?.elim processors UInt64.toNat)).run? c.setting events =
      some pool ∧ pool.isJoined = true ∧
    ∃ order : List Worker, order.Perm pool.workers ∧
      result = Completed.collect p.namespaceName (order.flatMap Worker.results) pool.reports

/-- Two registries give a declared type the same slots. -/
def Agree (r r' : Registry) (type : DeclaredType) : Prop :=
  ∀ nullable, r.slot type nullable = r'.slot type nullable

theorem agree_ofNames {names others : List String} {type : DeclaredType}
    (same : ∀ name, userName? type = some name → (name ∈ names ↔ name ∈ others)) :
    Agree (.ofNames names) (.ofNames others) type := by
  intro nullable
  cases type with
  | reference name => rfl
  | value name =>
    have resolved : (Registry.ofNames names).resolve? name =
        (Registry.ofNames others).resolve? name := by
      cases spelling : Primitive.ofSpelling? name with
      | some primitive => simp only [Registry.resolve?, spelling]
      | none =>
        have listed := same name (by simp [userName?, spelling])
        have known : (Registry.ofNames names).names.contains name =
            (Registry.ofNames others).names.contains name := by
          rw [Bool.eq_iff_iff]
          simp only [List.contains_eq_mem, decide_eq_true_eq, Registry.mem_ofNames, listed]
        simp only [Registry.resolve?, spelling, known]
    simp only [Registry.slot, Registry.storage, resolved]

section Congruence
variable {r r' : Registry} {native : Bool}

theorem ofDeclared_congr {type : DeclaredType} (agree : Agree r r' type) (nullable : Bool) :
    SlotType.ofDeclared r type nullable = SlotType.ofDeclared r' type nullable := by
  simp only [SlotType.ofDeclared, agree nullable]

theorem unsupported_congr {type : DeclaredType} (agree : Agree r r' type)
    (owner member place : String) (nullable : Bool) (span : Option Span) :
    unsupportedDiagnostic r owner member place type nullable span =
      unsupportedDiagnostic r' owner member place type nullable span := by
  simp only [unsupportedDiagnostic, agree nullable]

theorem paramSlot_congr {p : Parameter} (agree : Agree r r' p.type) : p.slot r = p.slot r' :=
  ofDeclared_congr agree p.nullable

theorem paramLower_congr {params : List Parameter} (agree : ∀ p ∈ params, Agree r r' p.type)
    (native : Bool) :
    params.map (Parameter.lower r native) = params.map (Parameter.lower r' native) := by
  refine List.map_congr_left fun p member => ?_
  simp only [Parameter.lower, paramSlot_congr (agree p member)]

theorem arguments_congr {params : List Parameter} (agree : ∀ p ∈ params, Agree r r' p.type) :
    params.filterMap (Parameter.argument? r) = params.filterMap (Parameter.argument? r') := by
  refine List.filterMap_congr fun p member => ?_
  simp only [Parameter.argument?, paramSlot_congr (agree p member)]

theorem misfit_congr {params : List Parameter} (agree : ∀ p ∈ params, Agree r r' p.type) :
    params.findSome? (Parameter.misfit? r) = params.findSome? (Parameter.misfit? r') := by
  rw [← List.head?_filterMap, ← List.head?_filterMap]
  congr 1
  refine List.filterMap_congr fun p member => ?_
  simp only [Parameter.misfit?, paramSlot_congr (agree p member)]

theorem paramDiagnostics_congr {params : List Parameter}
    (agree : ∀ p ∈ params, Agree r r' p.type) (owner : String) (m : Method) :
    m.paramDiagnostics r owner params = m.paramDiagnostics r' owner params := by
  induction params with
  | nil => rfl
  | cons p after ih =>
    simp only [Method.paramDiagnostics, unsupported_congr (agree p List.mem_cons_self),
      ih fun q member => agree q (List.mem_cons_of_mem p member)]

variable {m : Method} (agree : ∀ type ∈ methodTypes m, Agree r r' type)
include agree

theorem agree_param : ∀ p ∈ m.params, Agree r r' p.type :=
  fun p member => agree p.type (List.mem_append_left _ (List.mem_map_of_mem member))

theorem agree_return : ∀ declared ∈ m.returnType, Agree r r' declared.type := by
  intro declared member
  refine agree declared.type (List.mem_append_right _ (List.mem_map_of_mem ?_))
  exact Option.mem_toList.mpr member

theorem canonical_congr : m.canonical ⟨r, native⟩ = m.canonical ⟨r', native⟩ := by
  have params := agree_param agree
  have required := paramLower_congr
    (fun p member => params p (List.mem_of_mem_take (i := m.optionalStart) member)) false
  have optional := paramLower_congr
    (fun p member => params p (List.mem_of_mem_drop (i := m.optionalStart) member)) native
  have returned : m.returnType.map (ReturnType.slot r) = m.returnType.map (ReturnType.slot r') :=
    Option.map_congr fun declared member =>
      ofDeclared_congr (agree_return agree declared member) declared.nullable
  simp only [Method.canonical, Method.targetParams, required, optional, returned]

theorem forwarding_congr (keep : Nat) :
    m.forwarding ⟨r, native⟩ keep = m.forwarding ⟨r', native⟩ keep := by
  have params := agree_param agree
  have kept := paramLower_congr
    (fun p member => params p (List.mem_of_mem_take (i := keep) member)) false
  have filled := arguments_congr
    (fun p member => params p (List.mem_of_mem_drop (i := keep) member))
  simp only [Method.forwarding, kept, filled, canonical_congr agree]

theorem lower_congr (owner : String) :
    m.lower ⟨r, native⟩ owner = m.lower ⟨r', native⟩ owner := by
  have params := agree_param agree
  have misfit : m.misfit? r = m.misfit? r' :=
    misfit_congr fun p member => params p (List.mem_of_mem_drop member)
  have overloads : m.overloads ⟨r, native⟩ = m.overloads ⟨r', native⟩ := by
    simp only [Method.overloads, canonical_congr agree, forwarding_congr agree]
  have diagnostics : m.diagnostics r owner = m.diagnostics r' owner := by
    have returned : m.returnDiagnostics r owner = m.returnDiagnostics r' owner := by
      unfold Method.returnDiagnostics
      cases declared : m.returnType with
      | none => rfl
      | some t => exact unsupported_congr (agree_return agree t declared) _ _ _ _ _
    simp only [Method.diagnostics, paramDiagnostics_congr params, returned]
  simp only [Method.lower, misfit, overloads, diagnostics]

end Congruence

theorem fieldLower_congr {r r' : Registry} {f : Field} (agree : Agree r r' f.type) :
    f.lower r = f.lower r' := by
  simp only [Field.lower, Field.slot, ofDeclared_congr agree]

theorem fieldDiagnostics_congr {r r' : Registry} {f : Field} (agree : Agree r r' f.type)
    (owner : String) : f.diagnostics r owner = f.diagnostics r' owner := by
  simp only [Field.diagnostics, unsupported_congr agree, Field.initializerDiagnostics, Field.slot,
    ofDeclared_congr agree]

/-- A type is lowered alike if the slots of all types that its members declare are the same. -/
theorem type_congr {r r' : Registry} {t : TypeDecl}
    (agree : ∀ type ∈ memberTypes t, Agree r r' type) (native : Bool) :
    t.lower ⟨r, native⟩ = t.lower ⟨r', native⟩ := by
  have field : ∀ f ∈ t.fields, Agree r r' f.type := fun f member =>
    agree f.type (List.mem_append_left _ (List.mem_map_of_mem member))
  have method : ∀ m ∈ t.methods, ∀ type ∈ methodTypes m, Agree r r' type :=
    fun m member type declared =>
      agree type (List.mem_append_right _ (List.mem_flatMap.mpr ⟨m, member, declared⟩))
  have fields : t.fields.map (Field.lower r) = t.fields.map (Field.lower r') :=
    List.map_congr_left fun f member => fieldLower_congr (field f member)
  have reports : t.fields.flatMap (Field.diagnostics r t.name) =
      t.fields.flatMap (Field.diagnostics r' t.name) :=
    List.flatMap_congr fun f member => fieldDiagnostics_congr (field f member) t.name
  have attempts : t.attempts ⟨r, native⟩ = t.attempts ⟨r', native⟩ := by
    refine List.map_congr_left fun ⟨m, index⟩ member => ?_
    simp only [lower_congr (method m (List.fst_mem_of_mem_zipIdx member)) t.name]
  have collisions : t.collisions ⟨r, native⟩ = t.collisions ⟨r', native⟩ := by
    simp only [TypeDecl.collisions, attempts]
  have emitted : t.emitted ⟨r, native⟩ = t.emitted ⟨r', native⟩ := by
    simp only [TypeDecl.emitted, attempts, collisions]
  have diagnostics : t.diagnostics ⟨r, native⟩ = t.diagnostics ⟨r', native⟩ := by
    simp only [TypeDecl.diagnostics, reports, attempts, collisions]
  have stats : t.stats ⟨r, native⟩ = t.stats ⟨r', native⟩ := by
    simp only [TypeDecl.stats, attempts, collisions, emitted, diagnostics]
  simp only [TypeDecl.lower, fields, emitted, diagnostics, stats]

theorem program_congr {r r' : Registry} {p : Program}
    (agree : ∀ t ∈ p.types, ∀ type ∈ memberTypes t, Agree r r' type) (native : Bool) :
    p.lower ⟨r, native⟩ = p.lower ⟨r', native⟩ := by
  have completed : p.completed ⟨r, native⟩ = p.completed ⟨r', native⟩ := by
    refine List.map_congr_left fun ⟨t, order⟩ member => ?_
    simp only [type_congr (agree t (List.fst_mem_of_mem_zipIdx member)) native]
  simp only [Program.lower, completed]

theorem run_congr {c d : Config} {p : Program}
    (native : c.lowering.nativeDefaults = d.lowering.nativeDefaults)
    (names : ∀ name ∈ userNames p, name ∈ c.valueTypes ↔ name ∈ d.valueTypes) :
    p.run c = p.run d := by
  have agree : ∀ t ∈ p.types, ∀ type ∈ memberTypes t, Agree c.registry d.registry type := by
    intro t member type declared
    refine agree_ofNames fun name used => names name ?_
    exact List.mem_filterMap.mpr ⟨type, List.mem_flatMap.mpr ⟨t, member, declared⟩, used⟩
  simp only [Program.run, Config.setting, native, program_congr agree]

/-- The runs of a configuration end, and all of them with the result of lowering in order. -/
theorem outcome_iff {c : Config} {processors : Nat} {p : Program} {result : TargetProgram} :
    Outcome c processors p result ↔ result = p.run c := by
  constructor
  · rintro ⟨events, pool, ran, joined, order, perm, rfl⟩
    exact collect_joined ran joined perm
  · rintro rfl
    obtain ⟨events, pool, ran, joined⟩ := run_completes c.setting
      (Pool.start p (c.workers?.elim processors UInt64.toNat))
    exact ⟨events, pool, ran, joined, _, List.Perm.refl _,
      (collect_joined ran joined (List.Perm.refl _)).symm⟩

/-- Configurations that keep native defaults alike, and list the same of the names that a program
uses, give it the same outcome. Nothing else in them counts. -/
theorem outcome_by_used_names (c d : Config) (p : Program)
    (native : c.lowering.nativeDefaults = d.lowering.nativeDefaults)
    (names : ∀ name ∈ userNames p, name ∈ c.valueTypes ↔ name ∈ d.valueTypes) :
    p.run c = p.run d ∧
      ∀ processors result, Outcome c processors p result ↔ result = p.run d := by
  have same := run_congr native names
  refine ⟨same, fun processors result => ?_⟩
  rw [outcome_iff, same]

/-- A nullable user type, a primitive and an unknown type. -/
def palette : Program :=
  { types := [
      { name := "Palette"
        fields := [{ name := "first", type := .value "Color", nullable := true }]
        methods := [
          { name := "mix"
            params := [
              { name := "n", type := .value "Int", default := some (.int 2) }]
            returnType := some { type := .value "Vec3" } }] }] }

def terseConfig : Config := { valueTypes := ["Color"] }

def wordyConfig : Config :=
  { lowering := { style := .generic, placeholder := "Unknown", threads := 8 }
    valueTypes := ["int", "Point", "Color", "Color"] }

theorem palette_outcome :
    userNames palette = ["Color", "Vec3"] ∧ palette.run terseConfig = palette.run wordyConfig ∧
      Outcome terseConfig 4 palette (palette.run wordyConfig) := by
  obtain ⟨same, outcomes⟩ := outcome_by_used_names terseConfig wordyConfig palette rfl
    (by decide)
  exact ⟨by decide, same, (outcomes 4 _).mpr rfl⟩

end Overloads.Proofs.Dependence
