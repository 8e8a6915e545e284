import Overloads.Proofs.Balance
import Overloads.Proofs.MethodTexts
import Mathlib.Data.List.FinRange
import Mathlib.Logic.Equiv.Fin.Basic

/-! The order in which the methods of a type are declared does not matter. In any other order the
same methods are emitted, with the same overloads and the same text, and all counters stay. -/

namespace Overloads.Proofs.MethodOrder
open Balance Emission MethodTexts Renumbering ReportedProblems SignatureGroups

variable {s : Setting} {t : TypeDecl} {source : Equiv.Perm (Fin t.methods.length)}

/-- The type with its methods in another order. The method at a position stood at its source. -/
def reordered (t : TypeDecl) (source : Equiv.Perm (Fin t.methods.length)) : TypeDecl :=
  { t with methods := List.ofFn fun i => t.methods[source i] }

/-- Where a declaration goes; there is nothing behind the last one. -/
def placeIn (source : Equiv.Perm (Fin t.methods.length)) : Equiv.Perm Nat :=
  Equiv.Perm.extendDomain source.symm Fin.equivSubtype

theorem reordered_length (source : Equiv.Perm (Fin t.methods.length)) :
    (reordered t source).methods.length = t.methods.length := List.length_ofFn

theorem reordered_perm (source : Equiv.Perm (Fin t.methods.length)) :
    (reordered t source).methods.Perm t.methods := by
  have known := Equiv.Perm.ofFn_comp_perm source fun i => t.methods[i]
  simpa only [reordered, Function.comp_def, Fin.getElem_fin, List.ofFn_getElem] using known

theorem placeIn_inside (source : Equiv.Perm (Fin t.methods.length)) (i : Fin t.methods.length) :
    placeIn source i = source.symm i :=
  Equiv.Perm.extendDomain_apply_image source.symm Fin.equivSubtype i

theorem placeIn_outside {i : Nat} (outside : t.methods.length ≤ i) : placeIn source i = i :=
  Equiv.Perm.extendDomain_apply_not_subtype _ _ (Nat.not_lt.mpr outside)

@[simp] theorem placeIn_source (source : Equiv.Perm (Fin t.methods.length))
    (i : Fin t.methods.length) : placeIn source (source i) = i := by
  rw [placeIn_inside, Equiv.symm_apply_apply]

theorem reordered_placed (t : TypeDecl) (source : Equiv.Perm (Fin t.methods.length)) :
    Placed t (reordered t source) (placeIn source) := by
  refine ⟨rfl, (placeIn source).injective, fun i => ?_⟩
  rcases Nat.lt_or_ge i t.methods.length with inside | outside
  · have place : placeIn source i = source.symm ⟨i, inside⟩ := placeIn_inside source ⟨i, inside⟩
    rw [place, reordered, List.getElem?_ofFn, dif_pos (source.symm ⟨i, inside⟩).isLt, Fin.eta,
      List.getElem?_eq_getElem inside]
    simp only [Equiv.apply_symm_apply, Fin.getElem_fin]
  · rw [placeIn_outside outside, List.getElem?_eq_none outside, List.getElem?_eq_none]
    rwa [reordered_length]

/-- Nothing in the reordered type is new. -/
theorem reordered_known (i other : Nat)
    (_ : Clash s (reordered t source) (placeIn source i) other) : ∃ j, other = placeIn source j :=
  ⟨(placeIn source).symm other, ((placeIn source).apply_symm_apply other).symm⟩

theorem emittedAt_reordered (s : Setting) (t : TypeDecl)
    (source : Equiv.Perm (Fin t.methods.length)) (i : Nat) :
    emittedAt s (reordered t source) (placeIn source i) =
      (emittedAt s t i).map (moved (placeIn source i)) :=
  (reordered_placed t source).emittedAt_eq (reordered_known i)

/-- The rival test gives the same answer for a declaration at its new place. -/
theorem rivalled_reordered (source : Equiv.Perm (Fin t.methods.length)) (i : Nat)
    (m : TargetMethod) :
    rivalled s (reordered t source) (placeIn source i) (moved (placeIn source i) m) =
      rivalled s t i m := by
  rw [Bool.eq_iff_iff, rivalled_iff, rivalled_iff, moved_canonical?]
  refine exists_congr fun canonical => and_congr_right fun _ => ?_
  constructor
  · rintro ⟨place, other, emitted, different, competing⟩
    obtain ⟨j, rfl⟩ := (placeIn source).surjective place
    rw [emittedAt_reordered, Option.map_eq_some_iff] at emitted
    obtain ⟨old, emitted, rfl⟩ := emitted
    exact ⟨j, old, emitted, fun same => different (congrArg _ same), competing⟩
  · rintro ⟨j, other, emitted, different, competing⟩
    refine ⟨placeIn source j, moved (placeIn source j) other, ?_, ?_, competing⟩
    · rw [emittedAt_reordered, emitted, Option.map_some]
    · exact (placeIn source).injective.ne different

def movedPrint (index : Nat) (p : PrintedMethod) : PrintedMethod :=
  { p with method := moved index p.method }

theorem printedAt_reordered (o : RenderOptions) (s : Setting) (t : TypeDecl)
    (source : Equiv.Perm (Fin t.methods.length)) (i : Fin t.methods.length) :
    printedAt o s (reordered t source) i = (printedAt o s t (source i)).map (movedPrint i) := by
  have emitted := emittedAt_reordered s t source (source i)
  have rival := rivalled_reordered (s := s) source (source i)
  rw [placeIn_source] at emitted rival
  rw [printedAt, printedAt, emitted, Option.map_map, Option.map_map]
  refine Option.map_congr fun m _ => ?_
  simp only [Function.comp_apply, rival]
  rfl

theorem filterMap_finRange (f : Nat → Option α) (count : Nat) :
    (List.range count).filterMap f = (List.finRange count).filterMap fun i : Fin count => f i := by
  rw [← List.map_coe_finRange_eq_range, List.filterMap_map]
  rfl

/-- The emitted overload lists are the same in another order. -/
theorem overloads_reordered (s : Setting) (t : TypeDecl)
    (source : Equiv.Perm (Fin t.methods.length)) :
    (((reordered t source).emitted s).map TargetMethod.overloads).Perm
      ((t.emitted s).map TargetMethod.overloads) := by
  let given : Fin t.methods.length → Option (List Overload) :=
    fun i => (emittedAt s t i).map TargetMethod.overloads
  have before : (t.emitted s).map TargetMethod.overloads =
      (List.finRange t.methods.length).filterMap given := by
    rw [emitted_eq, filterMap_finRange, List.map_filterMap]
  have after : ((reordered t source).emitted s).map TargetMethod.overloads =
      ((List.finRange t.methods.length).map source).filterMap given := by
    rw [emitted_eq, reordered_length, filterMap_finRange, List.map_filterMap, List.filterMap_map]
    refine List.filterMap_congr fun i _ => ?_
    have emitted := emittedAt_reordered s t source (source i)
    rw [placeIn_source] at emitted
    rw [emitted, Option.map_map]
    rfl
  rw [before, after]
  exact source.map_finRange_perm.filterMap given

/-- As many signatures collide. -/
theorem collisions_reordered (s : Setting) (t : TypeDecl)
    (source : Equiv.Perm (Fin t.methods.length)) :
    ((reordered t source).collisions s).diagnostics.length =
      (t.collisions s).diagnostics.length := by
  have placed := reordered_placed t source
  have same : ∀ signature,
      signature ∈ (colliding (((reordered t source).attempts s).flatMap entriesOf)).map
          SignatureGroup.signature ↔
        signature ∈ (colliding ((t.attempts s).flatMap entriesOf)).map
          SignatureGroup.signature := by
    intro signature
    rw [mem_collisions_iff, mem_collisions_iff]
    constructor
    · rintro ⟨i, j, different, first, second⟩
      obtain ⟨i, rfl⟩ := (placeIn source).surjective i
      obtain ⟨j, rfl⟩ := (placeIn source).surjective j
      exact ⟨i, j, fun same => different (congrArg _ same), placed.bears_iff.mp first,
        placed.bears_iff.mp second⟩
    · rintro ⟨i, j, different, first, second⟩
      exact ⟨_, _, (placeIn source).injective.ne different, placed.bears_iff.mpr first,
        placed.bears_iff.mpr second⟩
  have perm := (List.perm_ext_iff_of_nodup (colliding_signatures_nodup _)
    (colliding_signatures_nodup _)).mpr same
  simpa only [collision_diagnostics, List.length_map] using perm.length_eq

theorem unsupported_reordered (s : Setting) (t : TypeDecl)
    (source : Equiv.Perm (Fin t.methods.length)) :
    count .unsupportedType ((reordered t source).diagnostics s) =
      count .unsupportedType (t.diagnostics s) := by
  have methods := reordered_perm source
  have before := reported_unknown s t
  have after := reported_unknown s (reordered t source)
  have all : unknownSlotsOf s.registry (reordered t source) = unknownSlotsOf s.registry t := by
    simp only [unknownSlotsOf, (methods.map (unknownSlots s.registry)).sum_nat]
    rfl
  have hidden := ((methods.filter (fails s t)).map (unknownSlots s.registry)).sum_nat
  have failing : fails s (reordered t source) = fails s t := rfl
  rw [failing, all, hidden] at after
  simp only [TypeDecl.lower] at before after
  omega

theorem stats_reordered (s : Setting) (t : TypeDecl)
    (source : Equiv.Perm (Fin t.methods.length)) :
    (reordered t source).stats s = t.stats s := by
  have overloads := (overloads_reordered s t source).flatten
  rw [← List.flatMap_def, ← List.flatMap_def] at overloads
  -- As many methods are emitted out of as many declarations, so as many are skipped.
  have emitted := (overloads_reordered s t source).length_eq
  rw [List.length_map, List.length_map] at emitted
  have before := emitted_add_skipped s t
  have after := emitted_add_skipped s (reordered t source)
  have length := reordered_length source
  have skipped : ((reordered t source).attempts s).countP
        (fun a => (a.emitted? ((reordered t source).collisions s)).isNone) =
      (t.attempts s).countP fun a => (a.emitted? (t.collisions s)).isNone := by
    omega
  have unsupported : ((reordered t source).diagnostics s).countP (·.kind == .unsupportedType) =
      (t.diagnostics s).countP (·.kind == .unsupportedType) := unsupported_reordered s t source
  simp only [TypeDecl.stats, length, overloads.length_eq, overloads.countP_eq, skipped,
    collisions_reordered, unsupported]
  rfl

/-- The methods of a lowered type with their texts, of which the text of the type is made. -/
structure Consists (o : RenderOptions) (t : TargetType) (methods : List PrintedMethod) : Prop where
  printed : printedMethods o t = methods
  text : o.typeText t = "class " ++ t.name ++ " \x7b\n" ++
    "\n".intercalate (t.fields.map (fun f => memberText o [o.field f]) ++
      methods.flatMap PrintedMethod.texts) ++ "\x7d\n"

theorem Consists.of_printed {o : RenderOptions} {t : TargetType} {methods : List PrintedMethod}
    (printed : printedMethods o t = methods) : Consists o t methods := by
  subst methods
  exact ⟨rfl, typeText_eq o t⟩

/-- A type whose methods are declared in another order has the same fields and counters, and the
same methods are emitted, with the same overloads and texts, but in the new order and with their new
indices. -/
theorem order_immaterial (s : Setting) (o : RenderOptions) (t : TypeDecl)
    (source : Equiv.Perm (Fin t.methods.length)) :
    ((reordered t source).lower s).decl.fields = (t.lower s).decl.fields ∧
    ((reordered t source).lower s).stats = (t.lower s).stats ∧
    ∃ given : Fin t.methods.length → Option PrintedMethod,
      (∀ i m, (given i).map PrintedMethod.method = some m ↔
        Survives s t i ∧ EmittedAs s t i m) ∧
      Consists o (t.lower s).decl ((List.finRange _).filterMap given) ∧
      Consists o ((reordered t source).lower s).decl
        ((List.finRange _).filterMap fun i => (given (source i)).map (movedPrint i)) := by
  refine ⟨rfl, stats_reordered s t source, fun i => printedAt o s t i, ?_, ?_, ?_⟩
  · intro i m
    have methods : (printedAt o s t i).map PrintedMethod.method = emittedAt s t i := by
      rw [printedAt, Option.map_map]
      exact Option.map_id'
    rw [← emittedAt_eq_some_iff, ← methods]
  · have printed := printedMethods_eq o s t
    rw [filterMap_finRange] at printed
    exact .of_printed printed
  · have printed := printedMethods_eq o s (reordered t source)
    rw [reordered_length, filterMap_finRange,
      List.filterMap_congr fun i _ => printedAt_reordered o s t source i] at printed
    exact .of_printed printed

end Overloads.Proofs.MethodOrder
