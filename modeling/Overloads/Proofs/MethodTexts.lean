import Overloads.Printing.Source
import Overloads.Proofs.Renumbering
import Mathlib.Data.List.Nodup

/-! The text of a lowered type, method by method. Whether the literals of a method's calls are cast
depends on the other declarations that are emitted, and not on where they stand. -/

namespace Overloads.Proofs.MethodTexts
open Emission Renumbering

/-- The text of one member inside its type. -/
def memberText (o : RenderOptions) (lines : List Line) : String :=
  Line.renderAll o.indent (lines.map Line.nest)

/-- A method of a lowered type, with the text of each of its overloads. -/
structure PrintedMethod where
  method : TargetMethod
  texts : List String

def overloadTexts (o : RenderOptions) (owner : String) (rivalled : Bool) (m : TargetMethod) :
    List String :=
  m.overloads.map fun v =>
    memberText o (o.overload owner (if rivalled then m.canonical? else none) v)

def printedMethods (o : RenderOptions) (t : TargetType) : List PrintedMethod :=
  t.methods.zipIdx.map fun (m, position) => ⟨m, overloadTexts o t.name (t.hasRival position) m⟩

theorem renderAll_append (indent : String) (first second : List Line) :
    Line.renderAll indent (first ++ second) =
      Line.renderAll indent first ++ Line.renderAll indent second := by
  rw [Line.renderAll, List.map_append, String.join_append]
  rfl

theorem renderAll_text (indent content : String) :
    Line.renderAll indent [.text 0 content] = content ++ "\n" := by
  simp [Line.renderAll, Line.render, String.join_cons]

theorem renderAll_block (indent head : String) (inner : List Line) :
    Line.renderAll indent (Line.block head inner) =
      head ++ " \x7b\n" ++ Line.renderAll indent (inner.map Line.nest) ++ "\x7d\n" := by
  rw [Line.block, renderAll_append, ← List.singleton_append, renderAll_append, renderAll_text,
    renderAll_text]
  simp only [String.append_assoc]
  rfl

/-- Members stand one after the other, with an empty line between two of them. -/
theorem renderAll_members (o : RenderOptions) (members : List (List Line)) :
    memberText o ([Line.blank].intercalate members) =
      "\n".intercalate (members.map (memberText o)) := by
  induction members with
  | nil => rfl
  | cons lines members ih =>
    cases members with
    | nil => simp
    | cons next members =>
      have blank : memberText o [Line.blank] = "\n" := rfl
      rw [List.intercalate_cons_cons, List.map_cons, List.map_cons, String.intercalate_cons_cons,
        ← List.map_cons, ← ih]
      simp only [memberText, List.map_append, renderAll_append] at blank ⊢
      rw [blank]

/-- The text of a type is that of its fields and of the overloads of its methods. -/
theorem typeText_eq (o : RenderOptions) (t : TargetType) :
    o.typeText t = "class " ++ t.name ++ " \x7b\n" ++
      "\n".intercalate (t.fields.map (fun f => memberText o [o.field f]) ++
        (printedMethods o t).flatMap PrintedMethod.texts) ++ "\x7d\n" := by
  have members : (o.members t).map (memberText o) =
      t.fields.map (fun f => memberText o [o.field f]) ++
        (printedMethods o t).flatMap PrintedMethod.texts := by
    simp only [RenderOptions.members, printedMethods, List.map_append, List.map_map,
      List.map_flatMap, List.flatMap_map, overloadTexts]
    rfl
  rw [← members, ← renderAll_members, RenderOptions.typeText, RenderOptions.type, renderAll_block]
  rfl

variable {s : Setting} {t : TypeDecl}

/-- What is emitted, with the position of its declaration. -/
def declared (s : Setting) (t : TypeDecl) : List (Nat × TargetMethod) :=
  (List.range t.methods.length).filterMap fun i => (emittedAt s t i).map (i, ·)

theorem lower_methods (s : Setting) (t : TypeDecl) :
    (t.lower s).decl.methods = (declared s t).map Prod.snd := by
  simp only [TypeDecl.lower, declared, emitted_eq, List.map_filterMap, Option.map_map,
    Function.comp_def, Option.map_id']

theorem mem_declared {i : Nat} {m : TargetMethod} :
    (i, m) ∈ declared s t ↔ emittedAt s t i = some m := by
  simp only [declared, List.mem_filterMap, List.mem_range, Option.map_eq_some_iff, Prod.mk.injEq]
  constructor
  · rintro ⟨_, _, _, found, rfl, rfl⟩
    exact found
  · intro found
    obtain ⟨_, _, ⟨there, _⟩, _⟩ := (emittedAt_eq_some_iff.mp found).2
    exact ⟨i, (List.getElem?_eq_some_iff.mp there).1, m, found, rfl, rfl⟩

theorem declared_nodup (s : Setting) (t : TypeDecl) : ((declared s t).map Prod.fst).Nodup := by
  rw [declared, List.map_filterMap]
  refine List.nodup_range.filterMap fun i j index first second => ?_
  simp only [Option.mem_def, Option.map_eq_some_iff] at first second
  obtain ⟨_, ⟨_, _, rfl⟩, rfl⟩ := first
  obtain ⟨_, ⟨_, _, rfl⟩, same⟩ := second
  exact same.symm

/-- Whether another declaration has an overload that competes with the canonical one of this
method. -/
def rivalled (s : Setting) (t : TypeDecl) (i : Nat) (m : TargetMethod) : Bool :=
  m.canonical?.any fun canonical =>
    (declared s t).any fun (j, other) =>
      j != i && other.overloads.any (TargetType.competes · canonical)

theorem rivalled_iff {i : Nat} {m : TargetMethod} :
    rivalled s t i m = true ↔ ∃ canonical, m.canonical? = some canonical ∧
      ∃ j other, emittedAt s t j = some other ∧ j ≠ i ∧
        ∃ v ∈ other.overloads, TargetType.competes v canonical = true := by
  simp only [rivalled, Option.any_eq_true, List.any_eq_true, Prod.exists, mem_declared,
    Bool.and_eq_true, bne_iff_ne]

/-- The rival test of the printer, which goes by positions among what is emitted, in terms of
declarations. -/
theorem hasRival_eq {position i : Nat} {m : TargetMethod}
    (found : (declared s t)[position]? = some (i, m)) :
    (t.lower s).decl.hasRival position = rivalled s t i m := by
  have present : ((declared s t).map Prod.snd)[position]? = some m := by
    rw [List.getElem?_map, found, Option.map_some]
  rw [Bool.eq_iff_iff, rivalled_iff, TargetType.hasRival, lower_methods, present, Option.bind_some]
  cases canonical : m.canonical? with
  | none => simp
  | some canonical =>
    simp only [List.any_eq_true, List.mem_eraseIdx_iff_getElem?, Option.some.injEq, exists_eq_left',
      List.getElem?_map, Option.map_eq_some_iff, Prod.exists]
    constructor
    · rintro ⟨_, ⟨place, elsewhere, j, other, there, rfl⟩, competing⟩
      refine ⟨j, other, mem_declared.mp (List.mem_of_getElem? there), ?_, competing⟩
      -- A declaration is emitted once, so one at another place is another declaration.
      rintro rfl
      have inside := (List.getElem?_eq_some_iff.mp there).1
      refine elsewhere ((List.getElem?_inj (by simpa using inside) (declared_nodup s t)).mp ?_)
      rw [List.getElem?_map, List.getElem?_map, there, found]
      rfl
    · rintro ⟨j, other, emitted, different, competing⟩
      obtain ⟨place, there⟩ := List.mem_iff_getElem?.mp (mem_declared.mpr emitted)
      refine ⟨other, ⟨place, ?_, j, other, there, rfl⟩, competing⟩
      rintro rfl
      rw [there] at found
      exact different (congrArg Prod.fst (Option.some.inj found))

/-- What the text of a type has for the declaration at the position, if it is emitted. -/
def printedAt (o : RenderOptions) (s : Setting) (t : TypeDecl) (i : Nat) : Option PrintedMethod :=
  (emittedAt s t i).map fun m => ⟨m, overloadTexts o t.name (rivalled s t i m) m⟩

/-- The printed methods, declaration by declaration. -/
theorem printedMethods_eq (o : RenderOptions) (s : Setting) (t : TypeDecl) :
    printedMethods o (t.lower s).decl =
      (List.range t.methods.length).filterMap (printedAt o s t) := by
  have pairs : (List.range t.methods.length).filterMap (printedAt o s t) =
      (declared s t).map fun (i, m) => ⟨m, overloadTexts o t.name (rivalled s t i m) m⟩ := by
    simp only [declared, List.map_filterMap, Option.map_map]
    rfl
  rw [pairs, printedMethods, lower_methods]
  refine List.ext_getElem? fun position => ?_
  simp only [List.getElem?_map, List.getElem?_zipIdx]
  cases found : (declared s t)[position]? with
  | none => rfl
  | some pair =>
    simp only [Option.map_some, Nat.zero_add, hasRival_eq found]
    rfl

end Overloads.Proofs.MethodTexts
