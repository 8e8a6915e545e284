import Overloads.Config.Basic
import Overloads.Proofs.Emission
import Overloads.Proofs.SlotTexts

/-! Which signatures the text of a type declares. Methods are told apart by their printed names and
types as they are by their signatures. Constructors are printed with the name of their type, and
collisions are found by the names they were declared with: constructors of different names and the
same types are the only overloads that are declared alike. -/

namespace Overloads.Proofs.PrintedSignatures
open Emission OverloadSets SlotTexts

/-- What the head of an overload declares. -/
structure Heading where
  kind : MethodKind
  name : String
  types : List String
deriving DecidableEq

def heading (o : RenderOptions) (owner : String) (v : Overload) : Heading :=
  { kind := v.kind
    name :=
      match v.kind with
      | .method => v.name
      | .constructor => owner
    types := v.slots.map o.slot }

/-- The head as it is printed: each type stands in front of the label of its parameter. -/
def Heading.text (h : Heading) (before : String) (labels : List String) : String :=
  before ++ h.name ++ "(" ++
    ", ".intercalate (List.zipWith (fun type label => type ++ " " ++ label) h.types labels) ++ ")"

/-- What stands before the name. -/
def beforeName (o : RenderOptions) (v : Overload) : String :=
  v.modifiers.render ++
    match v.kind with
    | .method => (match v.returnType with | some slot => o.slot slot | none => "void") ++ " "
    | .constructor => ""

/-- What stands behind the type of a parameter. -/
def afterType (p : TargetParam) : String :=
  p.name ++ (match p.nativeDefault with | some text => " = " ++ text | none => "")

/-- The lines of a member begin with the head of the overload. -/
def Shows (o : RenderOptions) (owner : String) (v : Overload) (lines : List Line) : Prop :=
  ∃ ending rest, lines =
    .text 0 ((heading o owner v).text (beforeName o v) (v.params.map afterType) ++ ending) :: rest

/-- No name of a parameter type uses the marks of printed types, and no reference type is spelled
like a value type. -/
structure Legible (s : Setting) (o : RenderOptions) (t : TypeDecl) : Prop where
  plain : ∀ m ∈ t.methods, ∀ p ∈ m.params, Plain p.type.name
  apart : ∀ m ∈ t.methods, ∀ p ∈ m.params, ∀ n ∈ t.methods, ∀ q ∈ n.params,
    mimics o.style (p.slot s.registry) (q.slot s.registry) = false

theorem header_eq (o : RenderOptions) (owner : String) (v : Overload) :
    o.header owner v =
      (heading o owner v).text (beforeName o v) (v.params.map afterType) := by
  have params : List.zipWith (fun type label => type ++ " " ++ label)
      (heading o owner v).types (v.params.map afterType) = v.params.map o.param := by
    simp only [heading, Overload.slots, List.map_map, List.zipWith_map, List.zipWith_self]
    refine List.map_congr_left fun p _ => ?_
    cases native : p.nativeDefault <;>
      simp only [Function.comp_apply, RenderOptions.param, afterType, native, String.append_assoc]
  rw [Heading.text, params]
  cases kind : v.kind with
  | method =>
    cases returned : v.returnType <;>
      simp only [RenderOptions.header, beforeName, heading, kind, returned, String.append_assoc]
  | constructor =>
    simp only [RenderOptions.header, beforeName, heading, kind, String.append_empty]

theorem overload_shows (o : RenderOptions) (owner : String) (pinned : Option Overload)
    (v : Overload) : Shows o owner v (o.overload owner pinned v) := by
  have block : ∀ ending inner,
      Shows o owner v (Line.block (o.header owner v ++ ending) inner) := by
    intro ending inner
    refine ⟨ending ++ " \x7b", inner.map Line.nest ++ [Line.text 0 "\x7d"], ?_⟩
    rw [← header_eq, ← String.append_assoc]
    rfl
  have plain := block ""
  simp only [String.append_empty] at plain
  unfold RenderOptions.overload
  split
  next call _ _ =>
    simpa only [String.append_assoc] using
      block (" : " ++ call.target ++ "(" ++ o.args call pinned ++ ")") [.blank]
  all_goals exact plain _

/-- The printed members are the fields and then all overloads in their order. -/
theorem members_show (o : RenderOptions) (t : TargetType) :
    ∃ shown, o.members t = t.fields.map (fun f => [o.field f]) ++ shown ∧
      List.Forall₂ (Shows o t.name) t.overloads shown := by
  have each : ∀ methods : List (TargetMethod × Nat),
      List.Forall₂ (Shows o t.name) ((methods.map Prod.fst).flatMap TargetMethod.overloads)
        (methods.flatMap fun entry => entry.1.overloads.map
          (o.overload t.name (if t.hasRival entry.2 then entry.1.canonical? else none))) := by
    intro methods
    induction methods with
    | nil => exact .nil
    | cons first methods ih =>
      rw [List.map_cons, List.flatMap_cons, List.flatMap_cons]
      refine List.rel_append (List.forall₂_map_right_iff.mpr (List.forall₂_same.mpr ?_)) ih
      exact fun v _ => overload_shows o t.name _ v
  have all := each t.methods.zipIdx
  rw [List.zipIdx_map_fst] at all
  exact ⟨_, rfl, all⟩

private theorem map_inj_on {f : α → β} {first second : List α}
    (inj : ∀ a ∈ first, ∀ b ∈ second, f a = f b → a = b) (same : first.map f = second.map f) :
    first = second := by
  induction first generalizing second with
  | nil => exact (List.map_eq_nil_iff.mp same.symm).symm
  | cons a first ih =>
    cases second with
    | nil => cases same
    | cons b second =>
      obtain ⟨head, tail⟩ := List.cons.inj same
      rw [inj a List.mem_cons_self b List.mem_cons_self head,
        ih (fun x inFirst y inSecond =>
          inj x (List.mem_cons_of_mem a inFirst) y (List.mem_cons_of_mem b inSecond)) tail]

/-- Slots of a legible type print alike only if they are the same. -/
theorem slots_inj {s : Setting} {o : RenderOptions} {t : TypeDecl} (legible : Legible s o t)
    {v w : Overload} (left : v ∈ (t.lower s).decl.overloads)
    (right : w ∈ (t.lower s).decl.overloads)
    (same : v.slots.map o.slot = w.slots.map o.slot) : v.slots = w.slots := by
  have declared : ∀ u ∈ (t.lower s).decl.overloads, ∀ slot ∈ u.slots,
      ∃ m ∈ t.methods, ∃ p ∈ m.params, slot = p.slot s.registry := by
    intro u member slot inside
    obtain ⟨param, present, rfl⟩ := List.mem_map.mp inside
    obtain ⟨index, m, _, found, produced⟩ := mem_lowered.mp member
    obtain ⟨p, original, same⟩ := slot_of_mem produced present
    exact ⟨m, List.mem_of_getElem? found, p, original, same⟩
  refine map_inj_on (fun a inLeft b inRight text => ?_) same
  obtain ⟨m, method, p, param, rfl⟩ := declared v left a inLeft
  obtain ⟨n, other, q, otherParam, rfl⟩ := declared w right b inRight
  exact render_inj (known_ofDeclared _ _ _) (known_ofDeclared _ _ _)
    (plain_ofDeclared _ (legible.plain m method p param) _)
    (plain_ofDeclared _ (legible.plain n other q otherParam) _)
    (legible.apart m method p param n other q otherParam)
    (legible.apart n other q otherParam m method p param) text

/-- Two constructors that differ in the names they were declared with and in nothing that is
printed. -/
structure Namesakes (v w : Overload) : Prop where
  left : v.kind = .constructor
  right : w.kind = .constructor
  names : v.name ≠ w.name
  slots : v.slots = w.slots

theorem Namesakes.heading_eq {v w : Overload} (namesakes : Namesakes v w) (o : RenderOptions)
    (owner : String) : heading o owner v = heading o owner w := by
  simp only [heading, namesakes.left, namesakes.right, namesakes.slots]

theorem heading_eq_iff {s : Setting} {o : RenderOptions} {t : TypeDecl} (legible : Legible s o t)
    {v w : Overload} (left : v ∈ (t.lower s).decl.overloads)
    (right : w ∈ (t.lower s).decl.overloads) (different : v.signature ≠ w.signature)
    (owner : String) : heading o owner v = heading o owner w ↔ Namesakes v w := by
  constructor
  · intro same
    obtain ⟨kind, name, types⟩ := Heading.mk.inj same
    have slots := slots_inj legible left right types
    have names : v.name ≠ w.name := fun equal =>
      different ((signature_eq_iff v w).mpr ⟨kind, equal, slots⟩)
    cases first : v.kind with
    | method =>
      simp only [← kind, first] at name
      exact absurd name names
    | constructor => exact ⟨first, kind.symm.trans first, names, slots⟩
  · exact fun namesakes => namesakes.heading_eq o owner

theorem headings_pairwise {s : Setting} {o : RenderOptions} {t : TypeDecl}
    (legible : Legible s o t) (owner : String) :
    (t.lower s).decl.overloads.Pairwise fun v w =>
      heading o owner v = heading o owner w ↔ Namesakes v w := by
  have distinct := List.pairwise_map.mp (overloads_distinct s t)
  exact distinct.imp_of_mem fun left right different =>
    heading_eq_iff legible left right different owner

theorem headings_nodup_iff {s : Setting} {o : RenderOptions} {t : TypeDecl}
    (legible : Legible s o t) (owner : String) :
    ((t.lower s).decl.overloads.map (heading o owner)).Nodup ↔
      ∀ v ∈ (t.lower s).decl.overloads, ∀ w ∈ (t.lower s).decl.overloads, ¬ Namesakes v w := by
  have pairs := headings_pairwise legible owner
  constructor
  · intro nodup v left w right namesakes
    have same := List.inj_on_of_nodup_map nodup left right (namesakes.heading_eq o owner)
    exact namesakes.names (congrArg Overload.name same)
  · intro none
    refine List.pairwise_map.mpr (pairs.imp_of_mem ?_)
    intro v w left right alike same
    exact none v left w right (alike.mp same)

/-- The text of a type declares all overloads, and no two alike but for constructors with different
names of their own and the same types. Where all constructors have one name, nothing is declared
twice. -/
theorem declared_twice_iff (s : Setting) (o : RenderOptions) (t : TypeDecl)
    (legible : Legible s o t) :
    (∃ shown, o.members (t.lower s).decl =
        (t.lower s).decl.fields.map (fun f => [o.field f]) ++ shown ∧
      List.Forall₂ (Shows o t.name) (t.lower s).decl.overloads shown) ∧
    (t.lower s).decl.overloads.Pairwise (fun v w =>
      heading o t.name v = heading o t.name w ↔ Namesakes v w) ∧
    (((t.lower s).decl.overloads.map (heading o t.name)).Nodup ↔
      ∀ v ∈ (t.lower s).decl.overloads, ∀ w ∈ (t.lower s).decl.overloads, ¬ Namesakes v w) ∧
    ((∀ m ∈ t.methods, ∀ n ∈ t.methods, m.kind = .constructor → n.kind = .constructor →
        m.name = n.name) →
      ((t.lower s).decl.overloads.map (heading o t.name)).Nodup) := by
  have exactly := headings_nodup_iff legible t.name
  refine ⟨members_show o (t.lower s).decl, headings_pairwise legible t.name, exactly, ?_⟩
  intro one
  refine exactly.mpr fun v left w right namesakes => namesakes.names ?_
  obtain ⟨_, m, _, found, own⟩ := mem_lowered.mp left
  obtain ⟨_, n, _, other, others⟩ := mem_lowered.mp right
  obtain ⟨kind, name⟩ := origin_of_mem own
  obtain ⟨otherKind, otherName⟩ := origin_of_mem others
  rw [name, otherName]
  exact one m (List.mem_of_getElem? found) n (List.mem_of_getElem? other)
    (kind.symm.trans namesakes.left) (otherKind.symm.trans namesakes.right)

/-- Options under which wrapped and unresolved types look alike but for their names. -/
def lookalike : RenderOptions := ⟨.generic, "Nullable", "\t"⟩

/-- A wrapped and an unresolved type, a bare type and a reference, and a default. -/
def similar : TypeDecl :=
  { name := "T"
    methods := [
      { name := "f", params := [{ name := "x", type := .value "Int", nullable := true }] },
      { name := "f", params := [{ name := "x", type := .value "Vec3" }] },
      { name := "f", params := [{ name := "x", type := .reference "Vec3" }] },
      { name := "f"
        params := [{ name := "x", type := .value "Int", default := some (.int 4) }] },
      { name := "T", kind := .constructor
        params := [{ name := "x", type := .value "Int" }] }] }

theorem similar_declared_once :
    ((similar.lower ⟨.empty, true⟩).decl.overloads.map (heading lookalike "T")) =
        [⟨.method, "f", ["Nullable<int>"]⟩, ⟨.method, "f", ["Nullable<Vec3>"]⟩,
          ⟨.method, "f", ["Vec3"]⟩, ⟨.method, "f", ["int"]⟩, ⟨.method, "f", []⟩,
          ⟨.constructor, "T", ["int"]⟩] ∧
      ((similar.lower ⟨.empty, true⟩).decl.overloads.map (heading lookalike "T")).Nodup := by
  have legible : Legible ⟨.empty, true⟩ lookalike similar :=
    ⟨by decide, by decide⟩
  obtain ⟨_, _, _, once⟩ := declared_twice_iff ⟨.empty, true⟩ lookalike similar legible
  exact ⟨by decide, once (by decide)⟩

/-- Two constructors with names of their own. -/
def renamed : TypeDecl :=
  { name := "T"
    methods := [
      { name := "T", kind := .constructor
        params := [{ name := "x", type := .value "Int" }] },
      { name := "create", kind := .constructor
        params := [{ name := "y", type := .value "Int" }] }] }

theorem constructor_declared_twice :
    Legible ⟨.empty, true⟩ .standard renamed ∧
      (renamed.lower ⟨.empty, true⟩).decl.overloads.map (heading .standard "T") =
        [⟨.constructor, "T", ["int"]⟩, ⟨.constructor, "T", ["int"]⟩] ∧
      RenderOptions.standard.typeText (renamed.lower ⟨.empty, true⟩).decl =
        "class T \x7b\n\tT(int x) \x7b\n\n\t\x7d\n\n\tT(int y) \x7b\n\n\t\x7d\n\x7d\n" :=
  ⟨⟨by decide, by decide⟩, by decide, by decide⟩

end Overloads.Proofs.PrintedSignatures
