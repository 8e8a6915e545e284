import Overloads.Config.Basic
import Overloads.Proofs.LiteralTexts
import Overloads.Proofs.MethodTexts

/-! Types inside a namespace. They are printed as they are outside of it, with one more indent in
front of each line that has anything on it, as long as nothing that is printed brings a line feed of
its own. Literals never do. -/

namespace Overloads.Proofs.Nesting
open LiteralTexts MethodTexts

/-- A line with the indent in front of it; an empty one stays as it is. -/
def indentedLine (indent line : List Char) : List Char := if line = [] then [] else indent ++ line

/-- A text with the indent in front of every line that is not empty. -/
def indented (indent text : String) : String :=
  .ofList (['\n'].intercalate
    ((Text.splitLines text.toList).map (indentedLine indent.toList)))

def OneLine (s : String) : Prop := '\n' ∉ s.toList

instance (s : String) : Decidable (OneLine s) := inferInstanceAs (Decidable (¬ _))

def slotStrings (o : RenderOptions) : SlotType → List String
  | .value storage => [storage.valueType.name]
  | .reference name => [name]
  | .unresolved name => [o.placeholder, name]

def fieldStrings (o : RenderOptions) (f : TargetField) : List String :=
  slotStrings o f.slot ++ f.name :: f.initializer.toList

def paramStrings (o : RenderOptions) (p : TargetParam) : List String :=
  slotStrings o p.slot ++ p.name :: p.nativeDefault.toList

def argumentStrings : Argument → List String
  | .param name => [name]
  | .literal _ _ _ => []

def bodyStrings : OverloadBody → List String
  | .forward call | .source (.forward call) => call.target :: call.args.flatMap argumentStrings
  | .source (.block lines) => lines

/-- A constructor is printed without a name of its own and without a return type. -/
def headStrings (o : RenderOptions) (v : Overload) : List String :=
  match v.kind with
  | .constructor => []
  | .method => v.name :: v.returnType.toList.flatMap (slotStrings o)

def overloadStrings (o : RenderOptions) (v : Overload) : List String :=
  headStrings o v ++ v.params.flatMap (paramStrings o) ++ bodyStrings v.body

def typeStrings (o : RenderOptions) (t : TargetType) : List String :=
  t.name :: t.fields.flatMap (fieldStrings o) ++ t.overloads.flatMap (overloadStrings o)

/-- The strings that the text of a program is made of, but for the name of its namespace. -/
def printedStrings (o : RenderOptions) (p : TargetProgram) : List String :=
  o.indent :: p.types.flatMap (typeStrings o)

section Texts

theorem oneLine_append {first second : String} :
    OneLine (first ++ second) ↔ OneLine first ∧ OneLine second := by
  simp [OneLine, String.toList_append]

theorem oneLine_intercalate {separator : String} (between : OneLine separator)
    {items : List String} (all : ∀ s ∈ items, OneLine s) :
    OneLine (separator.intercalate items) := by
  induction items with
  | nil => simp [OneLine]
  | cons first items ih =>
    cases items with
    | nil => simpa using all
    | cons second items =>
      rw [String.intercalate_cons_cons, oneLine_append, oneLine_append]
      exact ⟨⟨all first (by simp), between⟩, ih fun s member => all s (List.mem_cons_of_mem _ member)⟩

theorem oneLine_join {items : List String} (all : ∀ s ∈ items, OneLine s) :
    OneLine (String.join items) := by
  simpa [OneLine, String.toList_join] using all

theorem oneLine_render (literal : Literal) (slot : Option Primitive) :
    OneLine (literal.render slot) := by
  intro member
  have printable := printable_render literal slot '\n' member
  cases printable

theorem splitLines_cons {line : List Char} (one : '\n' ∉ line) (rest : List Char) :
    Text.splitLines (line ++ '\n' :: rest) = line :: Text.splitLines rest := by
  induction line with
  | nil => simp [Text.splitLines]
  | cons c line ih =>
    obtain ⟨other, one⟩ := not_or.mp (mt List.mem_cons.mpr one)
    simp [Text.splitLines, Ne.symm other, ih one]

theorem splitLines_ne_nil (text : List Char) : Text.splitLines text ≠ [] := by
  cases text with
  | nil => simp [Text.splitLines]
  | cons c text =>
    simp only [Text.splitLines]
    split
    · simp
    · split <;> simp

theorem indented_line {line : String} (one : OneLine line) (indent rest : String) :
    indented indent (line ++ "\n" ++ rest) =
      .ofList (indentedLine indent.toList line.toList) ++ "\n" ++ indented indent rest := by
  have split : Text.splitLines (line ++ "\n" ++ rest).toList =
      line.toList :: Text.splitLines rest.toList := by
    rw [String.toList_append, String.toList_append, List.append_assoc]
    exact splitLines_cons one rest.toList
  have more := splitLines_ne_nil rest.toList
  rw [indented, split, indented]
  cases pieces : Text.splitLines rest.toList with
  | nil => exact absurd pieces more
  | cons next others =>
    rw [List.map_cons, List.map_cons, List.intercalate_cons_cons, String.ofList_append,
      String.ofList_append]

end Texts

section Lines

/-- What stands on a line. -/
def lineText (indent : String) : Line → String
  | .blank => ""
  | .text depth content => String.join (List.replicate depth indent) ++ content

/-- The content is no more than one line. -/
def Single : Line → Prop
  | .blank => True
  | .text _ content => OneLine content

/-- A single line that is not empty for want of an indent. -/
def Steady : Line → Prop
  | .blank => True
  | .text depth content => OneLine content ∧ (depth = 0 → content ≠ "")

theorem render_eq (indent : String) (line : Line) :
    line.render indent = lineText indent line ++ "\n" := by
  cases line with
  | blank => rfl
  | text depth content => rfl

theorem lineText_nest (indent : String) {line : Line} (steady : Steady line) :
    lineText indent line.nest =
      .ofList (indentedLine indent.toList (lineText indent line).toList) := by
  cases line with
  | blank => rfl
  | text depth content =>
    have deeper : lineText indent (Line.text depth content).nest =
        indent ++ lineText indent (.text depth content) := by
      simp only [Line.nest, lineText, List.replicate_succ, String.join_cons, String.append_assoc]
    rw [deeper, indentedLine]
    split
    next empty =>
      -- Inside a type only an empty indent leaves a line empty, and one more changes nothing.
      have nothing := String.toList_eq_nil_iff.mp empty
      rw [nothing, String.append_empty, String.ofList_nil]
      cases depth with
      | zero => exact absurd (by simpa [lineText] using nothing) (steady.2 rfl)
      | succ depth =>
        simp only [lineText, List.replicate_succ, String.join_cons, String.append_assoc,
          String.append_eq_empty_iff] at nothing
        exact nothing.1
    next => rw [String.ofList_append, String.ofList_toList, String.ofList_toList]

theorem Steady.single {line : Line} (steady : Steady line) : Single line := by
  cases line with
  | blank => trivial
  | text depth content => exact steady.1

theorem steady_nest {line : Line} (single : Single line) : Steady line.nest := by
  cases line with
  | blank => trivial
  | text depth content => exact ⟨single, fun top => absurd top (Nat.succ_ne_zero depth)⟩

theorem oneLine_lineText {indent : String} (one : OneLine indent) {line : Line}
    (single : Single line) : OneLine (lineText indent line) := by
  cases line with
  | blank => exact List.not_mem_nil
  | text depth content =>
    have margin : OneLine (String.join (List.replicate depth indent)) :=
      oneLine_join fun s member => List.eq_of_mem_replicate member ▸ one
    exact oneLine_append.mpr ⟨margin, single⟩

/-- Lines one level deeper have the text of the lines as they are, indented. -/
theorem renderAll_nest {indent : String} (one : OneLine indent) {lines : List Line}
    (steady : ∀ line ∈ lines, Steady line) :
    Line.renderAll indent (lines.map Line.nest) = indented indent (Line.renderAll indent lines) := by
  induction lines with
  | nil => rfl
  | cons line lines ih =>
    obtain ⟨first, rest⟩ := List.forall_mem_cons.mp steady
    have single := oneLine_lineText one first.single
    simp only [Line.renderAll, List.map_cons, String.join_cons, render_eq] at ih ⊢
    rw [ih rest, indented_line single, lineText_nest indent first]

theorem steady_block {head : String} {inner : List Line} (one : OneLine head)
    (single : ∀ line ∈ inner, Single line) : ∀ line ∈ Line.block head inner, Steady line := by
  intro line member
  simp only [Line.block, List.cons_append, List.mem_cons, List.mem_append, List.mem_map,
    List.not_mem_nil, or_false] at member
  rcases member with rfl | ⟨inside, member, rfl⟩ | rfl
  · refine ⟨oneLine_append.mpr ⟨one, by decide⟩, fun _ empty => ?_⟩
    exact absurd (String.append_eq_empty_iff.mp empty).2 (by decide)
  · exact steady_nest (single inside member)
  · exact ⟨by decide, fun _ => by decide⟩

theorem single_block {head : String} {inner : List Line} (one : OneLine head)
    (single : ∀ line ∈ inner, Single line) : ∀ line ∈ Line.block head inner, Single line :=
  fun line member => (steady_block one single line member).single

end Lines

section Members
variable {o : RenderOptions}

theorem oneLine_slot {slot : SlotType} (all : ∀ s ∈ slotStrings o slot, OneLine s) :
    OneLine (o.slot slot) := by
  cases slot with
  | value storage =>
    have name : OneLine storage.valueType.name := all _ (by simp [slotStrings])
    cases storage with
    | bare type => exact name
    | wrapped type =>
      simp only [RenderOptions.slot, SlotType.render, Storage.render]
      cases o.style with
      | suffix => exact oneLine_append.mpr ⟨name, by decide⟩
      | generic => exact oneLine_append.mpr ⟨oneLine_append.mpr ⟨by decide, name⟩, by decide⟩
  | reference name => exact all name (by simp [slotStrings])
  | unresolved name =>
    have placeholder := all o.placeholder (by simp [slotStrings])
    have own := all name (by simp [slotStrings])
    simp only [RenderOptions.slot, SlotType.render, oneLine_append]
    exact ⟨⟨⟨placeholder, by decide⟩, own⟩, by decide⟩

theorem oneLine_modifiers (m : Modifiers) : OneLine m.render := by
  obtain ⟨visibility, isStatic⟩ := m
  cases visibility <;> cases isStatic <;> decide

theorem single_field {f : TargetField} (all : ∀ s ∈ fieldStrings o f, OneLine s) :
    Single (o.field f) := by
  simp only [fieldStrings, List.forall_mem_append, List.forall_mem_cons] at all
  obtain ⟨slot, name, initializer⟩ := all
  have space : OneLine " " := by decide
  have semicolon : OneLine ";" := by decide
  have equals : OneLine " = " := by decide
  have declared := oneLine_slot slot
  have modifiers := oneLine_modifiers f.modifiers
  cases given : f.initializer with
  | none =>
    simp only [Single, RenderOptions.field, given, String.append_empty, oneLine_append]
    exact ⟨⟨⟨⟨modifiers, declared⟩, space⟩, name⟩, semicolon⟩
  | some text =>
    have value : OneLine text := initializer text (by simp [given])
    simp only [Single, RenderOptions.field, given, oneLine_append]
    exact ⟨⟨⟨⟨⟨modifiers, declared⟩, space⟩, name⟩, equals, value⟩, semicolon⟩

theorem oneLine_param {p : TargetParam} (all : ∀ s ∈ paramStrings o p, OneLine s) :
    OneLine (o.param p) := by
  simp only [paramStrings, List.forall_mem_append, List.forall_mem_cons] at all
  obtain ⟨slot, name, default⟩ := all
  have space : OneLine " " := by decide
  have equals : OneLine " = " := by decide
  have declared := oneLine_slot slot
  cases given : p.nativeDefault with
  | none =>
    simp only [RenderOptions.param, given, String.append_empty, oneLine_append]
    exact ⟨⟨declared, space⟩, name⟩
  | some text =>
    have value : OneLine text := default text (by simp [given])
    simp only [RenderOptions.param, given, oneLine_append]
    exact ⟨⟨⟨declared, space⟩, name⟩, equals, value⟩

theorem oneLine_header {owner : String} (named : OneLine owner) {v : Overload}
    (head : ∀ s ∈ headStrings o v, OneLine s)
    (params : ∀ p ∈ v.params, ∀ s ∈ paramStrings o p, OneLine s) :
    OneLine (o.header owner v) := by
  have list : OneLine (", ".intercalate (v.params.map o.param)) :=
    oneLine_intercalate (by decide) (List.forall_mem_map.mpr fun p member =>
      oneLine_param (params p member))
  have modifiers := oneLine_modifiers v.modifiers
  have opening : OneLine "(" := by decide
  have closing : OneLine ")" := by decide
  have space : OneLine " " := by decide
  have void : OneLine "void" := by decide
  cases kind : v.kind with
  | constructor =>
    simp only [RenderOptions.header, kind, oneLine_append]
    exact ⟨⟨⟨⟨modifiers, named⟩, opening⟩, list⟩, closing⟩
  | method =>
    simp only [headStrings, kind, List.forall_mem_cons] at head
    obtain ⟨name, returned⟩ := head
    cases type : v.returnType with
    | none =>
      simp only [RenderOptions.header, kind, type, oneLine_append]
      exact ⟨⟨⟨⟨modifiers, ⟨void, space⟩, name⟩, opening⟩, list⟩, closing⟩
    | some slot =>
      have result : OneLine (o.slot slot) := oneLine_slot (by simpa [type] using returned)
      simp only [RenderOptions.header, kind, type, oneLine_append]
      exact ⟨⟨⟨⟨modifiers, ⟨result, space⟩, name⟩, opening⟩, list⟩, closing⟩

theorem oneLine_argument {arg : Argument} (all : ∀ s ∈ argumentStrings arg, OneLine s) :
    OneLine arg.render := by
  cases arg with
  | param name => exact all name (by simp [argumentStrings])
  | literal value wraps slot => exact oneLine_render value slot

theorem oneLine_cast {slot : SlotType} (one : OneLine (o.slot slot)) {text : String}
    (own : OneLine text) : OneLine (o.cast slot text) := by
  have opening : OneLine "(" := by decide
  have closing : OneLine ")" := by decide
  simp only [RenderOptions.cast]
  split <;> simp only [oneLine_append, opening, closing, one, own, and_self]

/-- Casts bring in the types of the overload that is called. -/
theorem oneLine_args {call : Call} (all : ∀ s ∈ call.args.flatMap argumentStrings, OneLine s)
    {pinned : Option Overload}
    (receivers : ∀ canonical ∈ pinned, ∀ p ∈ canonical.params, OneLine (o.slot p.slot)) :
    OneLine (o.args call pinned) := by
  have written : ∀ arg ∈ call.args, OneLine arg.render := fun arg member =>
    oneLine_argument fun s inside => all s (List.mem_flatMap.mpr ⟨arg, member, inside⟩)
  cases pinned with
  | none => exact oneLine_intercalate (by decide) (List.forall_mem_map.mpr written)
  | some canonical =>
    refine oneLine_intercalate (by decide) (List.forall_mem_map.mpr fun place member => ?_)
    obtain ⟨arg, i⟩ := place
    have own := written arg (List.fst_mem_of_mem_zipIdx member)
    cases arg with
    | param name => exact own
    | literal value wraps slot =>
      cases receiver : canonical.params[i]? with
      | none => simpa only [RenderOptions.pinnedArg, receiver] using own
      | some p =>
        have cast := oneLine_cast (receivers canonical rfl p (List.mem_of_getElem? receiver)) own
        simp only [RenderOptions.pinnedArg, receiver]
        split
        · exact cast
        · exact own

theorem single_statement {v : Overload} {target args : String} (called : OneLine target)
    (passed : OneLine args) : Single (RenderOptions.callStatement v target args) := by
  have statement : OneLine (target ++ "(" ++ args ++ ");") := by
    simp only [oneLine_append]
    exact ⟨⟨⟨called, by decide⟩, passed⟩, by decide⟩
  simp only [RenderOptions.callStatement, Single]
  split
  · exact oneLine_append.mpr ⟨by decide, statement⟩
  · exact statement

theorem single_overload {owner : String} (named : OneLine owner) {v : Overload}
    (all : ∀ s ∈ overloadStrings o v, OneLine s) {pinned : Option Overload}
    (receivers : ∀ canonical ∈ pinned, ∀ p ∈ canonical.params, OneLine (o.slot p.slot)) :
    ∀ line ∈ o.overload owner pinned v, Single line := by
  simp only [overloadStrings, List.forall_mem_append, List.forall_mem_flatMap] at all
  obtain ⟨⟨head, params⟩, body⟩ := all
  have header := oneLine_header named head params
  cases content : v.body with
  | forward call =>
    simp only [content, bodyStrings, List.forall_mem_cons] at body
    have passed := oneLine_args body.2 receivers
    cases kind : v.kind with
    | constructor =>
      simp only [RenderOptions.overload, content, kind]
      refine single_block ?_ (by simp [Single])
      simp only [oneLine_append]
      exact ⟨⟨⟨⟨⟨header, by decide⟩, body.1⟩, by decide⟩, passed⟩, by decide⟩
    | method =>
      simp only [RenderOptions.overload, content, kind]
      exact single_block header (List.forall_mem_singleton.mpr (single_statement body.1 passed))
  | source original =>
    cases original with
    | forward call =>
      simp only [content, bodyStrings, List.forall_mem_cons] at body
      have passed : OneLine (o.args call none) :=
        oneLine_args body.2 fun canonical absent => nomatch absent
      simp only [RenderOptions.overload, content]
      exact single_block header (List.forall_mem_singleton.mpr (single_statement body.1 passed))
    | block lines =>
      simp only [content, bodyStrings] at body
      cases lines with
      | nil =>
        simp only [RenderOptions.overload, content]
        exact single_block header (by simp [Single])
      | cons first rest =>
        simp only [RenderOptions.overload, content]
        exact single_block header (List.forall_mem_map.mpr body)

theorem single_separated {members : List (List Line)}
    (all : ∀ lines ∈ members, ∀ line ∈ lines, Single line) :
    ∀ line ∈ [Line.blank].intercalate members, Single line := by
  induction members with
  | nil => simp
  | cons lines members ih =>
    obtain ⟨first, rest⟩ := List.forall_mem_cons.mp all
    cases members with
    | nil => simpa using first
    | cons next members =>
      rw [List.intercalate_cons_cons, List.forall_mem_append, List.forall_mem_append]
      exact ⟨⟨first, by simp [Single]⟩, ih rest⟩

theorem single_members {t : TargetType} (all : ∀ s ∈ typeStrings o t, OneLine s) :
    ∀ lines ∈ o.members t, ∀ line ∈ lines, Single line := by
  simp only [typeStrings, List.cons_append, List.forall_mem_cons, List.forall_mem_append,
    List.forall_mem_flatMap] at all
  obtain ⟨name, fields, overloads⟩ := all
  have slots : ∀ v ∈ t.overloads, ∀ p ∈ v.params, OneLine (o.slot p.slot) := by
    intro v member p inside
    refine oneLine_slot fun s own => overloads v member s ?_
    refine List.mem_append_left _ (List.mem_append_right _ ?_)
    exact List.mem_flatMap.mpr ⟨p, inside, List.mem_append_left _ own⟩
  simp only [RenderOptions.members, List.forall_mem_append, List.forall_mem_flatMap,
    List.forall_mem_map]
  refine ⟨fun f member => List.forall_mem_singleton.mpr (single_field (fields f member)), ?_⟩
  rintro ⟨m, position⟩ member v inside
  have declared : ∀ v ∈ m.overloads, v ∈ t.overloads := fun v inside =>
    List.mem_flatMap.mpr ⟨m, List.fst_mem_of_mem_zipIdx member, inside⟩
  refine single_overload name (overloads v (declared v inside)) fun canonical pinned => ?_
  have first : m.canonical? = some canonical := by
    split at pinned
    · exact pinned
    · cases pinned
  obtain ⟨head, _⟩ := Option.filter_eq_some_iff.mp first
  exact slots canonical (declared canonical (List.mem_of_head? head))

/-- What a type prints is made of single lines, and none of them is empty for want of an indent. -/
theorem steady_type {t : TargetType} (all : ∀ s ∈ typeStrings o t, OneLine s) :
    ∀ line ∈ o.type t, Steady line := by
  have name := all t.name (by simp [typeStrings])
  exact steady_block (oneLine_append.mpr ⟨by decide, name⟩)
    (single_separated (single_members all))

theorem renderAll_types (o : RenderOptions) (types : List TargetType) :
    Line.renderAll o.indent (types.flatMap o.type) = String.join (types.map o.typeText) := by
  induction types with
  | nil => rfl
  | cons t types ih =>
    rw [List.flatMap_cons, renderAll_append, ih, List.map_cons, String.join_cons]
    rfl

end Members

/-- Without a namespace the types stand one after the other. In a namespace the same text stands
between its braces, with the indent in front of each line that is not empty. -/
theorem nested_as_indented {o : RenderOptions} {p : TargetProgram}
    (all : ∀ s ∈ printedStrings o p, OneLine s) :
    (p.namespaceName = "" → o.programText p = String.join (p.types.map o.typeText)) ∧
    (p.namespaceName ≠ "" → o.programText p =
      "namespace " ++ p.namespaceName ++ " \x7b\n" ++
        indented o.indent (String.join (p.types.map o.typeText)) ++ "\x7d\n") := by
  simp only [printedStrings, List.forall_mem_cons, List.forall_mem_flatMap] at all
  obtain ⟨indent, types⟩ := all
  constructor
  · intro empty
    rw [RenderOptions.programText, RenderOptions.program, if_pos empty, renderAll_types]
  · intro named
    have steady : ∀ line ∈ p.types.flatMap o.type, Steady line :=
      List.forall_mem_flatMap.mpr fun t member => steady_type (types t member)
    rw [← renderAll_types, ← renderAll_nest indent steady, RenderOptions.programText,
      RenderOptions.program, if_neg named, renderAll_block]

/-- A field of an unknown type, a body with an empty line in it, and a constructor that passes a
line feed on. -/
def sheltered : TargetProgram :=
  { namespaceName := "N"
    types := [
      { name := "T"
        fields := [{ name := "x", modifiers := {}, slot := .unresolved "Vec3" }]
        methods := [
          { name := "f", index := 0
            overloads := [
              { name := "f", kind := .method, modifiers := {}, params := [], returnType := none
                body := .source (.block ["a;", "", "b;"]) }] },
          { name := "T", index := 1
            overloads := [
              { name := "T", kind := .constructor, modifiers := {}, params := [], returnType := none
                body := .forward ⟨"this", [.literal (.string "\n") false none]⟩ }] }] }]
    diagnostics := []
    stats := {} }

theorem sheltered_indented :
    (∀ s ∈ printedStrings .standard sheltered, OneLine s) ∧
    RenderOptions.standard.programText sheltered =
      "namespace N \x7b\n\tclass T \x7b\n\t\t__Unresolved<Vec3> x;\n\n" ++
        "\t\tvoid f() \x7b\n\t\t\ta;\n\t\t\t\n\t\t\tb;\n\t\t\x7d\n\n" ++
        "\t\tT() : this(\"\\n\") \x7b\n\n\t\t\x7d\n\t\x7d\n\x7d\n" := by
  have all : ∀ s ∈ printedStrings .standard sheltered, OneLine s := by decide
  have printed : String.join (sheltered.types.map RenderOptions.standard.typeText) =
      "class T \x7b\n\t__Unresolved<Vec3> x;\n\n" ++
        "\tvoid f() \x7b\n\t\ta;\n\t\t\n\t\tb;\n\t\x7d\n\n" ++
        "\tT() : this(\"\\n\") \x7b\n\n\t\x7d\n\x7d\n" := by rfl
  refine ⟨all, ((nested_as_indented all).2 (by decide)).trans ?_⟩
  rw [printed]
  rfl

end Overloads.Proofs.Nesting
