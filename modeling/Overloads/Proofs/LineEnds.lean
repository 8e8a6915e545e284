import Overloads.Proofs.LiteralTexts
import Overloads.Proofs.NativeDefaults

/-! Line ends in the texts of literals. Control characters are escaped, and with them most of the
characters that end a line of target source. The line separator and the paragraph separator are no
control characters: they stand in the text as they stand in the literal. So what is emitted for a
literal stays on one line exactly if the literal has neither of them. -/

namespace Overloads.Proofs.LineEnds
open Emission LiteralTexts NativeDefaults OverloadSets

/-- The characters that end a line of target source. -/
def endsLine (c : Char) : Bool := ['\n', '\r', '\u0085', '\u2028', '\u2029'].contains c

/-- The line separator and the paragraph separator. -/
def isSeparator (c : Char) : Bool := ['\u2028', '\u2029'].contains c

def lineEnds (text : String) : List Char := text.toList.filter endsLine

def separators (literal : Literal) : List Char := (content literal).filter isSeparator

/-- The texts that stand for literals in a lowered type: initializers of fields, native defaults of
parameters, and what calls pass, the synthesized ones as well as those of the source. -/
inductive Shows (t : TargetType) : String → Prop
  | initializer {f : TargetField} {text : String} (field : f ∈ t.fields)
      (kept : f.initializer = some text) : Shows t text
  | native {o : Overload} {p : TargetParam} {text : String} (overload : o ∈ t.overloads)
      (param : p ∈ o.params) (kept : p.nativeDefault = some text) : Shows t text
  | argument {o : Overload} {call : Call} {literal : Literal} {wraps : Bool}
      {slot : Option Primitive} (overload : o ∈ t.overloads)
      (body : o.body = .forward call ∨ o.body = .source (.forward call))
      (passed : .literal literal wraps slot ∈ call.args) : Shows t (literal.render slot)

/-- The literals of a declared type that are emitted, with the primitives of their slots:
initializers that fit, and of the methods that survive the defaults that callers may leave out and
the literals of a call that is the whole body. -/
inductive Emits (s : Setting) (t : TypeDecl) : Option Primitive → Literal → Prop
  | initializer {f : Field} {literal : Literal} (declared : f ∈ t.fields)
      (given : f.initializer = some literal) (fits : (f.slot s.registry).admits literal = true) :
      Emits s t (f.slot s.registry).primitive? literal
  | default {index i : Nat} {m : Method} {p : Parameter} {literal : Literal}
      (survives : Survives s t index) (declared : t.methods[index]? = some m)
      (place : m.params[i]? = some p) (omittable : Omittable m i)
      (given : p.default = some literal) : Emits s t (p.slot s.registry).primitive? literal
  | argument {index : Nat} {m : Method} {call : Call} {literal : Literal} {wraps : Bool}
      {slot : Option Primitive} (survives : Survives s t index)
      (declared : t.methods[index]? = some m) (body : m.body = .forward call)
      (passed : .literal literal wraps slot ∈ call.args) : Emits s t slot literal

section Texts

/-- Of the characters that end a line only the separators are no control characters. -/
theorem endsLine_of_printable {c : Char} (printable : Text.isControl c = false) :
    endsLine c = isSeparator c := by
  have other : ∀ control, Text.isControl control = true → c ≠ control := by
    rintro control isControl rfl
    rw [printable] at isControl
    cases isControl
  have lineFeed := other '\n' rfl
  have carriageReturn := other '\r' rfl
  have nextLine := other '\u0085' rfl
  simp [endsLine, isSeparator, lineFeed, carriageReturn, nextLine]

theorem isSeparator_of_small {c : Char} (small : c.toNat < 0xa0) : isSeparator c = false := by
  have other : ∀ separator : Char, 0xa0 ≤ separator.toNat → c ≠ separator := by
    rintro separator large rfl
    omega
  have line := other '\u2028' (by decide)
  have paragraph := other '\u2029' (by decide)
  simp [isSeparator, line, paragraph]

theorem separators_plain {text : List Char} (plain : Plain text) : text.filter isSeparator = [] := by
  refine List.filter_eq_nil_iff.mpr fun c member => ?_
  obtain ⟨_, most⟩ := plain c member
  rw [isSeparator_of_small (by omega)]
  exact Bool.false_ne_true

variable {quote : Char}

theorem separators_escape (quoting : quote = '"' ∨ quote = '\x27') (c : Char) :
    (Quoted.escape quote c).filter isSeparator = [c].filter isSeparator := by
  rcases escape_cases quoting c with ⟨same, _⟩ | ⟨plain, small⟩
  · rw [same]
  · rw [separators_plain plain, List.filter_singleton, isSeparator_of_small small]
    rfl

/-- Quoting brings no separator in and leaves none out. -/
theorem separators_encode (quoting : quote = '"' ∨ quote = '\x27') (text : List Char) :
    (Quoted.encode quote text).filter isSeparator = text.filter isSeparator := by
  have own : [quote].filter isSeparator = [] := by rcases quoting with rfl | rfl <;> rfl
  calc (Quoted.encode quote text).filter isSeparator
      = [quote].filter isSeparator ++ ((text.flatMap (Quoted.escape quote)).filter isSeparator ++
          [quote].filter isSeparator) := by
        rw [← List.filter_append, ← List.filter_append]
        rfl
    _ = text.flatMap fun c => (Quoted.escape quote c).filter isSeparator := by
        rw [own, List.nil_append, List.append_nil, List.filter_flatMap]
    _ = text.flatMap fun c => [c].filter isSeparator := by
        simp only [separators_escape quoting]
    _ = text.filter isSeparator := by
        rw [← List.filter_flatMap, List.flatMap_singleton']

/-- The text of a literal ends lines where the literal has a separator, and nowhere else. -/
theorem lineEnds_render (literal : Literal) (slot : Option Primitive) :
    lineEnds (literal.render slot) = separators literal := by
  have printable := printable_render literal slot
  calc lineEnds (literal.render slot)
      = (literal.render slot).toList.filter isSeparator :=
        List.filter_congr fun c member => endsLine_of_printable (printable c member)
    _ = separators literal := by
        rcases render_cases literal slot with ⟨empty, plain⟩ | ⟨quote, quoting, quoted⟩
        · rw [separators_plain plain, separators, empty]
          rfl
        · rw [quoted, separators_encode quoting]
          rfl

example : (Literal.string "\r\n\u0085\u2028").render none = "\"\\r\\n\\u0085\u2028\"" := rfl

end Texts

section Positions
variable {s : Setting} {t : TypeDecl} {index : Nat} {m : Method} {o : Overload}

theorem Emits.optional {p : Parameter} {literal : Literal} (survives : Survives s t index)
    (declared : t.methods[index]? = some m) (optional : p ∈ m.params.drop m.optionalStart)
    (given : p.default = some literal) : Emits s t (p.slot s.registry).primitive? literal := by
  obtain ⟨i, place, omittable⟩ := mem_optional_iff.mp optional
  exact .default survives declared place omittable given

theorem native_emits (survives : Survives s t index) (declared : t.methods[index]? = some m)
    (member : o ∈ m.overloads s) {p : TargetParam} (param : p ∈ o.params) {text : String}
    (kept : p.nativeDefault = some text) :
    ∃ slot literal, Emits s t slot literal ∧ text = literal.render slot := by
  obtain ⟨source, optional, literal, given, same, rfl⟩ := native_of_mem member param kept
  rw [same]
  exact ⟨_, literal, .optional survives declared optional given, rfl⟩

/-- A call passes the defaults of the parameters that its caller does not have, unless it is the
body of the method itself. -/
theorem argument_emits (survives : Survives s t index) (declared : t.methods[index]? = some m)
    (member : o ∈ m.overloads s) {call : Call}
    (body : o.body = .forward call ∨ o.body = .source (.forward call)) {literal : Literal}
    {wraps : Bool} {slot : Option Primitive} (passed : .literal literal wraps slot ∈ call.args) :
    Emits s t slot literal := by
  -- Only the canonical overload has the body of the source, and only the others have a new one.
  rcases mem_overloads.mp member with rfl | ⟨keep, least, _, rfl⟩ <;>
    rcases body with synthesized | own
  · cases synthesized
  · exact .argument survives declared (OverloadBody.source.inj own) passed
  · cases synthesized
    rcases List.mem_append.mp passed with kept | filled
    · obtain ⟨source, _, same⟩ := List.mem_map.mp kept
      cases same
    · obtain ⟨source, omitted, argument⟩ := List.mem_filterMap.mp filled
      obtain ⟨value, given, same⟩ := Option.map_eq_some_iff.mp argument
      cases same
      exact .optional survives declared (List.drop_subset_drop_left m.params least omitted) given
  · cases own

/-- Every default that callers may leave out is passed by the call of the shortest overload. -/
theorem default_shown {i : Nat} {p : Parameter} {literal : Literal} (survives : Survives s t index)
    (declared : t.methods[index]? = some m) (place : m.params[i]? = some p)
    (omittable : Omittable m i) (given : p.default = some literal) :
    Shows (t.lower s).decl (literal.render (p.slot s.registry).primitive?) := by
  have optional : p ∈ m.params.drop m.optionalStart := mem_optional_iff.mpr ⟨i, place, omittable⟩
  have fewer : m.optionalStart < m.params.length := by
    have nonempty := List.length_pos_of_mem optional
    rw [List.length_drop] at nonempty
    omega
  have argument : p.argument? s.registry = some (.literal literal _ _) :=
    Option.map_eq_some_iff.mpr ⟨literal, given, rfl⟩
  have shortest : m.forwarding s m.optionalStart ∈ m.overloads s :=
    mem_overloads.mpr (Or.inr ⟨m.optionalStart, Nat.le_refl _, fewer, rfl⟩)
  exact .argument (mem_lowered.mpr ⟨index, m, survives, declared, shortest⟩) (Or.inl rfl)
    (List.mem_append_right _ (List.mem_filterMap.mpr ⟨p, optional, argument⟩))

theorem own_argument_shown {call : Call} {literal : Literal} {wraps : Bool}
    {slot : Option Primitive} (survives : Survives s t index)
    (declared : t.methods[index]? = some m) (body : m.body = .forward call)
    (passed : .literal literal wraps slot ∈ call.args) :
    Shows (t.lower s).decl (literal.render slot) := by
  have canonical : m.canonical s ∈ m.overloads s := mem_overloads.mpr (Or.inl rfl)
  exact .argument (mem_lowered.mpr ⟨index, m, survives, declared, canonical⟩)
    (Or.inr (congrArg OverloadBody.source body)) passed

/-- The literal texts of a lowered type are those of the literals that it emits. -/
theorem shows_iff {text : String} :
    Shows (t.lower s).decl text ↔
      ∃ slot literal, Emits s t slot literal ∧ text = literal.render slot := by
  constructor
  · intro shows
    cases shows with
    | initializer field kept =>
      obtain ⟨f, declared, rfl⟩ := List.mem_map.mp field
      obtain ⟨literal, given, fits, rfl⟩ := Field.lower_initializer_eq_some_iff.mp kept
      exact ⟨_, literal, .initializer declared given fits, rfl⟩
    | native overload param kept =>
      obtain ⟨index, m, survives, declared, member⟩ := mem_lowered.mp overload
      exact native_emits survives declared member param kept
    | argument overload body passed =>
      obtain ⟨index, m, survives, declared, member⟩ := mem_lowered.mp overload
      exact ⟨_, _, argument_emits survives declared member body passed, rfl⟩
  · rintro ⟨slot, literal, emits, rfl⟩
    cases emits with
    | initializer declared given fits =>
      exact .initializer (List.mem_map_of_mem declared)
        (Field.lower_initializer_eq_some_iff.mpr ⟨literal, given, fits, rfl⟩)
    | default survives declared place omittable given =>
      exact default_shown survives declared place omittable given
    | argument survives declared body passed =>
      exact own_argument_shown survives declared body passed

theorem shows_unbroken_iff :
    (∀ text, Shows (t.lower s).decl text → lineEnds text = []) ↔
      ∀ slot literal, Emits s t slot literal → separators literal = [] := by
  constructor
  · intro unbroken slot literal emits
    rw [← lineEnds_render literal slot]
    exact unbroken _ (shows_iff.mpr ⟨slot, literal, emits, rfl⟩)
  · intro whole text shows
    obtain ⟨slot, literal, emits, rfl⟩ := shows_iff.mp shows
    rw [lineEnds_render]
    exact whole slot literal emits

end Positions

/-- The text of a literal ends lines exactly where the literal has a separator. So a lowered type
shows all its literals on one line each exactly if none that it emits has a separator. -/
theorem literals_unbroken_iff (c : Config) (p : Program) :
    (∀ (literal : Literal) (slot : Option Primitive),
      lineEnds (literal.render slot) = separators literal) ∧
    List.Forall₂ (fun (t : TypeDecl) (lowered : TargetType) =>
      (∀ text, Shows lowered text → lineEnds text = []) ↔
        ∀ slot literal, Emits c.setting t slot literal → separators literal = [])
      p.types (p.run c).types := by
  refine ⟨lineEnds_render, ?_⟩
  rw [Program.run, Collection.lower_types, List.forall₂_map_right_iff, List.forall₂_same]
  exact fun t _ => shows_unbroken_iff

/-- A character and a string with a separator each. -/
def separated : TypeDecl :=
  { name := "T"
    fields := [
      { name := "mark", type := .value "Char", initializer := some (.char '\u2029') }]
    methods := [
      { name := "join"
        params := [
          { name := "by", type := .reference "String", default := some (.string "a\u2028b") }] }] }

/-- The separators stand in the initializer, in the native default and in the forwarding call. -/
theorem separated_breaks :
    (Literal.char '\u2029').render (some .char) = "'\u2029'" ∧ lineEnds "'\u2029'" = ['\u2029'] ∧
    (Literal.string "a\u2028b").render none = "\"a\u2028b\"" ∧
    lineEnds "\"a\u2028b\"" = ['\u2028'] ∧
    ∃ lowered ∈ (Program.run {} { types := [separated] }).types,
      lowered.fields.map TargetField.initializer = [some "'\u2029'"] ∧
      lowered.overloads.map (fun o => o.params.map TargetParam.nativeDefault) =
        [[some "\"a\u2028b\""], []] ∧
      lowered.overloads.map (fun o => o.call?.map Call.renderArgs) =
        [none, some "\"a\u2028b\""] := by
  have member : (separated.lower (Config.setting {})).decl ∈
      (Program.run {} { types := [separated] }).types := by
    rw [Program.run, Collection.lower_types]
    exact List.mem_map_of_mem List.mem_cons_self
  exact ⟨rfl, by decide, rfl, by decide, _, member, by decide, by decide,
    by decide⟩

end Overloads.Proofs.LineEnds
