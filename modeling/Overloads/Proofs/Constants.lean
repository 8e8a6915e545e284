import Overloads.Printing.Source
import Overloads.Proofs.Numerals

/-! Constants of the target language, told apart by their text alone. The text of every literal is
such a constant, and one that needs no cast has the type of its slot. -/

namespace Overloads.Proofs.Constants
open Numerals

inductive Constant
  | null
  | bool
  | char
  | string
  | integer
  | double
  | single
deriving DecidableEq

namespace Constant

/-- Constants that are spelled as words. -/
def ofWord? (text : List Char) : Option Constant :=
  if text = "null".toList then some .null
  else if text ∈ ["true".toList, "false".toList] then some .bool
  else if text ∈ ["double.NaN".toList, "double.PositiveInfinity".toList,
      "double.NegativeInfinity".toList] then some .double
  else if text ∈ ["float.NaN".toList, "float.PositiveInfinity".toList,
      "float.NegativeInfinity".toList] then some .single
  else none

/-- The constant with the text: a numeral, a quoted text or a word. -/
def ofText? (text : List Char) : Option Constant :=
  match Reading.start.run text with
  | .whole => some .integer
  | .fraction | .exponent => some .double
  | .suffix => some .single
  | _ =>
    match text with
    | '"' :: _ => some .string
    | '\x27' :: _ => some .char
    | _ => ofWord? text

def primitive? : Constant → Option Primitive
  | .null | .string => none
  | .bool => some .bool
  | .char => some .char
  | .integer => some .int
  | .double => some .double
  | .single => some .single

/-- The static type of a constant. The constant null has none. -/
inductive HasType : Constant → SlotType → Prop
  | primitive {constant : Constant} {p : Primitive} (same : constant.primitive? = some p) :
      HasType constant (.value (.bare (.primitive p)))
  | string {name : String} (spelling : name = "String" ∨ name = "string") :
      HasType .string (.reference name)

/-- The constant that stands for a literal in a slot of the given primitive. -/
def ofLiteral (slot : Option Primitive) : Literal → Constant
  | .int _ => .integer
  | .float _ => if slot = some .single then .single else .double
  | .bool _ => .bool
  | .char _ => .char
  | .string _ => .string
  | .null => .null

theorem ofText?_floating {text : List Char} (floating : (Reading.start.run text).IsFloating) :
    ofText? text = some .double ∧ ofText? (text ++ ['f']) = some .single := by
  have suffixed : Reading.start.run (text ++ ['f']) = .suffix := by
    rw [Reading.run_append]
    rcases floating with read | read <;> rw [read] <;> rfl
  constructor
  · rcases floating with read | read <;> simp only [ofText?, read]
  · simp only [ofText?, suffixed]

theorem ofText?_renderDouble (x : Double) (single : Bool) :
    ofText? (Literal.renderDouble x single).toList = some (if single then .single else .double) := by
  obtain ⟨plain, suffixed⟩ := ofText?_floating (run_write x)
  simp only [Literal.renderDouble]
  split
  · cases single <;> decide
  · split
    · cases single <;> cases x.isNegative <;> decide
    · cases single with
      | false => exact plain
      | true =>
        rw [if_pos rfl, String.toList_append]
        exact suffixed

theorem ofText?_string (rest : List Char) : ofText? ('"' :: rest) = some .string := by
  have read : Reading.start.run ('"' :: rest) = .broken := Reading.run_broken rest
  simp only [ofText?, read]

theorem ofText?_char (rest : List Char) : ofText? ('\x27' :: rest) = some .char := by
  have read : Reading.start.run ('\x27' :: rest) = .broken := Reading.run_broken rest
  simp only [ofText?, read]

/-- The text of a literal tells what constant it is. -/
theorem ofText?_render (slot : Option Primitive) (literal : Literal) :
    ofText? (literal.render slot).toList = some (ofLiteral slot literal) := by
  cases literal with
  | int n => simp only [Literal.render, ofText?, run_int, ofLiteral]
  | float x => simp only [Literal.render, ofText?_renderDouble, ofLiteral, beq_iff_eq]
  | bool b =>
    cases b with
    | true => exact (by decide : ofText? "true".toList = some .bool)
    | false => exact (by decide : ofText? "false".toList = some .bool)
  | char c =>
    rw [Literal.render, Quoted.encode, String.toList_ofList]
    exact ofText?_char _
  | string s =>
    rw [Literal.render, Quoted.encode, String.toList_ofList]
    exact ofText?_string _
  | null => exact (by decide : ofText? "null".toList = some .null)

theorem bare_of_primitive? {slot : SlotType} {p : Primitive} (bare : slot.isWrapped = false)
    (primitive : slot.primitive? = some p) : slot = .value (.bare (.primitive p)) := by
  cases slot with
  | value storage =>
    cases storage with
    | bare type =>
      cases type with
      | primitive q =>
        cases primitive
        rfl
      | user name => cases primitive
    | wrapped type => cases bare
  | reference name => cases primitive
  | unresolved name => cases primitive

/-- A literal that needs no cast already has the type of its slot. -/
theorem exact_hasType {slot : SlotType} {literal : Literal} (exactly : literal.isExact slot = true) :
    (ofLiteral slot.primitive? literal).HasType slot := by
  unfold Literal.isExact at exactly
  split at exactly
  next => cases exactly
  next bare =>
    have typed : ∀ {constant : Constant} {p : Primitive}, slot.primitive? = some p →
        constant.primitive? = some p → constant.HasType slot := by
      intro constant p primitive same
      rw [bare_of_primitive? (Bool.eq_false_iff.mpr bare) primitive]
      exact .primitive same
    cases literal with
    | null => cases exactly
    | string text =>
      cases slot with
      | reference name => exact .string (by simpa using exactly)
      | value storage => cases exactly
      | unresolved name => cases exactly
    | int n => exact typed (eq_of_beq exactly) rfl
    | bool b => exact typed (eq_of_beq exactly) rfl
    | char c => exact typed (eq_of_beq exactly) rfl
    | float x =>
      cases primitive : slot.primitive? with
      | none =>
        rw [primitive] at exactly
        cases exactly
      | some p =>
        rw [primitive] at exactly
        cases p with
        | double => exact typed primitive rfl
        | single => exact typed primitive rfl
        | int | long | byte | bool | char => cases exactly

end Constant
end Overloads.Proofs.Constants
