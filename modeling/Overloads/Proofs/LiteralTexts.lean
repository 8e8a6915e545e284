import Overloads.Proofs.Numerals
import Overloads.Proofs.QuotedText

/-! The texts of literals. They are plain ASCII or quote the characters of the literal, and none of
them contains a control character. The text of a string or of a character reads as just that,
whatever stands behind it, so two of them print alike only if they are equal. -/

namespace Overloads.Proofs.LiteralTexts
open Numerals QuotedText

def Printable (text : List Char) : Prop := ∀ c ∈ text, Text.isControl c = false

instance (text : List Char) : Decidable (Printable text) := List.decidableBAll ..

theorem printable_nil : Printable [] := fun _ member => absurd member List.not_mem_nil

theorem printable_cons {c : Char} {text : List Char} :
    Printable (c :: text) ↔ Text.isControl c = false ∧ Printable text := List.forall_mem_cons

theorem printable_append {first second : List Char} :
    Printable (first ++ second) ↔ Printable first ∧ Printable second := List.forall_mem_append

/-- Only visible ASCII and blanks. -/
def Plain (text : List Char) : Prop := ∀ c ∈ text, 0x20 ≤ c.toNat ∧ c.toNat < 0x7f

instance (text : List Char) : Decidable (Plain text) := List.decidableBAll ..

theorem plain_append {first second : List Char} :
    Plain (first ++ second) ↔ Plain first ∧ Plain second := List.forall_mem_append

theorem printable_of_plain {text : List Char} (plain : Plain text) : Printable text := by
  intro c member
  obtain ⟨least, most⟩ := plain c member
  simp only [Text.isControl, Bool.or_eq_false_iff, Bool.and_eq_false_iff, decide_eq_false_iff_not]
  omega

theorem plain_hex4 (n : Nat) : Plain (Text.hex4 n) := by
  have all : ∀ digit : Fin 16, Plain [Text.hexDigit digit] := by decide
  have digit : ∀ m, Plain [Text.hexDigit (m % 16)] :=
    fun m => all ⟨m % 16, Nat.mod_lt m (by decide)⟩
  exact plain_append.mpr ⟨digit (n / 4096), plain_append.mpr ⟨digit (n / 256),
    plain_append.mpr ⟨digit (n / 16), digit n⟩⟩⟩

/-- A character is written as itself, unless it is one of the first that Unicode has and is written
as an escape in ASCII. -/
theorem escape_cases {quote : Char} (quoting : quote = '"' ∨ quote = '\x27') (c : Char) :
    (Quoted.escape quote c = [c] ∧ Text.isControl c = false) ∨
      (Plain (Quoted.escape quote c) ∧ c.toNat < 0xa0) := by
  by_cases short : c ∈ shortEscaped quote
  · right
    simp only [shortEscaped, List.mem_cons, List.not_mem_nil, or_false] at short
    rcases quoting with rfl | rfl <;> rcases short with rfl | rfl | rfl | rfl | rfl | rfl <;> decide
  · rw [escape_of_not_short short]
    split
    next control =>
      right
      refine ⟨plain_append.mpr ⟨(by decide : Plain ['\\', 'u']), plain_hex4 c.toNat⟩, ?_⟩
      simp only [Text.isControl, Bool.or_eq_true, Bool.and_eq_true, decide_eq_true_eq] at control
      omega
    next printable => exact Or.inl ⟨rfl, Bool.eq_false_iff.mpr printable⟩

/-- A control character is written as an escape, and an escape has none. -/
theorem printable_escape {quote : Char} (quoting : quote = '"' ∨ quote = '\x27') (c : Char) :
    Printable (Quoted.escape quote c) := by
  rcases escape_cases quoting c with ⟨same, printable⟩ | ⟨plain, _⟩
  · rw [same]
    exact printable_cons.mpr ⟨printable, printable_nil⟩
  · exact printable_of_plain plain

theorem printable_encode {quote : Char} (quoting : quote = '"' ∨ quote = '\x27')
    (content : List Char) : Printable (Quoted.encode quote content) := by
  have own : Text.isControl quote = false := by rcases quoting with rfl | rfl <;> rfl
  have body : Printable (content.flatMap (Quoted.escape quote)) := by
    intro c member
    obtain ⟨source, _, written⟩ := List.mem_flatMap.mp member
    exact printable_escape quoting source c written
  exact printable_cons.mpr
    ⟨own, printable_append.mpr ⟨body, printable_cons.mpr ⟨own, printable_nil⟩⟩⟩

theorem step_outside {c : Char} (outside : ¬ (0x20 ≤ c.toNat ∧ c.toNat < 0x7f))
    (reading : Reading) : reading.step c = .broken := by
  have digit : c.isDigit = false := by
    rw [Bool.eq_false_iff, ne_eq, Char.isDigit_iff_toNat]
    simp only [Char.reduceToNat]
    omega
  have other : ∀ known : Char, 0x20 ≤ known.toNat ∧ known.toNat < 0x7f → c ≠ known := by
    rintro known inside rfl
    exact outside inside
  have minus := other '-' (by decide)
  have plus := other '+' (by decide)
  have point := other '.' (by decide)
  have mark := other 'e' (by decide)
  have suffix := other 'f' (by decide)
  cases reading <;> simp [Reading.step, digit, minus, plus, point, mark, suffix]

/-- What reads as a numeral is made of digits, signs, a point and letters. -/
theorem plain_of_run {before : Reading} {text : List Char} (whole : before.run text ≠ .broken) :
    Plain text := by
  intro c member
  by_contra outside
  obtain ⟨first, second, rfl⟩ := List.append_of_mem member
  rw [Reading.run_append, Reading.run_cons, step_outside outside, Reading.run_broken] at whole
  exact whole rfl

theorem plain_renderDouble (x : Double) (single : Bool) :
    Plain (Literal.renderDouble x single).toList := by
  have numeral : Plain (Literal.numberFormat.write x).toList := by
    have whole : Reading.start.run (Literal.numberFormat.write x).toList ≠ .broken := by
      rcases run_write x with read | read <;> rw [read] <;> decide
    exact plain_of_run whole
  rw [Literal.renderDouble]
  split
  · cases single <;> decide
  · split
    · cases single <;> cases x.isNegative <;> decide
    · cases single with
      | false => exact numeral
      | true =>
        rw [if_pos rfl, String.toList_append]
        exact plain_append.mpr ⟨numeral, by decide⟩

/-- The characters that a literal quotes. -/
def content : Literal → List Char
  | .char c => [c]
  | .string s => s.toList
  | .int _ | .float _ | .bool _ | .null => []

/-- The text of a literal is plain, or it quotes the characters of the literal. -/
theorem render_cases (literal : Literal) (slot : Option Primitive) :
    (content literal = [] ∧ Plain (literal.render slot).toList) ∨
      ∃ quote, (quote = '"' ∨ quote = '\x27') ∧
        (literal.render slot).toList = Quoted.encode quote (content literal) := by
  cases literal with
  | int n =>
    have whole : Reading.start.run (toString n.toInt).toList ≠ .broken := by
      rw [run_int]
      decide
    exact Or.inl ⟨rfl, plain_of_run whole⟩
  | float x => exact Or.inl ⟨rfl, plain_renderDouble x _⟩
  | bool b =>
    cases b with
    | true => exact Or.inl ⟨rfl, (by decide : Plain "true".toList)⟩
    | false => exact Or.inl ⟨rfl, (by decide : Plain "false".toList)⟩
  | char c => exact Or.inr ⟨'\x27', Or.inr rfl, String.toList_ofList⟩
  | string s => exact Or.inr ⟨'"', Or.inl rfl, String.toList_ofList⟩
  | null => exact Or.inl ⟨rfl, (by decide : Plain "null".toList)⟩

/-- No literal brings a control character into the target source. -/
theorem printable_render (literal : Literal) (slot : Option Primitive) :
    Printable (literal.render slot).toList := by
  rcases render_cases literal slot with ⟨_, plain⟩ | ⟨quote, quoting, quoted⟩
  · exact printable_of_plain plain
  · rw [quoted]
    exact printable_encode quoting (content literal)

/-- The text is read as the characters it stands for, and what stands behind it is left. -/
structure Denotes (quote : Char) (text : String) (content : List Char) : Prop where
  read : ∀ rest : String,
    Quoted.decode? quote (text ++ rest).toList = some (content, rest.toList)
  printable : Printable text.toList

theorem Denotes.eq {quote : Char} {text : String} {content other : List Char}
    (first : Denotes quote text content) (second : Denotes quote text other) : content = other := by
  have same := (first.read "").symm.trans (second.read "")
  exact congrArg Prod.fst (Option.some.inj same)

variable {quote : Char}

theorem encode_denotes (quoting : quote = '"' ∨ quote = '\x27') (content : List Char) :
    Denotes quote (.ofList (Quoted.encode quote content)) content := by
  refine ⟨fun rest => ?_, ?_⟩
  · rw [String.toList_append, String.toList_ofList]
    exact decode?_encode quoting content rest.toList
  · rw [String.toList_ofList]
    exact printable_encode quoting content

theorem encode_inj (quoting : quote = '"' ∨ quote = '\x27') {content other : List Char} :
    String.ofList (Quoted.encode quote content) = .ofList (Quoted.encode quote other) ↔
      content = other := by
  constructor
  · intro same
    exact (encode_denotes quoting content).eq (same ▸ encode_denotes quoting other)
  · rintro rfl
    rfl

/-- A string and a character are read back from their texts, in any slot. Two strings print alike
exactly if they are equal, and so do two characters. -/
theorem quoted_literals_read_back (s s' : String) (c c' : Char) (slot slot' : Option Primitive) :
    Denotes '"' ((Literal.string s).render slot) s.toList ∧
    Denotes '\x27' ((Literal.char c).render slot) [c] ∧
    ((Literal.string s).render slot = (Literal.string s').render slot' ↔ s = s') ∧
    ((Literal.char c).render slot = (Literal.char c').render slot' ↔ c = c') := by
  refine ⟨encode_denotes (Or.inl rfl) s.toList, encode_denotes (Or.inr rfl) [c], ?_, ?_⟩
  · exact (encode_inj (Or.inl rfl)).trans String.toList_inj
  · exact (encode_inj (Or.inr rfl)).trans List.singleton_inj

/-- A digit behind an escape does not become part of it. -/
example : Quoted.decode? '"' ((Literal.string "\x012\"").render none).toList =
    some (['\x01', '2', '"'], []) := by decide

end Overloads.Proofs.LiteralTexts
