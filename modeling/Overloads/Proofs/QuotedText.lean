import Overloads.Value.Quoted

/-! Quoted text reads back. Each character is written as one escape or as itself, and a reader takes
exactly that much of the text for it, so it stops at the quote that was written last. -/

namespace Overloads.Proofs.QuotedText
open Quoted

theorem hexValue_hexDigit {n : Nat} (digit : n < 16) :
    Text.hexValue? (Text.hexDigit n) = some n := by
  have all : ∀ digit : Fin 16, Text.hexValue? (Text.hexDigit digit) = some digit.val := by decide
  exact all ⟨n, digit⟩

/-- Four digits stand for any UTF-16 unit. -/
theorem body?_hex4 (quote : Char) {n : Nat} (small : n < 0x10000) (rest : List Char) :
    body? quote ('\\' :: 'u' :: (Text.hex4 n ++ rest)) =
      (body? quote rest).map fun (text, after) => (Char.ofNat n :: text, after) := by
  have value : 4096 * (n / 4096 % 16) + 256 * (n / 256 % 16) + 16 * (n / 16 % 16) + n % 16 = n := by
    omega
  have first := hexValue_hexDigit (Nat.mod_lt (n / 4096) (by decide : 0 < 16))
  have second := hexValue_hexDigit (Nat.mod_lt (n / 256) (by decide : 0 < 16))
  have third := hexValue_hexDigit (Nat.mod_lt (n / 16) (by decide : 0 < 16))
  have fourth := hexValue_hexDigit (Nat.mod_lt n (by decide : 0 < 16))
  simp only [Text.hex4, List.cons_append, List.nil_append, body?, first, second, third, fourth,
    Option.bind_eq_bind, Option.bind_some, value]
  cases body? quote rest <;> rfl

/-- A character that stands for itself. -/
theorem body?_plain {quote c : Char} (other : c ≠ quote) (ordinary : c ≠ '\\') (rest : List Char) :
    body? quote (c :: rest) = (body? quote rest).map fun (text, after) => (c :: text, after) := by
  rw [body?]
  · rw [if_neg other, if_neg ordinary]
  · exact fun a b c d rest same => absurd same ordinary
  · exact fun e rest same => absurd same ordinary

theorem control_small {c : Char} (control : Text.isControl c = true) : c.toNat < 0x10000 := by
  simp only [Text.isControl, Bool.or_eq_true, Bool.and_eq_true, decide_eq_true_eq] at control
  omega

/-- The characters that have an escape of two characters. -/
def shortEscaped (quote : Char) : List Char := ['\\', '\n', '\r', '\t', Char.ofNat 0, quote]

theorem escape_of_not_short {quote c : Char} (other : c ∉ shortEscaped quote) :
    escape quote c =
      if Text.isControl c then '\\' :: 'u' :: Text.hex4 c.toNat else [c] := by
  simp only [shortEscaped, List.mem_cons, List.not_mem_nil, or_false, not_or] at other
  obtain ⟨backslash, lineFeed, carriageReturn, tab, zero, different⟩ := other
  simp only [escape, backslash, lineFeed, carriageReturn, tab, zero, different, if_false]

/-- What is written for one character is read as that character. -/
theorem body?_escape {quote : Char} (quoting : quote = '"' ∨ quote = '\x27') (c : Char)
    (rest : List Char) :
    body? quote (escape quote c ++ rest) =
      (body? quote rest).map fun (text, after) => (c :: text, after) := by
  by_cases short : c ∈ shortEscaped quote
  · have read : body? quote (escape quote c ++ rest) =
        (body? quote rest).bind fun (text, after) => some (c :: text, after) := by
      simp only [shortEscaped, List.mem_cons, List.not_mem_nil, or_false] at short
      rcases quoting with rfl | rfl <;> rcases short with rfl | rfl | rfl | rfl | rfl | rfl <;> rfl
    rw [read]
    cases body? quote rest <;> rfl
  · rw [escape_of_not_short short]
    split
    next control =>
      have read := body?_hex4 quote (control_small control) rest
      rwa [Char.ofNat_toNat] at read
    next =>
      simp only [shortEscaped, List.mem_cons, not_or] at short
      exact body?_plain short.2.2.2.2.2.1 short.1 rest

theorem body?_encode {quote : Char} (quoting : quote = '"' ∨ quote = '\x27')
    (text rest : List Char) :
    body? quote (text.flatMap (escape quote) ++ quote :: rest) = some (text, rest) := by
  induction text with
  | nil =>
    rcases quoting with rfl | rfl <;> rfl
  | cons c text ih =>
    rw [List.flatMap_cons, List.append_assoc, body?_escape quoting, ih]
    rfl

/-- A reader takes a quoted text and leaves what follows it. -/
theorem decode?_encode {quote : Char} (quoting : quote = '"' ∨ quote = '\x27')
    (text rest : List Char) : decode? quote (encode quote text ++ rest) = some (text, rest) := by
  have body := body?_encode quoting text rest
  simpa [encode, decode?] using body

end Overloads.Proofs.QuotedText
