import Overloads.Json.Basic
import Overloads.Text.Category

/-! Numbers in JSON text. A numeral without fraction and exponent is an integer while it fits in
64 bits. Every other numeral is a floating point number computed in two rounded steps: its
leading digits that fit in 64 bits, times or over a power of ten. -/

namespace Overloads.Json

/-- The parts of a numeral; `fraction` and `exponent` are absent or not empty. -/
structure Numeral where
  negative : Bool
  whole : List Char
  fraction : Option (List Char)
  exponent : Option (Bool × List Char)

namespace Numeral

def splitSign : List Char → Bool × List Char
  | '-' :: rest => (true, rest)
  | rest => (false, rest)

def exponent? : List Char → Option (Option (Bool × List Char))
  | [] => some none
  | mark :: rest =>
    if mark = 'e' ∨ mark = 'E' then
      let (negative, digits) :=
        match rest with
        | '-' :: digits => (true, digits)
        | '+' :: digits => (false, digits)
        | digits => (false, digits)
      if digits ≠ [] ∧ digits.all Char.isDigit then some (some (negative, digits)) else none
    else none

/-- The numeral written by all of the characters: no leading zeros, no plus sign in front, and
at least one digit in each part that is there. -/
def ofChars? (text : List Char) : Option Numeral :=
  let (negative, unsigned) := splitSign text
  let whole := unsigned.takeWhile Char.isDigit
  let rest := unsigned.dropWhile Char.isDigit
  if whole = [] ∨ (whole.head? = some '0' ∧ whole.length ≠ 1) then none
  else
    match rest with
    | '.' :: rest =>
      let fraction := rest.takeWhile Char.isDigit
      if fraction = [] then none
      else (exponent? (rest.dropWhile Char.isDigit)).map (⟨negative, whole, some fraction, ·⟩)
    | rest => (exponent? rest).map (⟨negative, whole, none, ·⟩)

/-- Takes digits into a 64-bit significand up to the first that does not fit. The second
component counts the digits taken, the third those left over. -/
def accumulate (significand : Nat) : List Char → Nat × Nat × Nat
  | [] => (significand, 0, 0)
  | d :: rest =>
    let next := 10 * significand + (d.toNat - 48)
    if next < UInt64.size then
      let (final, taken, left) := accumulate next rest
      (final, taken + 1, left)
    else (significand, 0, rest.length + 1)

/-- A 64-bit significand times a power of ten: rounded, then multiplied or divided by the rounded
power, in steps of `10 ^ 308` below. Nothing results when it is too large. -/
def scale (significand : Nat) (exponent : Int) : Option Double :=
  if 0 ≤ exponent then
    if 308 < exponent then
      if significand = 0 then some (.ofNat 0) else none
    else
      let x := (Double.ofNat significand).mul (.ofNat (Nat.pow 10 exponent.toNat))
      if x.isFinite then some x else none
  else some (shrink (.ofNat significand) (-exponent).toNat 4)
where
  /-- Three steps take any significand below the least positive number. -/
  shrink (x : Double) (places : Nat) : Nat → Double
    | 0 => .ofNat 0
    | steps + 1 =>
      if places ≤ 308 then x.div (.ofNat (Nat.pow 10 places))
      else shrink (x.div (.ofNat (Nat.pow 10 308))) (places - 308) steps

def toDouble? (n : Numeral) : Option Double :=
  let (high, _, dropped) := accumulate 0 n.whole
  let (significand, taken, _) := accumulate high (n.fraction.getD [])
  let start : Int := dropped - taken
  let exponent : Int :=
    match n.exponent with
    | none => start
    | some (true, digits) => start - Text.decimalValue digits
    | some (false, digits) => start + Text.decimalValue digits
  (scale significand exponent).map (·.withSign n.negative)

/-- The value of a numeral; `unreadable` when it is too large. Minus zero is a floating point
number. -/
def toJson (n : Numeral) : Json :=
  let read : Json :=
    match n.toDouble? with
    | some x => .float x
    | none => .unreadable
  match n.fraction, n.exponent with
  | none, none =>
    let value := Text.decimalValue n.whole
    if n.negative then
      if value = 0 ∨ 0x8000000000000000 < value then read else .int (-value)
    else if value < UInt64.size then .int value
    else read
  | _, _ => read

end Numeral
end Overloads.Json
