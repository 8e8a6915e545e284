import Overloads.Proofs.Numerals
import Mathlib.Algebra.Order.Field.Power
import Mathlib.Algebra.Order.Field.Rat
import Mathlib.Tactic.Positivity
import Mathlib.Tactic.Ring

/-! The values of numerals. An integer has the value of its text, and the text of a floating point
number lies among the reals that round to a number of no greater magnitude. -/

namespace Overloads.Proofs.NumeralValues
open Numerals

/-- The text before and after the first occurrence of a character. -/
def cut (c : Char) (text : List Char) : List Char × List Char :=
  (text.takeWhile (· ≠ c), (text.dropWhile (· ≠ c)).drop 1)

def unsigned : List Char → List Char
  | '-' :: rest => rest
  | text => text

/-- The value of an integer numeral. -/
def integerValue (text : List Char) : Int :=
  let value : Int := Text.decimalValue (unsigned text)
  if text.head? = some '-' then -value else value

/-- The value of a numeral with a fraction or an exponent, its sign left out. -/
def magnitude (text : List Char) : ℚ :=
  let (mantissa, exponent) := cut 'e' (unsigned text)
  let (whole, fraction) := cut '.' mantissa
  Text.decimalValue (whole ++ fraction) * 10 ^ (integerValue exponent - fraction.length)

/-- Whether a real rounds to the number, the signs left out. -/
def Rounds (x : Double) (v : ℚ) : Prop :=
  let (low, high, closed) := x.interval
  let place : ℚ := 2 ^ (x.parts.2 - 2)
  if closed then low * place ≤ v ∧ v ≤ high * place else low * place < v ∧ v < high * place

theorem zpow_mul_pow_toNat (b : ℚ) (nonzero : b ≠ 0) (z : Int) :
    b ^ z * b ^ (-z).toNat = b ^ z.toNat := by
  rw [← zpow_natCast, ← zpow_natCast, ← zpow_add₀ nonzero]
  congr 1
  omega

/-- A decimal reads as a number if its value rounds to it. -/
theorem reads_iff (x : Double) (coefficient : Nat) (exponent : Int) :
    x.reads coefficient exponent = true ↔ Rounds x (coefficient * 10 ^ exponent) := by
  have scale : (0 : ℚ) < 2 ^ (2 - x.parts.2).toNat * 10 ^ (-exponent).toNat := by positivity
  -- Scaled by both denominators, the sides of the comparison are natural numbers.
  have two := zpow_mul_pow_toNat 2 (by norm_num) (x.parts.2 - 2)
  have ten := zpow_mul_pow_toNat 10 (by norm_num) exponent
  rw [neg_sub] at two
  have value :
      (coefficient * 10 ^ exponent) * (2 ^ (2 - x.parts.2).toNat * 10 ^ (-exponent).toNat) =
      ((coefficient * 10 ^ exponent.toNat * 2 ^ (2 - x.parts.2).toNat : Nat) : ℚ) := by
    push_cast
    rw [← ten]
    ring
  have quarter : ∀ n : Nat,
      (n * (2 : ℚ) ^ (x.parts.2 - 2)) * (2 ^ (2 - x.parts.2).toNat * 10 ^ (-exponent).toNat) =
        ((n * 2 ^ (x.parts.2 - 2).toNat * 10 ^ (-exponent).toNat : Nat) : ℚ) := by
    intro n
    push_cast
    rw [← two]
    ring
  have least : ∀ n : Nat, n * (2 : ℚ) ^ (x.parts.2 - 2) ≤ coefficient * 10 ^ exponent ↔
      n * 2 ^ (x.parts.2 - 2).toNat * 10 ^ (-exponent).toNat ≤
        coefficient * 10 ^ exponent.toNat * 2 ^ (2 - x.parts.2).toNat := by
    intro n
    rw [← mul_le_mul_iff_left₀ scale, value, quarter, Nat.cast_le]
  have greatest : ∀ n : Nat, coefficient * 10 ^ exponent ≤ n * (2 : ℚ) ^ (x.parts.2 - 2) ↔
      coefficient * 10 ^ exponent.toNat * 2 ^ (2 - x.parts.2).toNat ≤
        n * 2 ^ (x.parts.2 - 2).toNat * 10 ^ (-exponent).toNat := by
    intro n
    rw [← mul_le_mul_iff_left₀ scale, value, quarter, Nat.cast_le]
  simp only [Double.reads, Rounds, Nat.pow_eq]
  cases x.interval.2.2 with
  | true => simp only [if_true, Bool.and_eq_true, decide_eq_true_eq, least, greatest]
  | false =>
    simp only [Bool.false_eq_true, if_false, Bool.and_eq_true, decide_eq_true_eq, ← not_le, least,
      greatest]

theorem decimalValue_append (first second : List Char) :
    Text.decimalValue (first ++ second) =
      Text.decimalValue first * 10 ^ second.length + Text.decimalValue second := by
  have run := Nat.ofDigitChars_append (b := 10) (l := first) (m := second) 0
  rw [Nat.ofDigitChars_eq_ofDigitChars_zero (l := second), Nat.mul_comm] at run
  exact run

theorem decimalValue_zeros (n : Nat) : Text.decimalValue (DoubleFormat.zeros n) = 0 := by
  have zeros : Nat.ofDigitChars 10 (List.replicate n '0') 0 = 10 ^ n * 0 :=
    Nat.ofDigitChars_replicate_zero
  rwa [Nat.mul_zero] at zeros

theorem decimalValue_toDigits (n : Nat) : Text.decimalValue (Nat.toDigits 10 n) = n :=
  Nat.ofDigitChars_ten_toDigits

theorem not_mem_of_digits {text : List Char} (digits : Digits text) {c : Char}
    (other : c.isDigit = false) : c ∉ text := by
  intro member
  rw [digits c member] at other
  cases other

theorem unsigned_of_ne {text : List Char} (plain : text.head? ≠ some '-') :
    unsigned text = text := by
  unfold unsigned
  split
  · exact absurd rfl plain
  · rfl

theorem integerValue_toString (n : Int) : integerValue (toString n).toList = n := by
  rw [Int.toString_eq_repr, Int.repr_eq_if]
  split
  next nonnegative =>
    rw [Nat.toList_repr]
    have plain : (Nat.toDigits 10 n.toNat).head? ≠ some '-' := by
      intro first
      exact not_mem_of_digits (toDigits_digits n.toNat) rfl (List.mem_of_head? first)
    rw [integerValue, if_neg plain, unsigned_of_ne plain, decimalValue_toDigits]
    exact Int.toNat_of_nonneg nonnegative
  next negative =>
    rw [String.toList_append, Nat.toList_repr]
    change -(Text.decimalValue (Nat.toDigits 10 (-n).toNat) : Int) = n
    rw [decimalValue_toDigits]
    omega

theorem cut_of_not_mem {c : Char} {text : List Char} (absent : c ∉ text) :
    cut c text = (text, []) := by
  have all : ∀ d ∈ text, (decide (d ≠ c)) = true := by
    intro d member
    exact decide_eq_true fun same => absent (same ▸ member)
  rw [cut, List.takeWhile_eq_self_iff.mpr all, List.dropWhile_eq_nil_iff.mpr all]
  rfl

theorem cut_append {c : Char} {before : List Char} (absent : c ∉ before) (after : List Char) :
    cut c (before ++ c :: after) = (before, after) := by
  have all : ∀ d ∈ before, (decide (d ≠ c)) = true := by
    intro d member
    exact decide_eq_true fun same => absent (same ▸ member)
  rw [cut, List.takeWhile_append_of_pos all, List.dropWhile_append_of_pos all]
  simp

/-- The value of a numeral, part by part. -/
theorem magnitude_eq {text mantissa exponent whole fraction : List Char}
    (plain : text.head? ≠ some '-') (marked : cut 'e' text = (mantissa, exponent))
    (pointed : cut '.' mantissa = (whole, fraction)) :
    magnitude text =
      Text.decimalValue (whole ++ fraction) * 10 ^ (integerValue exponent - fraction.length) := by
  simp only [magnitude, unsigned_of_ne plain, marked, pointed]

theorem magnitude_negative {text : List Char} (plain : text.head? ≠ some '-') :
    magnitude ('-' :: text) = magnitude text := by
  simp only [magnitude, unsigned_of_ne plain]
  rfl

/-- The value of a decimal. -/
def value (d : Decimal) : ℚ := Text.decimalValue d.digits * 10 ^ (d.point - d.digits.length)

theorem shift (n places : Nat) (exponent : Int) :
    ((n * 10 ^ places : Nat) : ℚ) * 10 ^ exponent = n * 10 ^ (exponent + places) := by
  rw [zpow_add₀ (by norm_num), zpow_natCast]
  push_cast
  ring

theorem trailing_zeros (digits : List Char) :
    ∃ places,
      digits = (digits.reverse.dropWhile (· == '0')).reverse ++ DoubleFormat.zeros places := by
  have zeros : digits.reverse.takeWhile (· == '0') =
      DoubleFormat.zeros (digits.reverse.takeWhile (· == '0')).length := by
    refine List.eq_replicate_of_mem fun c member => ?_
    simpa using List.mem_takeWhile_imp member
  refine ⟨(digits.reverse.takeWhile (· == '0')).length, ?_⟩
  rw [← List.reverse_inj, List.reverse_append, List.reverse_reverse, DoubleFormat.zeros,
    List.reverse_replicate, ← DoubleFormat.zeros, ← zeros, List.takeWhile_append_dropWhile]

/-- Dropping the zeros at the end of a coefficient does not change the value. -/
theorem value_ofCoefficient (coefficient : Nat) (exponent : Int) :
    value (.ofCoefficient coefficient exponent) = coefficient * 10 ^ exponent := by
  obtain ⟨places, all⟩ := trailing_zeros (Nat.toDigits 10 coefficient)
  simp only [value, Decimal.ofCoefficient]
  generalize ((Nat.toDigits 10 coefficient).reverse.dropWhile (· == '0')).reverse = kept at all
  have coefficient_eq : coefficient = Text.decimalValue kept * 10 ^ places := by
    rw [← decimalValue_toDigits coefficient, all, decimalValue_append, decimalValue_zeros,
      DoubleFormat.zeros, List.length_replicate, Nat.add_zero]
  have length : ((Nat.toDigits 10 coefficient).length : Int) = kept.length + places := by
    rw [all, List.length_append, DoubleFormat.zeros, List.length_replicate]
    exact Int.natCast_add _ _
  conv_rhs => rw [coefficient_eq, shift]
  congr 2
  omega

theorem head?_ne_minus {first : List Char} (digits : Digits first) (nonempty : first ≠ [])
    (rest : List Char) : (first ++ rest).head? ≠ some '-' := by
  cases first with
  | nil => exact absurd rfl nonempty
  | cons c first =>
    intro minus
    have same : c = '-' := Option.some.inj minus
    exact not_mem_of_digits digits (c := '-') rfl (same ▸ List.mem_cons_self)

theorem not_mem_fraction {whole fraction : List Char} (wholeDigits : Digits whole)
    (fractionDigits : Digits fraction) : 'e' ∉ whole ++ '.' :: fraction := by
  have left : 'e' ∉ whole := not_mem_of_digits wholeDigits rfl
  have right : 'e' ∉ fraction := not_mem_of_digits fractionDigits rfl
  simp [left, right]

/-- Numerals without exponent. -/
theorem magnitude_fraction {whole fraction : List Char} (wholeDigits : Digits whole)
    (nonempty : whole ≠ []) (fractionDigits : Digits fraction) :
    magnitude (whole ++ '.' :: fraction) =
      Text.decimalValue (whole ++ fraction) * 10 ^ (-fraction.length : Int) := by
  have marked := cut_of_not_mem (not_mem_fraction wholeDigits fractionDigits)
  have pointed := cut_append (not_mem_of_digits wholeDigits (c := '.') rfl) fraction
  rw [magnitude_eq (head?_ne_minus wholeDigits nonempty _) marked pointed]
  have absent : integerValue [] = 0 := rfl
  rw [absent, zero_sub]

/-- Numerals with an exponent. -/
theorem magnitude_exponent {mantissa whole fraction : List Char}
    (plain : mantissa.head? ≠ some '-') (unmarked : 'e' ∉ mantissa)
    (pointed : cut '.' mantissa = (whole, fraction)) (exponent : Int) :
    magnitude (mantissa ++ 'e' :: (toString exponent).toList) =
      Text.decimalValue (whole ++ fraction) * 10 ^ (exponent - fraction.length) := by
  have first : (mantissa ++ 'e' :: (toString exponent).toList).head? ≠ some '-' := by
    cases mantissa with
    | nil => simp
    | cons c mantissa => simpa using plain
  rw [magnitude_eq first (cut_append unmarked _) pointed, integerValue_toString]

example : magnitude "-12.50e-3".toList = 1 / 80 := by cbv

/-- Positional notation has the value of its decimal. -/
theorem magnitude_positional {d : Decimal} (writable : Writable d) :
    magnitude (DoubleFormat.positional d) = value d := by
  obtain ⟨whole, fraction, before, after, text, ⟨wholeDigits, nonempty⟩, ⟨fractionDigits, _⟩,
    parts, length⟩ := positional_parts writable
  have digits : Text.decimalValue (whole ++ fraction) =
      Text.decimalValue d.digits * 10 ^ after := by
    rw [parts, decimalValue_append, decimalValue_append, decimalValue_zeros, decimalValue_zeros,
      Nat.zero_mul, Nat.zero_add, Nat.add_zero, DoubleFormat.zeros, List.length_replicate]
  rw [text, magnitude_fraction wholeDigits nonempty fractionDigits, digits, shift, value]
  congr 2
  omega

/-- Scientific notation has the value of its decimal. -/
theorem magnitude_scientific {format : DoubleFormat} (plus : format.signsPositive = false)
    {d : Decimal} (digits : Digits d.digits) (nonempty : d.digits ≠ []) :
    magnitude (format.scientific d) = value d := by
  simp only [DoubleFormat.scientific, plus, Bool.false_eq_true, false_and, if_false, value]
  cases all : d.digits with
  | nil => exact absurd all nonempty
  | cons first rest =>
    rw [all] at digits
    have single : Digits [first] := fun c member => digits c (by simp_all)
    cases rest with
    | nil =>
      have pointed := cut_of_not_mem (not_mem_of_digits single (c := '.') rfl)
      have read := magnitude_exponent (head?_ne_minus single (by simp) [])
        (not_mem_of_digits single rfl) pointed (d.point - 1)
      refine read.trans ?_
      simp
    | cons second rest =>
      have fraction : Digits (second :: rest) := fun c member => digits c (by simp_all)
      have pointed := cut_append (not_mem_of_digits single (c := '.') rfl) (second :: rest)
      have unmarked := not_mem_fraction single fraction
      have read := magnitude_exponent (head?_ne_minus single (by simp) ('.' :: second :: rest))
        unmarked pointed (d.point - 1)
      refine read.trans ?_
      rw [List.singleton_append]
      congr 2
      simp
      omega

theorem rounds_zero : Rounds (.ofMagnitude false 0) 0 := by
  have interval : (Double.ofMagnitude false 0).interval = (0, 2, true) := by decide
  simp only [Rounds, interval, if_true]
  constructor
  · simp
  · positivity

/-- The shortest decimal rounds to the number, or to zero if none is found. -/
theorem shortest_rounds (tie : TieRule) (x : Double) :
    ∃ y : Double, y.magnitude ≤ x.magnitude ∧ Rounds y (value (x.shortest tie)) := by
  have found : ∀ left exponent, ∃ y : Double, y.magnitude ≤ x.magnitude ∧
      Rounds y (value (x.shortestFrom tie exponent left)) := by
    intro left
    induction left with
    | zero =>
      intro exponent
      refine ⟨.ofMagnitude false 0, Nat.zero_le _, ?_⟩
      rw [Double.shortestFrom, value_ofCoefficient]
      simpa using rounds_zero
    | succ left ih =>
      intro exponent
      simp only [Double.shortestFrom]
      cases grid : x.onGrid? tie exponent with
      | none => exact ih (exponent - 1)
      | some coefficient =>
        refine ⟨x, Nat.le_refl _, ?_⟩
        rw [value_ofCoefficient]
        exact (reads_iff x coefficient exponent).mp (onGrid?_reads grid)
  exact found 17 _

theorem unsigned_rounds {format : DoubleFormat} (plus : format.signsPositive = false)
    (least : format.leastPoint ≤ 1) (greatest : 1 ≤ format.greatestPoint) (x : Double) :
    ∃ y : Double, y.magnitude ≤ x.magnitude ∧ Rounds y (magnitude (format.unsigned x)) := by
  simp only [DoubleFormat.unsigned]
  split
  next =>
    refine ⟨.ofMagnitude false 0, Nat.zero_le _, ?_⟩
    have read := magnitude_fraction digits_zero (by simp) digits_zero
    have zero : Text.decimalValue (['0'] ++ ['0']) = 0 := rfl
    rw [zero, Nat.cast_zero, zero_mul] at read
    exact read ▸ rounds_zero
  next nonzero =>
    have writable := shortest_writable (Bool.eq_false_iff.mpr nonzero) format.tie
    obtain ⟨y, bound, rounds⟩ := shortest_rounds format.tie x
    refine ⟨y, bound, ?_⟩
    split
    next => rwa [magnitude_positional writable]
    next outside =>
      have nonempty : (x.shortest format.tie).digits ≠ [] := by
        intro empty
        rw [writable.empty empty] at outside
        exact outside ⟨least, greatest⟩
      rwa [magnitude_scientific plus writable.digits nonempty]

/-- The text of a number rounds to a number of no greater magnitude. -/
theorem write_rounds (x : Double) :
    ∃ y : Double, y.magnitude ≤ x.magnitude ∧
      Rounds y (magnitude (Literal.numberFormat.write x).toList) := by
  have rounded : ∃ y : Double, y.magnitude ≤ x.magnitude ∧
      Rounds y (magnitude (Literal.numberFormat.unsigned x)) :=
    unsigned_rounds rfl (by decide) (by decide) x
  obtain ⟨y, bound, rounds⟩ := rounded
  refine ⟨y, bound, ?_⟩
  rw [DoubleFormat.write, String.toList_ofList]
  split
  next =>
    -- Text that begins with a second sign would not read as a numeral.
    have plain : (Literal.numberFormat.unsigned x).head? ≠ some '-' := by
      intro first
      obtain ⟨rest, text⟩ := List.head?_eq_some_iff.mp first
      have run : (Reading.sign.run (Literal.numberFormat.unsigned x)).IsFloating :=
        run_unsigned (Or.inr rfl) rfl (by decide) (by decide) x
      rw [text, Reading.run_cons] at run
      have broken := Reading.run_broken rest
      rcases run with read | read
      · exact Reading.noConfusion (broken.symm.trans read)
      · exact Reading.noConfusion (broken.symm.trans read)
    rwa [magnitude_negative plain]
  next => exact rounds

end Overloads.Proofs.NumeralValues
