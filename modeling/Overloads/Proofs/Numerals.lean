import Overloads.Value.Literal
import Mathlib.Data.List.TakeWhile

/-! Numerals, read by a small automaton. The text of an integer reads as digits alone, and the
text of a finite floating point number always has a fraction or an exponent. -/

namespace Overloads.Proofs.Numerals

/-- How far a numeral has been read. -/
inductive Reading
  | start
  | sign
  | whole
  | point
  | fraction
  | mark
  | markSign
  | exponent
  | suffix
  | broken
deriving DecidableEq

namespace Reading

def step (reading : Reading) (c : Char) : Reading :=
  match reading with
  | .start => if c.isDigit then .whole else if c = '-' then .sign else .broken
  | .sign => if c.isDigit then .whole else .broken
  | .whole =>
    if c.isDigit then .whole
    else if c = '.' then .point
    else if c = 'e' then .mark
    else if c = 'f' then .suffix
    else .broken
  | .point => if c.isDigit then .fraction else .broken
  | .fraction =>
    if c.isDigit then .fraction
    else if c = 'e' then .mark
    else if c = 'f' then .suffix
    else .broken
  | .mark => if c.isDigit then .exponent else if c = '-' ∨ c = '+' then .markSign else .broken
  | .markSign => if c.isDigit then .exponent else .broken
  | .exponent => if c.isDigit then .exponent else if c = 'f' then .suffix else .broken
  | .suffix | .broken => .broken

def run (reading : Reading) (text : List Char) : Reading := text.foldl step reading

/-- Where the first digit is still to come. -/
def IsOpen (reading : Reading) : Prop := reading = .start ∨ reading = .sign

/-- A numeral that ends here is a floating one. -/
def IsFloating (reading : Reading) : Prop := reading = .fraction ∨ reading = .exponent

theorem run_append (reading : Reading) (first second : List Char) :
    reading.run (first ++ second) = (reading.run first).run second := List.foldl_append

theorem run_cons (reading : Reading) (c : Char) (text : List Char) :
    reading.run (c :: text) = (reading.step c).run text := rfl

theorem run_broken (text : List Char) : Reading.broken.run text = .broken := by
  induction text with
  | nil => rfl
  | cons c text ih => exact ih

end Reading
open Reading

def Digits (text : List Char) : Prop := ∀ c ∈ text, c.isDigit = true

theorem run_digits {before after : Reading} {text : List Char} (digits : Digits text)
    (nonempty : text ≠ []) (enter : ∀ c, c.isDigit = true → before.step c = after)
    (stay : ∀ c, c.isDigit = true → after.step c = after) : before.run text = after := by
  have more : ∀ {rest : List Char}, Digits rest → after.run rest = after := by
    intro rest digits
    induction rest with
    | nil => rfl
    | cons c rest ih =>
      rw [run_cons, stay c (digits c (by simp))]
      exact ih fun d member => digits d (List.mem_cons_of_mem c member)
  cases text with
  | nil => exact False.elim (nonempty rfl)
  | cons c rest =>
    rw [run_cons, enter c (digits c (by simp))]
    exact more fun d member => digits d (List.mem_cons_of_mem c member)

theorem run_whole {before : Reading} (isOpen : IsOpen before) {text : List Char}
    (digits : Digits text) (nonempty : text ≠ []) : before.run text = .whole := by
  refine run_digits digits nonempty ?_ fun c digit => by simp [step, digit]
  intro c digit
  rcases isOpen with rfl | rfl <;> simp [step, digit]

theorem run_fraction {before : Reading} (isOpen : IsOpen before) {whole fraction : List Char}
    (wholeDigits : Digits whole) (wholeNonempty : whole ≠ []) (fractionDigits : Digits fraction)
    (fractionNonempty : fraction ≠ []) : before.run (whole ++ '.' :: fraction) = .fraction := by
  rw [run_append, run_whole isOpen wholeDigits wholeNonempty, run_cons]
  exact run_digits fractionDigits fractionNonempty (fun c digit => by simp [step, digit])
    fun c digit => by simp [step, digit]

theorem toDigits_digits (n : Nat) : Digits (Nat.toDigits 10 n) :=
  fun _ member => Nat.isDigit_of_mem_toDigits (by decide) (by decide) member

/-- The text of an integer: digits, after a minus sign if it is negative. -/
theorem toString_int (n : Int) :
    ∃ digits, Digits digits ∧ digits ≠ [] ∧
      ((toString n).toList = digits ∨ (toString n).toList = '-' :: digits) := by
  rw [Int.toString_eq_repr, Int.repr_eq_if]
  split
  · exact ⟨_, toDigits_digits n.toNat, Nat.toDigits_ne_nil, Or.inl Nat.toList_repr⟩
  · refine ⟨_, toDigits_digits (-n).toNat, Nat.toDigits_ne_nil, Or.inr ?_⟩
    rw [String.toList_append, Nat.toList_repr]
    rfl

theorem run_int (n : Int) : Reading.start.run (toString n).toList = .whole := by
  obtain ⟨digits, all, nonempty, text | text⟩ := toString_int n
  · rw [text]
    exact run_whole (Or.inl rfl) all nonempty
  · rw [text, run_cons]
    exact run_whole (Or.inr rfl) all nonempty

theorem run_exponent {before : Reading} (marked : before.step 'e' = .mark) (n : Int) :
    before.run ('e' :: (toString n).toList) = .exponent := by
  have rest : ∀ {ready : Reading} {digits : List Char}, ready = .mark ∨ ready = .markSign →
      Digits digits → digits ≠ [] → ready.run digits = .exponent := by
    intro ready digits cases all nonempty
    refine run_digits all nonempty ?_ fun c digit => by simp [step, digit]
    intro c digit
    rcases cases with rfl | rfl <;> simp [step, digit]
  rw [run_cons, marked]
  obtain ⟨digits, all, nonempty, text | text⟩ := toString_int n
  · rw [text]
    exact rest (Or.inl rfl) all nonempty
  · rw [text, run_cons]
    exact rest (Or.inr rfl) all nonempty

/-- A decimal that a format can write as a number: without digits it stands for zero. -/
structure Writable (d : Decimal) : Prop where
  digits : Digits d.digits
  empty : d.digits = [] → d.point = 1

theorem ofCoefficient_digits (coefficient : Nat) (exponent : Int) :
    Digits (Decimal.ofCoefficient coefficient exponent).digits := by
  intro c member
  have kept := List.mem_reverse.mp member
  have inside := (List.dropWhile_sublist _).subset kept
  exact toDigits_digits coefficient c (List.mem_reverse.mp inside)

theorem ofCoefficient_ne_nil {coefficient : Nat} (nonzero : coefficient ≠ 0) (exponent : Int) :
    (Decimal.ofCoefficient coefficient exponent).digits ≠ [] := by
  intro empty
  have zeros : ∀ c ∈ Nat.toDigits 10 coefficient, c = '0' := by
    have dropped := List.reverse_eq_nil_iff.mp empty
    rw [List.dropWhile_eq_nil_iff] at dropped
    intro c member
    simpa using dropped c (List.mem_reverse.mpr member)
  have value : Nat.ofDigitChars 10 (Nat.toDigits 10 coefficient) 0 = 0 := by
    rw [List.eq_replicate_of_mem zeros, Nat.ofDigitChars_replicate_zero, Nat.mul_zero]
  rw [Nat.ofDigitChars_ten_toDigits] at value
  exact nonzero value

/-- A number other than zero has a positive significand. -/
theorem parts_positive {x : Double} (nonzero : x.isZero = false) : 0 < x.parts.1 := by
  have magnitude : x.magnitude ≠ 0 := by simpa [Double.isZero] using nonzero
  simp only [Double.parts]
  split
  next small => omega
  next => omega

/-- Zero does not read back as another number. -/
theorem reads_zero {x : Double} (nonzero : x.isZero = false) (exponent : Int) :
    x.reads 0 exponent = false := by
  have positive := parts_positive nonzero
  have low : 0 < x.interval.1 := by
    simp only [Double.interval]
    split <;> omega
  have scaled :
      0 < x.interval.1 * Nat.pow 2 (x.parts.2 - 2).toNat * Nat.pow 10 (-exponent).toNat :=
    Nat.mul_pos (Nat.mul_pos low (Nat.two_pow_pos _)) (Nat.pow_pos (by decide))
  simp only [Double.reads, Nat.zero_mul]
  split
  · simp only [Bool.and_eq_false_iff, decide_eq_false_iff_not]
    omega
  · simp only [Bool.and_eq_false_iff, decide_eq_false_iff_not]
    omega

/-- A coefficient is taken from the grid only if it reads back as the number. -/
theorem onGrid?_reads {tie : TieRule} {x : Double} {exponent : Int} {coefficient : Nat}
    (found : x.onGrid? tie exponent = some coefficient) : x.reads coefficient exponent = true := by
  unfold Double.onGrid? at found
  dsimp only at found
  split at found
  next below above =>
    split at found
    · cases found; exact below
    · split at found
      · cases found; exact above
      · cases tie with
        | up => cases found; exact above
        | even =>
          cases found
          rcases Nat.mod_two_eq_zero_or_one (x.ratio.1 * Nat.pow 10 (-exponent).toNat /
            (x.ratio.2 * Nat.pow 10 exponent.toNat)) with parity | parity
          · rw [parity]; exact below
          · rw [parity]; exact above
  next below _ => cases found; exact below
  next _ above => cases found; exact above
  next => cases found

theorem onGrid?_ne_zero {x : Double} (nonzero : x.isZero = false) {tie : TieRule} {exponent : Int}
    {coefficient : Nat} (found : x.onGrid? tie exponent = some coefficient) : coefficient ≠ 0 := by
  rintro rfl
  have reads := onGrid?_reads found
  rw [reads_zero nonzero exponent] at reads
  cases reads

theorem shortest_writable {x : Double} (nonzero : x.isZero = false) (tie : TieRule) :
    Writable (x.shortest tie) := by
  have found : ∀ left exponent, Writable (x.shortestFrom tie exponent left) := by
    intro left
    induction left with
    | zero => exact fun _ => ⟨ofCoefficient_digits 0 0, fun _ => rfl⟩
    | succ left ih =>
      intro exponent
      simp only [Double.shortestFrom]
      cases grid : x.onGrid? tie exponent with
      | none => exact ih (exponent - 1)
      | some coefficient =>
        have positive := onGrid?_ne_zero nonzero grid
        exact ⟨ofCoefficient_digits _ _,
          fun empty => False.elim (ofCoefficient_ne_nil positive exponent empty)⟩
  exact found 17 _

theorem zeros_digits (n : Nat) : Digits (DoubleFormat.zeros n) := by
  intro c member
  rw [List.eq_of_mem_replicate member]
  rfl

theorem digits_append {first second : List Char} (left : Digits first)
    (right : Digits second) : Digits (first ++ second) := by
  intro c member
  rcases List.mem_append.mp member with inside | inside
  · exact left c inside
  · exact right c inside

theorem digits_zero : Digits ['0'] := by simp [Digits]

/-- Positional notation is the digits of its decimal, with zeros on either side if the point lies
outside of them. -/
theorem positional_parts {d : Decimal} (writable : Writable d) :
    ∃ whole fraction before after, DoubleFormat.positional d = whole ++ '.' :: fraction ∧
      (Digits whole ∧ whole ≠ []) ∧ (Digits fraction ∧ fraction ≠ []) ∧
      whole ++ fraction = DoubleFormat.zeros before ++ (d.digits ++ DoubleFormat.zeros after) ∧
      (fraction.length : Int) = d.digits.length + after - d.point := by
  simp only [DoubleFormat.positional]
  split
  next low =>
    have nonempty : d.digits ≠ [] := by
      intro empty
      have point := writable.empty empty
      omega
    refine ⟨['0'], DoubleFormat.zeros (-d.point).toNat ++ d.digits, (-d.point).toNat + 1, 0, rfl,
      ⟨digits_zero, by simp⟩, ⟨?_, by simp [nonempty]⟩, ?_, ?_⟩
    · exact digits_append (zeros_digits _) writable.digits
    · simp [DoubleFormat.zeros, List.replicate_succ]
    · simp only [DoubleFormat.zeros, List.length_append, List.length_replicate]
      omega
  next high =>
    split
    next inside =>
      refine ⟨d.digits.take d.point.toNat, d.digits.drop d.point.toNat, 0, 0, rfl, ⟨?_, ?_⟩,
        ⟨?_, ?_⟩, ?_, ?_⟩
      · exact fun c member => writable.digits c (List.mem_of_mem_take member)
      · simp only [ne_eq, ← List.length_eq_zero_iff, List.length_take]
        omega
      · exact fun c member => writable.digits c (List.mem_of_mem_drop member)
      · simp only [ne_eq, ← List.length_eq_zero_iff, List.length_drop]
        omega
      · simp [DoubleFormat.zeros]
      · rw [List.length_drop]
        omega
    next outside =>
      refine ⟨d.digits ++ DoubleFormat.zeros (d.point - d.digits.length).toNat, ['0'], 0,
        (d.point - d.digits.length).toNat + 1, by simp, ⟨?_, ?_⟩, ⟨digits_zero, by simp⟩, ?_, ?_⟩
      · exact digits_append writable.digits (zeros_digits _)
      · intro empty
        obtain ⟨noDigits, noZeros⟩ := List.append_eq_nil_iff.mp empty
        have point := writable.empty noDigits
        simp [DoubleFormat.zeros, noDigits, point] at noZeros
      · simp [DoubleFormat.zeros, List.replicate_succ']
      · simp only [List.length_singleton]
        omega

theorem run_positional {before : Reading} (isOpen : IsOpen before) {d : Decimal}
    (writable : Writable d) : before.run (DoubleFormat.positional d) = .fraction := by
  obtain ⟨whole, fraction, _, _, text, ⟨wholeDigits, wholeNonempty⟩,
    ⟨fractionDigits, fractionNonempty⟩, _⟩ := positional_parts writable
  rw [text]
  exact run_fraction isOpen wholeDigits wholeNonempty fractionDigits fractionNonempty

theorem run_scientific {before : Reading} (isOpen : IsOpen before) {format : DoubleFormat}
    (unsigned : format.signsPositive = false) {d : Decimal} (digits : Digits d.digits)
    (nonempty : d.digits ≠ []) : before.run (format.scientific d) = .exponent := by
  have marked : ∀ text, before.run text = .whole ∨ before.run text = .fraction →
      before.run (text ++ 'e' :: (toString (d.point - 1)).toList) = .exponent := by
    intro text reached
    rw [run_append]
    refine run_exponent ?_ (d.point - 1)
    rcases reached with reached | reached <;> rw [reached] <;> rfl
  simp only [DoubleFormat.scientific, unsigned, Bool.false_eq_true, false_and, if_false]
  cases all : d.digits with
  | nil => exact False.elim (nonempty all)
  | cons first rest =>
    rw [all] at digits
    have single : Digits [first] := by simpa [Digits] using digits first (by simp)
    cases rest with
    | nil => exact marked [first] (Or.inl (run_whole isOpen single (by simp)))
    | cons second rest =>
      have more : Digits (second :: rest) := fun c member => digits c (List.mem_cons_of_mem _ member)
      refine marked ([first] ++ '.' :: second :: rest) (Or.inr ?_)
      exact run_fraction isOpen single (by simp) more (by simp)

theorem run_unsigned {before : Reading} (isOpen : IsOpen before) {format : DoubleFormat}
    (unsigned : format.signsPositive = false) (least : format.leastPoint ≤ 1)
    (greatest : 1 ≤ format.greatestPoint) (x : Double) :
    IsFloating (before.run (format.unsigned x)) := by
  simp only [DoubleFormat.unsigned]
  split
  next =>
    exact Or.inl (run_fraction isOpen digits_zero (by simp) digits_zero (by simp))
  next nonzero =>
    have writable := shortest_writable (Bool.eq_false_iff.mpr nonzero) format.tie
    split
    next => exact Or.inl (run_positional isOpen writable)
    next outside =>
      refine Or.inr (run_scientific isOpen unsigned writable.digits ?_)
      intro empty
      rw [writable.empty empty] at outside
      exact outside ⟨least, greatest⟩

/-- Literals of floating point numbers are never mistaken for integers. -/
theorem run_write (x : Double) :
    IsFloating (Reading.start.run (Literal.numberFormat.write x).toList) := by
  rw [DoubleFormat.write, String.toList_ofList]
  split
  · have sign : IsOpen .sign := Or.inr rfl
    exact run_unsigned sign rfl (by decide) (by decide) x
  · exact run_unsigned (Or.inl rfl) rfl (by decide) (by decide) x

end Overloads.Proofs.Numerals
