import Overloads.Number.Double

/-! The decimal text of a floating point number. Of all decimals that read back as the number,
the shortest are taken and of those the nearest. -/

namespace Overloads

/-- The number `0.d₁d₂… * 10 ^ point` with the digits `d₁d₂…`, the first of them not zero. -/
structure Decimal where
  digits : List Char
  point : Int
deriving DecidableEq

/-- Where a decimal lies exactly between two neighbours, which one is taken. -/
inductive TieRule
  | up
  | even
deriving DecidableEq

namespace Decimal

/-- The position of the decimal point of `num / den` before its first digit. -/
def pointOf (num den : Nat) : Int :=
  if den ≤ num then (Nat.toDigits 10 (num / den)).length
  else
    let least := (den + num - 1) / num
    1 - ((Nat.toDigits 10 (least - 1)).length : Int)

/-- The decimal `coefficient * 10 ^ exponent`, trailing zeros dropped. -/
def ofCoefficient (coefficient : Nat) (exponent : Int) : Decimal :=
  let all := Nat.toDigits 10 coefficient
  ⟨(all.reverse.dropWhile (· == '0')).reverse, exponent + all.length⟩

end Decimal

namespace Double

/-- The ends of the interval of reals that round to the number, in units of a quarter of its
last place, and whether the ends belong to it. -/
def interval (x : Double) : Nat × Nat × Bool :=
  let (m, _) := x.parts
  let below := if m = 0x10000000000000 ∧ 0x20000000000000 ≤ x.magnitude then 1 else 2
  (4 * m - below, 4 * m + 2, m % 2 = 0)

/-- Whether `coefficient * 10 ^ exponent` lies in the interval of the number. -/
def reads (x : Double) (coefficient : Nat) (exponent : Int) : Bool :=
  let (_, q) := x.parts
  let (low, high, closed) := x.interval
  let quarter (n : Nat) : Nat := n * Nat.pow 2 (q - 2).toNat * Nat.pow 10 (-exponent).toNat
  let value := coefficient * Nat.pow 10 exponent.toNat * Nat.pow 2 (2 - q).toNat
  if closed then quarter low ≤ value && value ≤ quarter high
  else quarter low < value && value < quarter high

/-- The coefficient on the grid of multiples of `10 ^ exponent` that reads back as the number
and is nearest to it. -/
def onGrid? (tie : TieRule) (x : Double) (exponent : Int) : Option Nat :=
  let (num, den) := x.ratio
  let n := num * Nat.pow 10 (-exponent).toNat
  let d := den * Nat.pow 10 exponent.toNat
  let floor := n / d
  match x.reads floor exponent, x.reads (floor + 1) exponent with
  | true, true =>
    let twice := 2 * (n % d)
    if twice < d then some floor
    else if d < twice then some (floor + 1)
    else
      match tie with
      | .up => some (floor + 1)
      | .even => some (floor + floor % 2)
  | true, false => some floor
  | false, true => some (floor + 1)
  | false, false => none

/-- Tries one digit more at a time, `left` of them at most. -/
def shortestFrom (tie : TieRule) (x : Double) (exponent : Int) : Nat → Decimal
  | 0 => .ofCoefficient 0 0
  | left + 1 =>
    match x.onGrid? tie exponent with
    | some coefficient => .ofCoefficient coefficient exponent
    | none => shortestFrom tie x (exponent - 1) left

/-- The shortest decimal that reads back as the number, for a finite number other than zero.
Seventeen digits always suffice. -/
def shortest (tie : TieRule) (x : Double) : Decimal :=
  let (num, den) := x.ratio
  shortestFrom tie x (Decimal.pointOf num den - 1) 17

end Double

/-- How a format writes its floating point numbers: positional notation is used while the
decimal point lies within the given bounds, scientific notation outside of them. The last field
says whether a positive exponent has a sign. -/
structure DoubleFormat where
  tie : TieRule
  leastPoint : Int
  greatestPoint : Int
  signsPositive : Bool

namespace DoubleFormat

def zeros (n : Nat) : List Char := List.replicate n '0'

/-- Positional notation, with at least one digit on each side of the point. -/
def positional (d : Decimal) : List Char :=
  let size : Int := d.digits.length
  if d.point ≤ 0 then '0' :: '.' :: zeros (-d.point).toNat ++ d.digits
  else if d.point < size then d.digits.take d.point.toNat ++ '.' :: d.digits.drop d.point.toNat
  else d.digits ++ zeros (d.point - size).toNat ++ ['.', '0']

/-- Scientific notation: one digit before the point, and no point without further digits. -/
def scientific (format : DoubleFormat) (d : Decimal) : List Char :=
  let sign := if format.signsPositive ∧ 1 ≤ d.point then ['+'] else []
  let exponent := 'e' :: sign ++ (toString (d.point - 1)).toList
  match d.digits with
  | [] => exponent
  | [first] => first :: exponent
  | first :: rest => first :: '.' :: rest ++ exponent

def unsigned (format : DoubleFormat) (x : Double) : List Char :=
  if x.isZero then ['0', '.', '0']
  else
    let d := x.shortest format.tie
    if format.leastPoint ≤ d.point ∧ d.point ≤ format.greatestPoint then positional d
    else format.scientific d

/-- The text of a finite number; negative zero keeps its sign. -/
def write (format : DoubleFormat) (x : Double) : String :=
  .ofList (if x.isNegative then '-' :: format.unsigned x else format.unsigned x)

end DoubleFormat
end Overloads
