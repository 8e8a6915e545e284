/-! Binary floating point numbers of 64 bits, kept as their bits. The value of a finite
number is an integer times a power of two, so rounding and comparing need natural numbers
only. -/

namespace Overloads

structure Double where
  bits : UInt64
deriving DecidableEq

namespace Double

/-- All bits but the sign. -/
def magnitude (x : Double) : Nat := x.bits.toNat % 0x8000000000000000

def isNegative (x : Double) : Bool := 0x8000000000000000 ≤ x.bits.toNat

/-- The magnitude of the two infinities; larger ones are not numbers. -/
def infiniteMagnitude : Nat := 0x7ff0000000000000

def isNaN (x : Double) : Bool := infiniteMagnitude < x.magnitude

def isInfinite (x : Double) : Bool := x.magnitude == infiniteMagnitude

def isFinite (x : Double) : Bool := x.magnitude < infiniteMagnitude

def isZero (x : Double) : Bool := x.magnitude == 0

/-- The largest finite number of 32-bit floating point has this magnitude. -/
def largestSingleMagnitude : Nat := 0x47efffffe0000000

def ofMagnitude (negative : Bool) (magnitude : Nat) : Double :=
  ⟨.ofNat (magnitude + if negative then 0x8000000000000000 else 0)⟩

def withSign (x : Double) (negative : Bool) : Double := ofMagnitude negative x.magnitude

/-- The integer `m` and the exponent `q` with value `m * 2 ^ q`, the sign left out. -/
def parts (x : Double) : Nat × Int :=
  let field : Nat := x.magnitude / 0x10000000000000
  let fraction : Nat := x.magnitude % 0x10000000000000
  if field = 0 then (fraction, -1074) else (0x10000000000000 + fraction, (field : Int) - 1075)

/-- A quotient rounded to the nearest integer, a half to the even neighbour. -/
def roundedQuotient (num den : Nat) : Nat :=
  let floor := num / den
  let twice := 2 * (num % den)
  if twice < den then floor
  else if den < twice then floor + 1
  else floor + floor % 2

/-- The non-negative number nearest to `num / den`, a tie going to the even significand. -/
def ofRatio (num den : Nat) : Double :=
  if num = 0 then ofMagnitude false 0
  else
    let scaled (q : Int) : Nat × Nat := (num * Nat.pow 2 (-q).toNat, den * Nat.pow 2 q.toNat)
    let guess : Int := max ((num.log2 : Int) - den.log2 - 53) (-1074)
    let (n, d) := scaled guess
    let q := if n / d < 0x20000000000000 then guess else guess + 1
    let (n, d) := scaled q
    let magnitude := (q + 1074).toNat * 0x10000000000000 + roundedQuotient n d
    ofMagnitude false (min magnitude infiniteMagnitude)

/-- The ratio of natural numbers that a finite number stands for, the sign left out. -/
def ratio (x : Double) : Nat × Nat :=
  let (m, q) := x.parts
  (m * Nat.pow 2 q.toNat, Nat.pow 2 (-q).toNat)

def ofNat (n : Nat) : Double := ofRatio n 1

def ofInt (n : Int) : Double := (ofNat n.natAbs).withSign (n < 0)

def mul (x y : Double) : Double :=
  ofRatio (x.ratio.1 * y.ratio.1) (x.ratio.2 * y.ratio.2)

/-- The rounded quotient of two non-negative finite numbers, the second not zero. -/
def div (x y : Double) : Double :=
  ofRatio (x.ratio.1 * y.ratio.2) (x.ratio.2 * y.ratio.1)

end Double
end Overloads
