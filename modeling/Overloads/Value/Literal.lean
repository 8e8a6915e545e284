import Overloads.Number.Shortest
import Overloads.Value.Quoted
import Overloads.Value.Storage

/-! Literals that stand as default values: which slots they fit, and their target text. -/

namespace Overloads

inductive Literal
  | int (n : Int64)
  | float (x : Double)
  | bool (b : Bool)
  | char (c : Char)
  | string (s : String)
  | null
deriving DecidableEq

namespace Literal

def isNull : Literal → Bool
  | .null => true
  | _ => false

/-- Whether a literal other than null may be stored in a primitive. A character has to be one
UTF-16 unit, and a finite number has to be within the range of a single. -/
def fitsPrimitive (p : Primitive) : Literal → Bool
  | .int n => p.integerRange?.any fun (least, greatest) => least ≤ n.toInt && n.toInt ≤ greatest
  | .float x =>
    match p with
    | .single => !x.isFinite || x.magnitude ≤ Double.largestSingleMagnitude
    | _ => p.isFloating
  | .bool _ => p == .bool
  | .char c => p == .char && c.toNat ≤ 0xffff
  | .string _ | .null => false

/-- Whether the literal may be stored in a value slot. Null needs a wrapper; everything else is
accepted where the type is the user's own. -/
def fitsValue (s : Storage) : Literal → Bool
  | .null => s.isWrapped
  | literal => s.primitive?.all literal.fitsPrimitive

/-- Only null and strings are literals of reference types. -/
def fitsReference : Literal → Bool
  | .null | .string _ => true
  | _ => false

/-- Positional notation from 1e-4 up to 1e16; a tie goes up. -/
def numberFormat : DoubleFormat := ⟨.up, -3, 16, false⟩

def renderDouble (x : Double) (single : Bool) : String :=
  let owner := if single then "float" else "double"
  if x.isNaN then owner ++ ".NaN"
  else if x.isInfinite then
    owner ++ (if x.isNegative then ".NegativeInfinity" else ".PositiveInfinity")
  else if single then numberFormat.write x ++ "f"
  else numberFormat.write x

/-- The text of the literal in a slot of the given primitive, if it has one. -/
def render (slot : Option Primitive) : Literal → String
  | .int n => toString n.toInt
  | .float x => renderDouble x (slot == some .single)
  | .bool true => "true"
  | .bool false => "false"
  | .char c => .ofList (Quoted.encode '\x27' [c])
  | .string s => .ofList (Quoted.encode '"' s.toList)
  | .null => "null"

def display (literal : Literal) : String := literal.render none

end Literal
end Overloads
