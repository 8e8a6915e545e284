/-! The value types that every target has built in. -/

namespace Overloads

inductive Primitive
  | int
  | long
  | byte
  | double
  | single
  | bool
  | char
deriving DecidableEq

namespace Primitive

def all : List Primitive := [.int, .long, .byte, .double, .single, .bool, .char]

def keyword : Primitive → String
  | .int => "int"
  | .long => "long"
  | .byte => "byte"
  | .double => "double"
  | .single => "float"
  | .bool => "bool"
  | .char => "char"

/-- The names that declarations may use. The keyword is always one of them. -/
def spellings : Primitive → List String
  | .int => ["Int", "int", "Int32"]
  | .long => ["Long", "long", "Int64"]
  | .byte => ["Byte", "byte", "UInt8"]
  | .double => ["Float", "double", "Double"]
  | .single => ["Single", "float"]
  | .bool => ["Bool", "bool", "Boolean"]
  | .char => ["Char", "char"]

def ofSpelling? (name : String) : Option Primitive := all.find? (·.spellings.contains name)

def isNumeric : Primitive → Bool
  | .bool | .char => false
  | _ => true

def isFloating : Primitive → Bool
  | .double | .single => true
  | _ => false

/-- The least and the greatest integer literal that may be stored. -/
def integerRange? : Primitive → Option (Int × Int)
  | .int => some (-0x80000000, 0x7fffffff)
  | .byte => some (0, 0xff)
  | .long | .double | .single => some (-0x8000000000000000, 0x7fffffffffffffff)
  | .bool | .char => none

end Primitive
end Overloads
