import Overloads.Value.Primitive

/-! Value types and the way a declaration of one is stored: bare, or inside a wrapper that may
be empty. -/

namespace Overloads

inductive ValueType
  | primitive (p : Primitive)
  | user (name : String)
deriving DecidableEq

namespace ValueType

def name : ValueType → String
  | .primitive p => p.keyword
  | .user name => name

def primitive? : ValueType → Option Primitive
  | .primitive p => some p
  | .user _ => none

end ValueType

/-- The type of a declaration as it is written: a value type or a reference type. -/
inductive DeclaredType
  | value (name : String)
  | reference (name : String)
deriving DecidableEq

namespace DeclaredType

def name : DeclaredType → String
  | .value name | .reference name => name

def isReference : DeclaredType → Bool
  | .value _ => false
  | .reference _ => true

end DeclaredType

inductive NullableStyle
  | suffix
  | generic
deriving DecidableEq

inductive Storage
  | bare (type : ValueType)
  | wrapped (type : ValueType)
deriving DecidableEq

namespace Storage

def valueType : Storage → ValueType
  | .bare type | .wrapped type => type

def isWrapped : Storage → Bool
  | .bare _ => false
  | .wrapped _ => true

def primitive? (s : Storage) : Option Primitive := s.valueType.primitive?

def render (style : NullableStyle) : Storage → String
  | .bare type => type.name
  | .wrapped type =>
    match style with
    | .suffix => type.name ++ "?"
    | .generic => "Nullable<" ++ type.name ++ ">"

def display (s : Storage) : String := s.render .suffix

end Storage
end Overloads
