import Overloads.Value.Literal

/-! Calls that make up the whole body of an overload. -/

namespace Overloads

/-- An argument passes a parameter of the calling overload on, or a literal. A literal knows the
primitive of the slot that receives it, and whether that slot wraps it. -/
inductive Argument
  | param (name : String)
  | literal (value : Literal) (wraps : Bool) (slot : Option Primitive)
deriving DecidableEq

namespace Argument

def render : Argument → String
  | .param name => name
  | .literal value _ slot => value.render slot

def isLiteral : Argument → Bool
  | .param _ => false
  | .literal _ _ _ => true

end Argument

structure Call where
  target : String
  args : List Argument
deriving DecidableEq

namespace Call

def renderArgs (call : Call) : String := ", ".intercalate (call.args.map Argument.render)

def literalCount (call : Call) : Nat := call.args.countP Argument.isLiteral

end Call
end Overloads
