import Overloads.Source.Call
import Overloads.Value.Slot

/-! The declarations of a program: types with their fields and methods. -/

namespace Overloads

/-- A range of bytes in a source file. -/
structure Span where
  start : UInt32
  stop : UInt32
deriving DecidableEq

inductive Visibility
  | publicMember
  | protectedMember
  | internalMember
  | privateMember
deriving DecidableEq

/-- The keyword of the target; private members have none. -/
def Visibility.keyword? : Visibility → Option String
  | .publicMember => some "public"
  | .protectedMember => some "protected"
  | .internalMember => some "internal"
  | .privateMember => none

structure Modifiers where
  visibility : Visibility := .privateMember
  isStatic : Bool := false
deriving DecidableEq

def Modifiers.publicMember : Modifiers := { visibility := .publicMember }

structure Parameter where
  name : String
  type : DeclaredType
  nullable : Bool := false
  default : Option Literal := none
  span : Option Span := none
deriving DecidableEq

structure ReturnType where
  type : DeclaredType
  nullable : Bool := false
deriving DecidableEq

inductive MethodKind
  | method
  | constructor
deriving DecidableEq

/-- The body of a method: statements of the target, one to a line, or a single call. -/
inductive MethodBody
  | block (lines : List String)
  | forward (call : Call)
deriving DecidableEq

/-- A method without return type returns nothing. -/
structure Method where
  name : String
  params : List Parameter := []
  returnType : Option ReturnType := none
  kind : MethodKind := .method
  modifiers : Modifiers := {}
  body : MethodBody := .block []
  span : Option Span := none
deriving DecidableEq

structure Field where
  name : String
  type : DeclaredType
  nullable : Bool := false
  modifiers : Modifiers := {}
  initializer : Option Literal := none
  span : Option Span := none
deriving DecidableEq

/-- A type that owns fields and methods, in the order of their declaration. -/
structure TypeDecl where
  name : String
  fields : List Field := []
  methods : List Method := []
deriving DecidableEq

/-- A whole program; spans point into the source file, if there is one. -/
structure Program where
  namespaceName : String := ""
  types : List TypeDecl := []
  source : Option String := none
deriving DecidableEq

namespace Parameter

def hasDefault (p : Parameter) : Bool := p.default.isSome

def slot (r : Registry) (p : Parameter) : SlotType := .ofDeclared r p.type p.nullable

end Parameter

def ReturnType.slot (r : Registry) (t : ReturnType) : SlotType := .ofDeclared r t.type t.nullable

def Field.slot (r : Registry) (f : Field) : SlotType := .ofDeclared r f.type f.nullable

namespace Method

def named (name : String) : Method := { name, modifiers := .publicMember }

def constructorOf (owner : String) : Method := { named owner with kind := .constructor }

/-- The longest run of defaulted parameters at the end: those that callers may omit. -/
def optionalCount (m : Method) : Nat := (m.params.reverse.takeWhile Parameter.hasDefault).length

def optionalStart (m : Method) : Nat := m.params.length - m.optionalCount

end Method
end Overloads
