import Overloads.Source.Declaration

/-! Declarations built step by step. -/

namespace Overloads

namespace Parameter

def value (name type : String) : Parameter := { name, type := .value type }

def reference (name type : String) : Parameter := { name, type := .reference type }

def asNullable (p : Parameter) : Parameter := { p with nullable := true }

def withDefault (p : Parameter) (literal : Literal) : Parameter := { p with default := some literal }

def withSpan (p : Parameter) (span : Span) : Parameter := { p with span := some span }

end Parameter

namespace Method

def addParam (m : Method) (p : Parameter) : Method := { m with params := m.params ++ [p] }

def returns (m : Method) (type : DeclaredType) : Method := { m with returnType := some { type } }

def withModifiers (m : Method) (modifiers : Modifiers) : Method := { m with modifiers }

def withBody (m : Method) (body : MethodBody) : Method := { m with body }

def withSpan (m : Method) (span : Span) : Method := { m with span := some span }

end Method

namespace Field

def value (name type : String) : Field := { name, type := .value type }

def asNullable (f : Field) : Field := { f with nullable := true }

def asStatic (f : Field) : Field := { f with modifiers := { f.modifiers with isStatic := true } }

def withInitializer (f : Field) (literal : Literal) : Field :=
  { f with initializer := some literal }

end Field

namespace TypeDecl

def addField (t : TypeDecl) (f : Field) : TypeDecl := { t with fields := t.fields ++ [f] }

def addMethod (t : TypeDecl) (m : Method) : TypeDecl := { t with methods := t.methods ++ [m] }

end TypeDecl

def Program.addType (p : Program) (t : TypeDecl) : Program := { p with types := p.types ++ [t] }

end Overloads
