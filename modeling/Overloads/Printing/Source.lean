import Overloads.Lowering.Program
import Overloads.Printing.Line

/-! Target source of lowered programs: namespaces, classes, fields and methods. Where an overload
of another method could win the resolution of a forwarding call, literals are cast to the types
of the parameters that receive them. -/

namespace Overloads

structure RenderOptions where
  style : NullableStyle
  placeholder : String
  indent : String

namespace Modifiers

def render (m : Modifiers) : String :=
  (match m.visibility.keyword? with
    | some keyword => keyword ++ " "
    | none => "") ++
    (if m.isStatic then "static " else "")

end Modifiers

namespace Literal

/-- Whether the literal by itself already has the type of the slot. -/
def isExact (literal : Literal) (slot : SlotType) : Bool :=
  if slot.isWrapped then false
  else
    match literal, slot with
    | .null, _ => false
    | .string _, .reference name => name == "String" || name == "string"
    | .string _, _ => false
    | .int _, _ => slot.primitive? == some .int
    | .float _, _ => slot.primitive?.any Primitive.isFloating
    | .bool _, _ => slot.primitive? == some .bool
    | .char _, _ => slot.primitive? == some .char

end Literal

namespace RenderOptions

def slot (o : RenderOptions) (s : SlotType) : String := s.render o.style o.placeholder

def param (o : RenderOptions) (p : TargetParam) : String :=
  o.slot p.slot ++ " " ++ p.name ++
    (match p.nativeDefault with
      | some text => " = " ++ text
      | none => "")

def field (o : RenderOptions) (f : TargetField) : Line :=
  .text 0 (f.modifiers.render ++ o.slot f.slot ++ " " ++ f.name ++
    (match f.initializer with
      | some text => " = " ++ text
      | none => "") ++ ";")

/-- A text cast to a slot's type; a leading minus sign needs parentheses. -/
def cast (o : RenderOptions) (s : SlotType) (text : String) : String :=
  "(" ++ o.slot s ++ ")" ++
    (if text.toList.head? = some '-' then "(" ++ text ++ ")" else text)

/-- An argument, cast unless it already has the type of the parameter that receives it. -/
def pinnedArg (o : RenderOptions) (arg : Argument) (param : Option TargetParam) : String :=
  match arg, param with
  | .literal value wraps _, some p =>
    if wraps || !value.isExact p.slot then o.cast p.slot arg.render else arg.render
  | _, _ => arg.render

/-- The arguments of a forwarding call, for the canonical overload `pinned` if it has a rival. -/
def args (o : RenderOptions) (call : Call) (pinned : Option Overload) : String :=
  match pinned with
  | none => call.renderArgs
  | some canonical =>
    ", ".intercalate (call.args.zipIdx.map fun (arg, i) => o.pinnedArg arg canonical.params[i]?)

/-- What stands before the opening brace, but for the chained call of a constructor. -/
def header (o : RenderOptions) (owner : String) (v : Overload) : String :=
  let name :=
    match v.kind with
    | .constructor => owner
    | .method =>
      (match v.returnType with
        | some s => o.slot s
        | none => "void") ++ " " ++ v.name
  v.modifiers.render ++ name ++ "(" ++ ", ".intercalate (v.params.map o.param) ++ ")"

def callStatement (v : Overload) (target args : String) : Line :=
  let call := target ++ "(" ++ args ++ ");"
  .text 0 (if v.returnType.isSome && v.kind == .method then "return " ++ call else call)

/-- An overload. A constructor calls another one from its header. -/
def overload (o : RenderOptions) (owner : String) (pinned : Option Overload) (v : Overload) :
    List Line :=
  let header := o.header owner v
  match v.body, v.kind with
  | .forward call, .constructor =>
    Line.block (header ++ " : " ++ call.target ++ "(" ++ o.args call pinned ++ ")") [.blank]
  | .forward call, .method =>
    Line.block header [callStatement v call.target (o.args call pinned)]
  | .source (.forward call), _ =>
    Line.block header [callStatement v call.target call.renderArgs]
  | .source (.block []), _ => Line.block header [.blank]
  | .source (.block lines), _ => Line.block header (lines.map (.text 0))

def members (o : RenderOptions) (t : TargetType) : List (List Line) :=
  t.fields.map (fun f => [o.field f]) ++
    t.methods.zipIdx.flatMap fun (m, position) =>
      let pinned := if t.hasRival position then m.canonical? else none
      m.overloads.map (o.overload t.name pinned)

/-- Members are kept apart by blank lines. -/
def type (o : RenderOptions) (t : TargetType) : List Line :=
  Line.block ("class " ++ t.name) ([Line.blank].intercalate (o.members t))

def program (o : RenderOptions) (p : TargetProgram) : List Line :=
  let types := p.types.flatMap o.type
  if p.namespaceName = "" then types else Line.block ("namespace " ++ p.namespaceName) types

def typeText (o : RenderOptions) (t : TargetType) : String := Line.renderAll o.indent (o.type t)

def programText (o : RenderOptions) (p : TargetProgram) : String :=
  Line.renderAll o.indent (o.program p)

end RenderOptions
end Overloads
