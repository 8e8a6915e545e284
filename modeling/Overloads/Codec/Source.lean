import Overloads.Codec.Value
import Overloads.Source.Declaration

/-! JSON forms of declarations. Fields that hold their default may be left out, but are always
written; absent options are never written. -/

namespace Overloads
open Json

namespace Argument

def encode : Argument → Json
  | .param name => .object [("kind", .string "param"), ("name", .string name)]
  | .literal value wraps slot =>
    .object ([("kind", .string "literal"), ("literal", value.encode),
      ("wraps_into_nullable", .bool wraps)] ++ member? "slot" Primitive.encode slot)

def variants : List String := ["param", "literal"]

/-- The fields of a variant, whose tag stands among them. -/
def decodeFields (name : String) (fields : Json) : Option Argument :=
  match name with
  | "param" => do
    let r ← record? ["name"] fields
    some (.param (← r.required "name" decodeString .held))
  | "literal" => do
    let r ← record? ["literal", "wraps_into_nullable", "slot"] fields
    let value ← r.required "literal" Literal.decode .held
    let wraps ← r.defaulted "wraps_into_nullable" false decodeBool .held
    let slot ← r.optional "slot" Primitive.decode .held
    some (.literal value wraps slot)
  | _ => none

/-- The whole of an argument is held, because its tag may come last. -/
def decode : Decoder Argument := fun origin v =>
  if v.isReadable then
    match v with
    | .object members =>
      if occursOnce "kind" members then do
        let name ← (members.lookup "kind").bind (leadingName? variants origin)
        decodeFields name (.object (members.filter (·.1 != "kind")))
      else none
    | .array (tag :: rest) => (leadingName? variants origin tag).bind (decodeFields · (.array rest))
    | _ => none
  else none

end Argument

namespace Call

def encode (c : Call) : Json :=
  .object [("target", .string c.target), ("args", .array (c.args.map Argument.encode))]

def decode : Decoder Call := fun origin v => do
  let r ← record? ["target", "args"] v
  let target ← r.required "target" decodeString origin
  let args ← r.required "args" (decodeList Argument.decode) origin
  some { target, args }

end Call

namespace Span

def encode (s : Span) : Json :=
  .object [("start", .ofNat s.start.toNat), ("end", .ofNat s.stop.toNat)]

def decode : Decoder Span := fun origin v => do
  let r ← record? ["start", "end"] v
  let start ← r.required "start" decodeUInt32 origin
  let stop ← r.required "end" decodeUInt32 origin
  some { start, stop }

end Span

namespace Visibility

def name : Visibility → String
  | .publicMember => "public"
  | .protectedMember => "protected"
  | .internalMember => "internal"
  | .privateMember => "private"

def all : List Visibility := [.publicMember, .protectedMember, .internalMember, .privateMember]

def ofName? (name : String) : Option Visibility := all.find? (·.name == name)

def encode (v : Visibility) : Json := .string v.name

def decode : Decoder Visibility := decodeName ofName?

end Visibility

namespace Modifiers

def encode (m : Modifiers) : Json :=
  .object [("visibility", m.visibility.encode), ("static", .bool m.isStatic)]

def decode : Decoder Modifiers := fun origin v => do
  let r ← record? ["visibility", "static"] v
  let visibility ← r.defaulted "visibility" .privateMember Visibility.decode origin
  let isStatic ← r.defaulted "static" false decodeBool origin
  some { visibility, isStatic }

end Modifiers

namespace Parameter

def encode (p : Parameter) : Json :=
  .object ([("name", .string p.name), ("type", p.type.encode), ("nullable", .bool p.nullable)] ++
    member? "default" Literal.encode p.default ++ member? "span" Span.encode p.span)

def decode : Decoder Parameter := fun origin v => do
  let r ← record? ["name", "type", "nullable", "default", "span"] v
  let name ← r.required "name" decodeString origin
  let type ← r.required "type" DeclaredType.decode origin
  let nullable ← r.defaulted "nullable" false decodeBool origin
  let default ← r.optional "default" Literal.decode origin
  let span ← r.optional "span" Span.decode origin
  some { name, type, nullable, default, span }

end Parameter

namespace ReturnType

def encode (t : ReturnType) : Json :=
  .object [("type", t.type.encode), ("nullable", .bool t.nullable)]

def decode : Decoder ReturnType := fun origin v => do
  let r ← record? ["type", "nullable"] v
  let type ← r.required "type" DeclaredType.decode origin
  let nullable ← r.defaulted "nullable" false decodeBool origin
  some { type, nullable }

end ReturnType

namespace MethodKind

def name : MethodKind → String
  | .method => "method"
  | .constructor => "constructor"

def ofName? (name : String) : Option MethodKind := [method, constructor].find? (·.name == name)

def encode (k : MethodKind) : Json := .string k.name

def decode : Decoder MethodKind := decodeName ofName?

end MethodKind

namespace MethodBody

def encode : MethodBody → Json
  | .block lines => .object [("kind", .string "block"), ("value", .strings lines)]
  | .forward call => .object [("kind", .string "forward"), ("value", call.encode)]

def decode : Decoder MethodBody := fun origin v => do
  let t ← tagged? "kind" "value" ["block", "forward"] origin v
  match t.name with
  | "block" => (t.read (decodeList decodeString)).map .block
  | "forward" => (t.read Call.decode).map .forward
  | _ => none

end MethodBody

namespace Method

def encode (m : Method) : Json :=
  .object ([("name", .string m.name), ("params", .array (m.params.map Parameter.encode))] ++
    member? "return_type" ReturnType.encode m.returnType ++
    [("kind", m.kind.encode), ("modifiers", m.modifiers.encode), ("body", m.body.encode)] ++
    member? "span" Span.encode m.span)

def decode : Decoder Method := fun origin v => do
  let r ← record? ["name", "params", "return_type", "kind", "modifiers", "body", "span"] v
  let name ← r.required "name" decodeString origin
  let params ← r.defaulted "params" [] (decodeList Parameter.decode) origin
  let returnType ← r.optional "return_type" ReturnType.decode origin
  let kind ← r.defaulted "kind" .method MethodKind.decode origin
  let modifiers ← r.defaulted "modifiers" {} Modifiers.decode origin
  let body ← r.defaulted "body" (.block []) MethodBody.decode origin
  let span ← r.optional "span" Span.decode origin
  some { name, params, returnType, kind, modifiers, body, span }

end Method

namespace Field

def encode (f : Field) : Json :=
  .object ([("name", .string f.name), ("type", f.type.encode), ("nullable", .bool f.nullable),
    ("modifiers", f.modifiers.encode)] ++
    member? "initializer" Literal.encode f.initializer ++ member? "span" Span.encode f.span)

def decode : Decoder Field := fun origin v => do
  let r ← record? ["name", "type", "nullable", "modifiers", "initializer", "span"] v
  let name ← r.required "name" decodeString origin
  let type ← r.required "type" DeclaredType.decode origin
  let nullable ← r.defaulted "nullable" false decodeBool origin
  let modifiers ← r.defaulted "modifiers" {} Modifiers.decode origin
  let initializer ← r.optional "initializer" Literal.decode origin
  let span ← r.optional "span" Span.decode origin
  some { name, type, nullable, modifiers, initializer, span }

end Field

namespace TypeDecl

def encode (t : TypeDecl) : Json :=
  .object [("name", .string t.name), ("fields", .array (t.fields.map Field.encode)),
    ("methods", .array (t.methods.map Method.encode))]

def decode : Decoder TypeDecl := fun origin v => do
  let r ← record? ["name", "fields", "methods"] v
  let name ← r.required "name" decodeString origin
  let fields ← r.defaulted "fields" [] (decodeList Field.decode) origin
  let methods ← r.defaulted "methods" [] (decodeList Method.decode) origin
  some { name, fields, methods }

end TypeDecl

namespace Program

def encode (p : Program) : Json :=
  .object ([("namespace", .string p.namespaceName),
    ("types", .array (p.types.map TypeDecl.encode))] ++ member? "source" .string p.source)

def decode : Decoder Program := fun origin v => do
  let r ← record? ["namespace", "types", "source"] v
  let namespaceName ← r.defaulted "namespace" "" decodeString origin
  let types ← r.defaulted "types" [] (decodeList TypeDecl.decode) origin
  let source ← r.optional "source" decodeString origin
  some { namespaceName, types, source }

end Program
end Overloads
