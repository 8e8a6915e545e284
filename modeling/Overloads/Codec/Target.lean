import Overloads.Codec.Source
import Overloads.Lowering.Program

/-! JSON forms of what lowering produces. -/

namespace Overloads
open Json

namespace TargetParam

def encode (p : TargetParam) : Json :=
  .object ([("name", .string p.name), ("ty", p.slot.encode)] ++
    member? "native_default" .string p.nativeDefault)

def decode : Decoder TargetParam := fun origin v => do
  let r ← record? ["name", "ty", "native_default"] v
  let name ← r.required "name" decodeString origin
  let slot ← r.required "ty" SlotType.decode origin
  let nativeDefault ← r.optional "native_default" decodeString origin
  some { name, slot, nativeDefault }

end TargetParam

namespace OverloadBody

def encode : OverloadBody → Json
  | .source body => .object [("kind", .string "original"), ("value", body.encode)]
  | .forward call => .object [("kind", .string "forward"), ("value", call.encode)]

def decode : Decoder OverloadBody := fun origin v => do
  let t ← tagged? "kind" "value" ["original", "forward"] origin v
  match t.name with
  | "original" => (t.read MethodBody.decode).map .source
  | "forward" => (t.read Call.decode).map .forward
  | _ => none

end OverloadBody

namespace Overload

/-- The return type is written as null when there is none. -/
def encode (o : Overload) : Json :=
  .object [("name", .string o.name), ("kind", o.kind.encode), ("modifiers", o.modifiers.encode),
    ("params", .array (o.params.map TargetParam.encode)),
    ("return_type", .ofOption SlotType.encode o.returnType), ("body", o.body.encode)]

def decode : Decoder Overload := fun origin v => do
  let r ← record? ["name", "kind", "modifiers", "params", "return_type", "body"] v
  let name ← r.required "name" decodeString origin
  let kind ← r.required "kind" MethodKind.decode origin
  let modifiers ← r.required "modifiers" Modifiers.decode origin
  let params ← r.required "params" (decodeList TargetParam.decode) origin
  let returnType ← r.optional "return_type" SlotType.decode origin
  let body ← r.required "body" OverloadBody.decode origin
  some { name, kind, modifiers, params, returnType, body }

end Overload

namespace TargetMethod

def encode (m : TargetMethod) : Json :=
  .object [("name", .string m.name), ("index", .ofNat m.index.toNat),
    ("overloads", .array (m.overloads.map Overload.encode))]

def decode : Decoder TargetMethod := fun origin v => do
  let r ← record? ["name", "index", "overloads"] v
  let name ← r.required "name" decodeString origin
  let index ← r.required "index" decodeUInt64 origin
  let overloads ← r.required "overloads" (decodeList Overload.decode) origin
  some { name, index, overloads }

end TargetMethod

namespace TargetField

def encode (f : TargetField) : Json :=
  .object ([("name", .string f.name), ("modifiers", f.modifiers.encode), ("ty", f.slot.encode)] ++
    member? "initializer" .string f.initializer)

def decode : Decoder TargetField := fun origin v => do
  let r ← record? ["name", "modifiers", "ty", "initializer"] v
  let name ← r.required "name" decodeString origin
  let modifiers ← r.required "modifiers" Modifiers.decode origin
  let slot ← r.required "ty" SlotType.decode origin
  let initializer ← r.optional "initializer" decodeString origin
  some { name, modifiers, slot, initializer }

end TargetField

namespace TargetType

def encode (t : TargetType) : Json :=
  .object [("name", .string t.name), ("fields", .array (t.fields.map TargetField.encode)),
    ("methods", .array (t.methods.map TargetMethod.encode))]

def decode : Decoder TargetType := fun origin v => do
  let r ← record? ["name", "fields", "methods"] v
  let name ← r.required "name" decodeString origin
  let fields ← r.required "fields" (decodeList TargetField.decode) origin
  let methods ← r.required "methods" (decodeList TargetMethod.decode) origin
  some { name, fields, methods }

end TargetType

namespace DiagnosticKind

def name : DiagnosticKind → String
  | .signatureCollision => "signature_collision"
  | .unsupportedType => "unsupported_type"
  | .incompatibleDefault => "incompatible_default"
  | .nonTrailingDefault => "non_trailing_default"

def all : List DiagnosticKind :=
  [.signatureCollision, .unsupportedType, .incompatibleDefault, .nonTrailingDefault]

def ofName? (name : String) : Option DiagnosticKind := all.find? (·.name == name)

def encode (k : DiagnosticKind) : Json := .string k.name

def decode : Decoder DiagnosticKind := decodeName ofName?

end DiagnosticKind

namespace Severity

def ofWord? (word : String) : Option Severity := [error, warning].find? (·.word == word)

def encode (s : Severity) : Json := .string s.word

def decode : Decoder Severity := decodeName ofWord?

end Severity

namespace Diagnostic

def encode (d : Diagnostic) : Json :=
  .object ([("kind", d.kind.encode), ("code", .string d.code), ("severity", d.severity.encode),
    ("owner", .string d.owner), ("member", .string d.member), ("detail", .string d.detail)] ++
    member? "span" Span.encode d.span)

def decode : Decoder Diagnostic := fun origin v => do
  let r ← record? ["kind", "code", "severity", "owner", "member", "detail", "span"] v
  let kind ← r.required "kind" DiagnosticKind.decode origin
  let code ← r.required "code" decodeString origin
  let severity ← r.required "severity" Severity.decode origin
  let owner ← r.required "owner" decodeString origin
  let member ← r.required "member" decodeString origin
  let detail ← r.required "detail" decodeString origin
  let span ← r.optional "span" Span.decode origin
  some { kind, code, severity, owner, member, detail, span }

end Diagnostic

namespace Stats

def encode (s : Stats) : Json :=
  .object [("types", .ofNat s.types.toNat), ("fields", .ofNat s.fields.toNat),
    ("methods", .ofNat s.methods.toNat), ("overloads", .ofNat s.overloads.toNat),
    ("forwarding", .ofNat s.forwarding.toNat),
    ("skipped_methods", .ofNat s.skippedMethods.toNat),
    ("collisions", .ofNat s.collisions.toNat), ("unsupported", .ofNat s.unsupported.toNat)]

def decode : Decoder Stats := fun origin v => do
  let r ← record? ["types", "fields", "methods", "overloads", "forwarding", "skipped_methods",
    "collisions", "unsupported"] v
  let types ← r.required "types" decodeUInt64 origin
  let fields ← r.required "fields" decodeUInt64 origin
  let methods ← r.required "methods" decodeUInt64 origin
  let overloads ← r.required "overloads" decodeUInt64 origin
  let forwarding ← r.required "forwarding" decodeUInt64 origin
  let skippedMethods ← r.required "skipped_methods" decodeUInt64 origin
  let collisions ← r.required "collisions" decodeUInt64 origin
  let unsupported ← r.required "unsupported" decodeUInt64 origin
  some { types, fields, methods, overloads, forwarding, skippedMethods, collisions, unsupported }

end Stats

namespace TargetProgram

def encode (p : TargetProgram) : Json :=
  .object [("namespace", .string p.namespaceName),
    ("types", .array (p.types.map TargetType.encode)),
    ("diagnostics", .array (p.diagnostics.map Diagnostic.encode)), ("stats", p.stats.encode)]

def decode : Decoder TargetProgram := fun origin v => do
  let r ← record? ["namespace", "types", "diagnostics", "stats"] v
  let namespaceName ← r.required "namespace" decodeString origin
  let types ← r.required "types" (decodeList TargetType.decode) origin
  let diagnostics ← r.required "diagnostics" (decodeList Diagnostic.decode) origin
  let stats ← r.required "stats" Stats.decode origin
  some { namespaceName, types, diagnostics, stats }

end TargetProgram
end Overloads
