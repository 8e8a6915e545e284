import Overloads.Codec.Target
import Overloads.Json.Parser
import Overloads.Json.Printer
import Overloads.Proofs.TolerantReading

/-! What lowering produces is read back from its JSON form. This holds of everything that can be
written down, not only of what a run gives. -/

namespace Overloads.Proofs.OutputReading
open Json Variations TolerantReading

/-! Slots -/

def valueTypeShape : Shape := adjacent "kind" "name" [("primitive", .leaf), ("user", .leaf)]

theorem valueType_reads (t : ValueType) : ReadsAs valueTypeShape ValueType.decode t.encode t := by
  cases t with
  | primitive p =>
    refine adjacent_reads ["primitive", "user"] ValueType.primitive ?_ (by decide) rfl
      (primitive_reads p)
    intro origin v t tag variant
    simp only [ValueType.decode, tag, variant, Option.bind_eq_bind, Option.bind_some]
  | user name =>
    refine adjacent_reads ["primitive", "user"] ValueType.user ?_ (by decide) rfl
      (string_reads name)
    intro origin v t tag variant
    simp only [ValueType.decode, tag, variant, Option.bind_eq_bind, Option.bind_some]

def storageShape : Shape :=
  adjacent "repr" "ty" [("bare", valueTypeShape), ("wrapped_nullable", valueTypeShape)]

theorem storage_reads (s : Storage) : ReadsAs storageShape Storage.decode s.encode s := by
  cases s with
  | bare type =>
    refine adjacent_reads ["bare", "wrapped_nullable"] Storage.bare ?_ (by decide) rfl
      (valueType_reads type)
    intro origin v t tag variant
    simp only [Storage.decode, tag, variant, Option.bind_eq_bind, Option.bind_some]
  | wrapped type =>
    refine adjacent_reads ["bare", "wrapped_nullable"] Storage.wrapped ?_ (by decide) rfl
      (valueType_reads type)
    intro origin v t tag variant
    simp only [Storage.decode, tag, variant, Option.bind_eq_bind, Option.bind_some]

def slotShape : Shape :=
  adjacent "kind" "ty" [("value", storageShape), ("reference", .leaf), ("unresolved", .leaf)]

theorem slot_reads (s : SlotType) : ReadsAs slotShape SlotType.decode s.encode s := by
  cases s with
  | value storage =>
    refine adjacent_reads ["value", "reference", "unresolved"] SlotType.value ?_ (by decide) rfl
      (storage_reads storage)
    intro origin v t tag variant
    simp only [SlotType.decode, tag, variant, Option.bind_eq_bind, Option.bind_some]
  | reference name =>
    refine adjacent_reads ["value", "reference", "unresolved"] SlotType.reference ?_ (by decide) rfl
      (string_reads name)
    intro origin v t tag variant
    simp only [SlotType.decode, tag, variant, Option.bind_eq_bind, Option.bind_some]
  | unresolved name =>
    refine adjacent_reads ["value", "reference", "unresolved"] SlotType.unresolved ?_ (by decide)
      rfl (string_reads name)
    intro origin v t tag variant
    simp only [SlotType.decode, tag, variant, Option.bind_eq_bind, Option.bind_some]

theorem slot_solid (s : SlotType) : s.encode ≠ .null := by
  cases s <;> exact Json.noConfusion

/-! Overloads -/

def overloadBodyFloats : OverloadBody → List Double
  | .source body => bodyFloats body
  | .forward call => callFloats call

def overloadFloats (o : Overload) : List Double := overloadBodyFloats o.body

def targetMethodFloats (m : TargetMethod) : List Double := m.overloads.flatMap overloadFloats

def targetTypeFloats (t : TargetType) : List Double := t.methods.flatMap targetMethodFloats

def outputFloats (p : TargetProgram) : List Double := p.types.flatMap targetTypeFloats

def targetParamShape : Shape :=
  .record [("name", .leaf, none), ("ty", slotShape, none), ("native_default", .leaf, none)]

theorem targetParam_reads (p : TargetParam) :
    ReadsAs targetParamShape TargetParam.decode p.encode p := by
  intro v varied readable origin
  obtain ⟨result, rfl, r⟩ := reading varied (by cases p.nativeDefault <;> simp [member?]) readable
  have record : record? ["name", "ty", "native_default"] (.object result) = some result := r.record?
  have name := r.required "name" rfl rfl (string_reads p.name) origin
  have slot := r.required "ty" rfl rfl (slot_reads p.slot) origin
  have nativeDefault := r.optional "native_default" p.nativeDefault rfl
    (by cases p.nativeDefault <;> rfl) (fun _ => Json.noConfusion) (fun text _ => string_reads text)
    origin
  simp only [TargetParam.decode, record, name, slot, nativeDefault, Option.bind_eq_bind,
    Option.bind_some]

def overloadBodyShape : Shape :=
  adjacent "kind" "value" [("original", bodyShape), ("forward", callShape)]

theorem overloadBody_reads {body : OverloadBody} (finite : Finite (overloadBodyFloats body)) :
    ReadsAs overloadBodyShape OverloadBody.decode body.encode body := by
  cases body with
  | source body =>
    refine adjacent_reads ["original", "forward"] OverloadBody.source ?_ (by decide) rfl
      (body_reads finite)
    intro origin v t tag variant
    simp only [OverloadBody.decode, tag, variant, Option.bind_eq_bind, Option.bind_some]
  | forward call =>
    refine adjacent_reads ["original", "forward"] OverloadBody.forward ?_ (by decide) rfl
      (call_reads finite)
    intro origin v t tag variant
    simp only [OverloadBody.decode, tag, variant, Option.bind_eq_bind, Option.bind_some]

def overloadShape : Shape :=
  .record [("name", .leaf, none), ("kind", .leaf, none), ("modifiers", modifiersShape, none),
    ("params", .list targetParamShape, none), ("return_type", slotShape, none),
    ("body", overloadBodyShape, none)]

theorem overload_reads {o : Overload} (finite : Finite (overloadFloats o)) :
    ReadsAs overloadShape Overload.decode o.encode o := by
  intro v varied readable origin
  obtain ⟨result, rfl, r⟩ := reading varied (by simp) readable
  have record : record? ["name", "kind", "modifiers", "params", "return_type", "body"]
      (.object result) = some result := r.record?
  have name := r.required "name" rfl rfl (string_reads o.name) origin
  have kind := r.required "kind" rfl rfl (kind_reads o.kind) origin
  have modifiers := r.required "modifiers" rfl rfl (modifiers_reads o.modifiers) origin
  have params := r.required "params" rfl rfl (readsAs_list fun p _ => targetParam_reads p) origin
  have returnType := r.nullable "return_type" o.returnType rfl rfl slot_solid
    (fun slot _ => slot_reads slot) origin
  have body := r.required "body" rfl rfl (overloadBody_reads finite) origin
  simp only [Overload.decode, record, name, kind, modifiers, params, returnType, body,
    Option.bind_eq_bind, Option.bind_some]

def targetMethodShape : Shape :=
  .record [("name", .leaf, none), ("index", .leaf, none), ("overloads", .list overloadShape, none)]

theorem targetMethod_reads {m : TargetMethod} (finite : Finite (targetMethodFloats m)) :
    ReadsAs targetMethodShape TargetMethod.decode m.encode m := by
  intro v varied readable origin
  obtain ⟨result, rfl, r⟩ := reading varied (by simp) readable
  have record : record? ["name", "index", "overloads"] (.object result) = some result := r.record?
  have name := r.required "name" rfl rfl (string_reads m.name) origin
  have index := r.required "index" rfl rfl (uint64_reads m.index) origin
  have overloads := r.required "overloads" rfl rfl
    (readsAs_list fun o member => overload_reads (finite_flatMap.mp finite o member)) origin
  simp only [TargetMethod.decode, record, name, index, overloads, Option.bind_eq_bind,
    Option.bind_some]

def targetFieldShape : Shape :=
  .record [("name", .leaf, none), ("modifiers", modifiersShape, none), ("ty", slotShape, none),
    ("initializer", .leaf, none)]

theorem targetField_reads (f : TargetField) :
    ReadsAs targetFieldShape TargetField.decode f.encode f := by
  intro v varied readable origin
  obtain ⟨result, rfl, r⟩ := reading varied (by cases f.initializer <;> simp [member?]) readable
  have record : record? ["name", "modifiers", "ty", "initializer"] (.object result) = some result :=
    r.record?
  have name := r.required "name" rfl rfl (string_reads f.name) origin
  have modifiers := r.required "modifiers" rfl rfl (modifiers_reads f.modifiers) origin
  have slot := r.required "ty" rfl rfl (slot_reads f.slot) origin
  have initializer := r.optional "initializer" f.initializer rfl (by cases f.initializer <;> rfl)
    (fun _ => Json.noConfusion) (fun text _ => string_reads text) origin
  simp only [TargetField.decode, record, name, modifiers, slot, initializer, Option.bind_eq_bind,
    Option.bind_some]

def targetTypeShape : Shape :=
  .record [("name", .leaf, none), ("fields", .list targetFieldShape, none),
    ("methods", .list targetMethodShape, none)]

theorem targetType_reads {t : TargetType} (finite : Finite (targetTypeFloats t)) :
    ReadsAs targetTypeShape TargetType.decode t.encode t := by
  intro v varied readable origin
  obtain ⟨result, rfl, r⟩ := reading varied (by simp) readable
  have record : record? ["name", "fields", "methods"] (.object result) = some result := r.record?
  have name := r.required "name" rfl rfl (string_reads t.name) origin
  have fields := r.required "fields" rfl rfl (readsAs_list fun f _ => targetField_reads f) origin
  have methods := r.required "methods" rfl rfl
    (readsAs_list fun m member => targetMethod_reads (finite_flatMap.mp finite m member)) origin
  simp only [TargetType.decode, record, name, fields, methods, Option.bind_eq_bind,
    Option.bind_some]

/-! Diagnostics and counters -/

theorem diagnosticKind_reads (k : DiagnosticKind) :
    ReadsAs .leaf DiagnosticKind.decode k.encode k := name_reads (by cases k <;> decide)

theorem severity_reads (s : Severity) : ReadsAs .leaf Severity.decode s.encode s :=
  name_reads (by cases s <;> decide)

def diagnosticShape : Shape :=
  .record [("kind", .leaf, none), ("code", .leaf, none), ("severity", .leaf, none),
    ("owner", .leaf, none), ("member", .leaf, none), ("detail", .leaf, none),
    ("span", spanShape, none)]

theorem diagnostic_reads (d : Diagnostic) :
    ReadsAs diagnosticShape Diagnostic.decode d.encode d := by
  intro v varied readable origin
  obtain ⟨result, rfl, r⟩ := reading varied (by cases d.span <;> simp [member?]) readable
  have record : record? ["kind", "code", "severity", "owner", "member", "detail", "span"]
      (.object result) = some result := r.record?
  have kind := r.required "kind" rfl rfl (diagnosticKind_reads d.kind) origin
  have code := r.required "code" rfl rfl (string_reads d.code) origin
  have severity := r.required "severity" rfl rfl (severity_reads d.severity) origin
  have owner := r.required "owner" rfl rfl (string_reads d.owner) origin
  have member := r.required "member" rfl rfl (string_reads d.member) origin
  have detail := r.required "detail" rfl rfl (string_reads d.detail) origin
  have span := r.optional "span" d.span rfl (by cases d.span <;> rfl) (fun _ => Json.noConfusion)
    (fun s _ => span_reads s) origin
  simp only [Diagnostic.decode, record, kind, code, severity, owner, member, detail, span,
    Option.bind_eq_bind, Option.bind_some]

def statsShape : Shape :=
  .record [("types", .leaf, none), ("fields", .leaf, none), ("methods", .leaf, none),
    ("overloads", .leaf, none), ("forwarding", .leaf, none), ("skipped_methods", .leaf, none),
    ("collisions", .leaf, none), ("unsupported", .leaf, none)]

theorem stats_reads (s : Stats) : ReadsAs statsShape Stats.decode s.encode s := by
  intro v varied readable origin
  obtain ⟨result, rfl, r⟩ := reading varied (by simp) readable
  have record : record? ["types", "fields", "methods", "overloads", "forwarding",
      "skipped_methods", "collisions", "unsupported"] (.object result) = some result := r.record?
  have types := r.required "types" rfl rfl (uint64_reads s.types) origin
  have fields := r.required "fields" rfl rfl (uint64_reads s.fields) origin
  have methods := r.required "methods" rfl rfl (uint64_reads s.methods) origin
  have overloads := r.required "overloads" rfl rfl (uint64_reads s.overloads) origin
  have forwarding := r.required "forwarding" rfl rfl (uint64_reads s.forwarding) origin
  have skipped := r.required "skipped_methods" rfl rfl (uint64_reads s.skippedMethods) origin
  have collisions := r.required "collisions" rfl rfl (uint64_reads s.collisions) origin
  have unsupported := r.required "unsupported" rfl rfl (uint64_reads s.unsupported) origin
  simp only [Stats.decode, record, types, fields, methods, overloads, forwarding, skipped,
    collisions, unsupported, Option.bind_eq_bind, Option.bind_some]

def outputShape : Shape :=
  .record [("namespace", .leaf, none), ("types", .list targetTypeShape, none),
    ("diagnostics", .list diagnosticShape, none), ("stats", statsShape, none)]

theorem output_reads {p : TargetProgram} (finite : Finite (outputFloats p)) :
    ReadsAs outputShape TargetProgram.decode p.encode p := by
  intro v varied readable origin
  obtain ⟨result, rfl, r⟩ := reading varied (by simp) readable
  have record : record? ["namespace", "types", "diagnostics", "stats"] (.object result) =
      some result := r.record?
  have namespaceName := r.required "namespace" rfl rfl (string_reads p.namespaceName) origin
  have types := r.required "types" rfl rfl
    (readsAs_list fun t member => targetType_reads (finite_flatMap.mp finite t member)) origin
  have diagnostics := r.required "diagnostics" rfl rfl
    (readsAs_list fun d _ => diagnostic_reads d) origin
  have stats := r.required "stats" rfl rfl (stats_reads p.stats) origin
  simp only [TargetProgram.decode, record, namespaceName, types, diagnostics, stats,
    Option.bind_eq_bind, Option.bind_some]

/-! Nothing is written that could not be read. -/

theorem items_readable {encode : α → Json} (readable : ∀ x, (encode x).isReadable = true)
    (xs : List α) : areReadable (xs.map encode) = true := by
  induction xs with
  | nil => rfl
  | cons x xs ih => rw [List.map_cons, areReadable_cons, readable, ih, Bool.and_self]

theorem option_readable {encode : α → Json} (readable : ∀ x, (encode x).isReadable = true)
    (x : Option α) : (Json.ofOption encode x).isReadable = true := by
  cases x with
  | none => rfl
  | some x => exact readable x

theorem member_readable {encode : α → Json} (readable : ∀ x, (encode x).isReadable = true)
    (name : String) (x : Option α) : membersReadable (member? name encode x) = true := by
  cases x with
  | none => rfl
  | some x => rw [member?, membersReadable_cons, readable, membersReadable_nil, Bool.and_self]

theorem append_readable {first second : Record} (left : membersReadable first = true)
    (right : membersReadable second = true) : membersReadable (first ++ second) = true := by
  induction first with
  | nil => exact right
  | cons m first ih =>
    obtain ⟨name, v⟩ := m
    rw [membersReadable_cons, Bool.and_eq_true] at left
    rw [List.cons_append, membersReadable_cons, left.1, ih left.2, Bool.and_self]

theorem slot_readable (s : SlotType) : s.encode.isReadable = true := by
  rcases s with ⟨⟨⟨_⟩ | ⟨_⟩⟩ | ⟨⟨_⟩ | ⟨_⟩⟩⟩ | _ | _ <;> rfl

theorem literal_readable (literal : Literal) : literal.encode.isReadable = true := by
  cases literal with
  | float x =>
    simp only [Literal.encode, Json.ofDouble]
    split <;> rfl
  | int _ | bool _ | char _ | string _ | null => rfl

theorem argument_readable (arg : Argument) : arg.encode.isReadable = true := by
  cases arg with
  | param name => rfl
  | literal value wraps slot =>
    refine append_readable ?_ (member_readable (fun _ => rfl) _ slot)
    simp [literal_readable]

theorem call_readable (c : Call) : c.encode.isReadable = true := by
  simp [Call.encode, items_readable argument_readable]

theorem body_readable (body : MethodBody) : body.encode.isReadable = true := by
  cases body with
  | block lines => simp [MethodBody.encode, Json.strings, items_readable isReadable_string]
  | forward call => simp [MethodBody.encode, call_readable]

theorem modifiers_readable (m : Modifiers) : m.encode.isReadable = true := rfl

theorem targetParam_readable (p : TargetParam) : p.encode.isReadable = true := by
  refine append_readable ?_ (member_readable isReadable_string _ _)
  simp [slot_readable]

theorem overloadBody_readable (body : OverloadBody) : body.encode.isReadable = true := by
  cases body with
  | source body => simp [OverloadBody.encode, body_readable]
  | forward call => simp [OverloadBody.encode, call_readable]

theorem overload_readable (o : Overload) : o.encode.isReadable = true := by
  have kind : o.kind.encode.isReadable = true := rfl
  simp [Overload.encode, modifiers_readable, kind, overloadBody_readable,
    items_readable targetParam_readable, option_readable slot_readable]

theorem targetMethod_readable (m : TargetMethod) : m.encode.isReadable = true := by
  simp [TargetMethod.encode, Json.ofNat, items_readable overload_readable]

theorem targetField_readable (f : TargetField) : f.encode.isReadable = true := by
  refine append_readable ?_ (member_readable isReadable_string _ _)
  simp [modifiers_readable, slot_readable]

theorem targetType_readable (t : TargetType) : t.encode.isReadable = true := by
  simp [TargetType.encode, items_readable targetField_readable,
    items_readable targetMethod_readable]

theorem diagnostic_readable (d : Diagnostic) : d.encode.isReadable = true :=
  append_readable rfl (member_readable (fun _ => rfl) _ _)

theorem output_readable (p : TargetProgram) : p.encode.isReadable = true := by
  have stats : p.stats.encode.isReadable = true := rfl
  simp [TargetProgram.encode, stats, items_readable targetType_readable,
    items_readable diagnostic_readable]

/-- Everything that lowering may produce is read back from its JSON form. So it is from the text, if
printing and parsing keep that form. -/
theorem output_round_trip {p : TargetProgram} (finite : Finite (outputFloats p)) :
    TargetProgram.decode .direct p.encode = some p ∧
      (Json.parse? p.encode.pretty = some p.encode →
        (Json.parse? p.encode.pretty).bind (TargetProgram.decode .direct) = some p) := by
  have decoded := output_reads finite p.encode .same (output_readable p) .direct
  refine ⟨decoded, ?_⟩
  intro faithful
  rw [faithful]
  exact decoded

/-- A lowered type with a synthesized call and diagnostics with and without span. -/
def scaled : TargetProgram :=
  { namespaceName := "N"
    types := [
      { name := "T"
        fields := [{ name := "x", modifiers := {}, slot := .unresolved "Vec3" }]
        methods := [
          { name := "scale"
            index := 0
            overloads := [
              { name := "scale"
                kind := .method
                modifiers := {}
                params := [{ name := "by", slot := .value (.wrapped (.primitive .double)) }]
                returnType := some (.reference "T")
                body := .source (.block ["return this;"]) },
              { name := "scale"
                kind := .method
                modifiers := {}
                params := []
                returnType := none
                body := .forward ⟨"scale", [.literal half true (some .double)]⟩ }] }] }]
    diagnostics := [
      .report .unsupportedType "T" "x" "Vec3" (some ⟨4, 8⟩),
      .report .nonTrailingDefault "T" "scale" "ignored" none]
    stats := { types := 1, fields := 1, methods := 1, overloads := 2, forwarding := 1 } }

theorem scaled_read : TargetProgram.decode .direct scaled.encode = some scaled :=
  (output_round_trip (by decide)).1

end Overloads.Proofs.OutputReading
