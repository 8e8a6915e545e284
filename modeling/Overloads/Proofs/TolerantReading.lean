import Overloads.Codec.Source
import Overloads.Proofs.Variations

/-! Programs are read back from every variation of their JSON form. The shapes below name the fields
of each declaration, with the defaults of those that may be left out. -/

namespace Overloads.Proofs.TolerantReading
open Json Variations

/-! The floating point numbers of a program. Those that are not finite have no JSON form. -/

def literalFloats : Literal → List Double
  | .float x => [x]
  | _ => []

def argumentFloats : Argument → List Double
  | .param _ => []
  | .literal value _ _ => literalFloats value

def callFloats (c : Call) : List Double := c.args.flatMap argumentFloats

def bodyFloats : MethodBody → List Double
  | .block _ => []
  | .forward call => callFloats call

def parameterFloats (p : Parameter) : List Double := p.default.toList.flatMap literalFloats

def methodFloats (m : Method) : List Double := m.params.flatMap parameterFloats ++ bodyFloats m.body

def fieldFloats (f : Field) : List Double := f.initializer.toList.flatMap literalFloats

def typeFloats (t : TypeDecl) : List Double :=
  t.fields.flatMap fieldFloats ++ t.methods.flatMap methodFloats

def floats (p : Program) : List Double := p.types.flatMap typeFloats

def Finite (xs : List Double) : Prop := ∀ x ∈ xs, x.isFinite = true

instance (xs : List Double) : Decidable (Finite xs) :=
  inferInstanceAs (Decidable (∀ x ∈ xs, x.isFinite = true))

theorem finite_append {first second : List Double} :
    Finite (first ++ second) ↔ Finite first ∧ Finite second := List.forall_mem_append

theorem finite_flatMap {items : List α} {f : α → List Double} :
    Finite (items.flatMap f) ↔ ∀ item ∈ items, Finite (f item) := by
  simp only [Finite, List.mem_flatMap, forall_exists_index, and_imp]
  exact ⟨fun all item member x inside => all x item member inside,
    fun all x item member inside => all item member x inside⟩

/-! Leaves -/

theorem string_reads (s : String) : ReadsAs .leaf decodeString (.string s) s :=
  readsAs_leaf fun _ => rfl

theorem bool_reads (b : Bool) : ReadsAs .leaf decodeBool (.bool b) b := readsAs_leaf fun _ => rfl

theorem uint32_reads (n : UInt32) : ReadsAs .leaf decodeUInt32 (.ofNat n.toNat) n := by
  refine readsAs_leaf fun origin => ?_
  have bound := n.toNat_lt
  have inside : (0 : Int) ≤ n.toNat ∧ (n.toNat : Int) < 0x100000000 := by omega
  simp only [decodeUInt32, Json.ofNat, if_pos inside, Int.toNat_natCast, UInt32.ofNat_toNat]

theorem uint64_reads (n : UInt64) : ReadsAs .leaf decodeUInt64 (.ofNat n.toNat) n := by
  refine readsAs_leaf fun origin => ?_
  have bound := n.toNat_lt
  have inside : (0 : Int) ≤ n.toNat ∧ (n.toNat : Int) < 0x10000000000000000 := by omega
  simp only [decodeUInt64, Json.ofNat, if_pos inside, Int.toNat_natCast, UInt64.ofNat_toNat]

theorem int64_reads (n : Int64) : ReadsAs .leaf decodeInt64 (.int n.toInt) n := by
  refine readsAs_leaf fun origin => ?_
  have least := n.le_toInt
  have greatest := n.toInt_lt
  have inside : -0x8000000000000000 ≤ n.toInt ∧ n.toInt < 0x8000000000000000 := by omega
  simp only [decodeInt64, if_pos inside, Int64.ofInt_toInt]

theorem double_reads {x : Double} (finite : x.isFinite = true) :
    ReadsAs .leaf decodeDouble (.ofDouble x) x := by
  refine readsAs_leaf fun origin => ?_
  simp only [Json.ofDouble, if_pos finite, decodeDouble]

theorem char_reads (c : Char) : ReadsAs .leaf decodeChar (.string (.singleton c)) c := by
  refine readsAs_leaf fun origin => ?_
  simp only [decodeChar, String.toList_singleton]

theorem name_reads {named : String → Option α} {name : String} {x : α}
    (found : named name = some x) :
    ReadsAs .leaf (decodeName named) (.string name) x := by
  refine readsAs_leaf fun origin => ?_
  have spelled : variantName? origin (.string name) = some name := by cases origin <;> rfl
  rw [decodeName, spelled]
  exact found

theorem primitive_reads (p : Primitive) : ReadsAs .leaf Primitive.decode p.encode p :=
  name_reads (by cases p <;> decide)

theorem visibility_reads (v : Visibility) : ReadsAs .leaf Visibility.decode v.encode v :=
  name_reads (by cases v <;> decide)

theorem kind_reads (k : MethodKind) : ReadsAs .leaf MethodKind.decode k.encode k :=
  name_reads (by cases k <;> decide)

/-! Types, literals and calls -/

def declaredShape : Shape := adjacent "kind" "name" [("value", .leaf), ("reference", .leaf)]

theorem declared_reads (t : DeclaredType) :
    ReadsAs declaredShape DeclaredType.decode t.encode t := by
  cases t with
  | value name =>
    refine adjacent_reads ["value", "reference"] DeclaredType.value ?_ (by decide) rfl
      (string_reads name)
    intro origin v t tag variant
    simp only [DeclaredType.decode, tag, variant, Option.bind_eq_bind, Option.bind_some]
  | reference name =>
    refine adjacent_reads ["value", "reference"] DeclaredType.reference ?_ (by decide) rfl
      (string_reads name)
    intro origin v t tag variant
    simp only [DeclaredType.decode, tag, variant, Option.bind_eq_bind, Option.bind_some]

def literalShape : Shape := adjacent "kind" "value" (Literal.variants.map (·, .leaf))

theorem literal_solid (literal : Literal) : literal.encode ≠ .null := by
  cases literal <;> exact Json.noConfusion

theorem null_reads : ReadsAs literalShape Literal.decode Literal.null.encode .null := by
  intro v varied readable origin
  have written : List.lookup "kind" [("kind", Json.string "null")] = some (.string "null") := rfl
  obtain ⟨result, rfl, r⟩ := adjacent_reading varied written rfl (by simp) readable
  obtain ⟨source, tag⟩ := r.tagged? (by decide) written Literal.variants origin
  have absent : result.lookup "value" = none := r.unwritten "value" rfl rfl
  rw [absent] at tag
  simp only [Literal.decode, tag, Option.bind_eq_bind, Option.bind_some, Tagged.isBare, if_true]

theorem literal_reads {literal : Literal} (finite : Finite (literalFloats literal)) :
    ReadsAs literalShape Literal.decode literal.encode literal := by
  cases literal with
  | int n =>
    refine adjacent_reads Literal.variants Literal.int ?_ (by decide) rfl (int64_reads n)
    intro origin v t tag variant
    simp only [Literal.decode, tag, variant, Option.bind_eq_bind, Option.bind_some]
  | float x =>
    refine adjacent_reads Literal.variants Literal.float ?_ (by decide) rfl
      (double_reads (finite x List.mem_cons_self))
    intro origin v t tag variant
    simp only [Literal.decode, tag, variant, Option.bind_eq_bind, Option.bind_some]
  | bool b =>
    refine adjacent_reads Literal.variants Literal.bool ?_ (by decide) rfl (bool_reads b)
    intro origin v t tag variant
    simp only [Literal.decode, tag, variant, Option.bind_eq_bind, Option.bind_some]
  | char c =>
    refine adjacent_reads Literal.variants Literal.char ?_ (by decide) rfl (char_reads c)
    intro origin v t tag variant
    simp only [Literal.decode, tag, variant, Option.bind_eq_bind, Option.bind_some]
  | string s =>
    refine adjacent_reads Literal.variants Literal.string ?_ (by decide) rfl (string_reads s)
    intro origin v t tag variant
    simp only [Literal.decode, tag, variant, Option.bind_eq_bind, Option.bind_some]
  | null => exact null_reads

theorem given_reads {x : Option Literal} (finite : Finite (x.toList.flatMap literalFloats)) :
    ∀ literal, x = some literal → ReadsAs literalShape Literal.decode literal.encode literal := by
  intro literal given
  exact literal_reads (finite_flatMap.mp finite literal (Option.mem_toList.mpr given))

def argumentShape : Shape :=
  .tagged "kind" [
    ("param", [("kind", .leaf, none), ("name", .leaf, none)]),
    ("literal", [("kind", .leaf, none), ("literal", literalShape, none),
      ("wraps_into_nullable", .leaf, some (.bool false)), ("slot", .leaf, none)])]

/-- An argument is read by its tag, and its fields from what is left of the record. -/
theorem argument_opens {variant : String} {fields : Fields} {members result : Record}
    (r : Reading (("kind", .leaf, none) :: fields) members result)
    (written : members.lookup "kind" = some (.string variant)) (origin : Origin) :
    Argument.decode origin (.object result) =
      Argument.decodeFields variant (.object (result.filter (·.1 != "kind"))) := by
  have readable : (Json.object result).isReadable = true := r.readable
  have once := r.once "kind" (by simp)
  have chosen := r.leaf "kind" List.lookup_cons_self written
  have leading : leadingName? Argument.variants origin (.string variant) = some variant := by
    cases origin <;> rfl
  simp only [Argument.decode, readable, once, chosen, leading, if_true, Option.bind_eq_bind,
    Option.bind_some]

theorem argument_reads {arg : Argument} (finite : Finite (argumentFloats arg)) :
    ReadsAs argumentShape Argument.decode arg.encode arg := by
  intro v varied readable origin
  cases arg with
  | param name =>
    obtain ⟨result, rfl, r⟩ := tagged_reading varied rfl rfl (by simp) readable
    have fields := r.untagged rfl
    have record : record? ["name"] (.object (result.filter (·.1 != "kind"))) =
        some (result.filter (·.1 != "kind")) := fields.record?
    have name := fields.required "name" rfl rfl (string_reads name) .held
    rw [argument_opens r rfl origin]
    simp only [Argument.decodeFields, record, name, Option.bind_eq_bind, Option.bind_some]
  | literal value wraps slot =>
    obtain ⟨result, rfl, r⟩ :=
      tagged_reading varied rfl rfl (by cases slot <;> simp [member?]) readable
    have fields := r.untagged rfl
    have record : record? ["literal", "wraps_into_nullable", "slot"]
        (.object (result.filter (·.1 != "kind"))) = some (result.filter (·.1 != "kind")) :=
      fields.record?
    have value := fields.required "literal" rfl rfl (literal_reads finite) .held
    have wraps := fields.defaulted "wraps_into_nullable" false rfl rfl ⟨rfl, rfl⟩
      (bool_reads wraps) .held
    have slot := fields.optional "slot" slot rfl (by cases slot <;> rfl)
      (fun _ => Json.noConfusion) (fun p _ => primitive_reads p) .held
    rw [argument_opens r rfl origin]
    simp only [Argument.decodeFields, record, value, wraps, slot, Option.bind_eq_bind,
      Option.bind_some]

def callShape : Shape := .record [("target", .leaf, none), ("args", .list argumentShape, none)]

theorem call_reads {c : Call} (finite : Finite (callFloats c)) :
    ReadsAs callShape Call.decode c.encode c := by
  intro v varied readable origin
  obtain ⟨result, rfl, r⟩ := reading varied (by simp) readable
  have record : record? ["target", "args"] (.object result) = some result := r.record?
  have target := r.required "target" rfl rfl (string_reads c.target) origin
  have args := r.required "args" rfl rfl
    (readsAs_list fun arg member => argument_reads (finite_flatMap.mp finite arg member)) origin
  simp only [Call.decode, record, target, args, Option.bind_eq_bind, Option.bind_some]

def bodyShape : Shape := adjacent "kind" "value" [("block", .list .leaf), ("forward", callShape)]

theorem body_reads {body : MethodBody} (finite : Finite (bodyFloats body)) :
    ReadsAs bodyShape MethodBody.decode body.encode body := by
  cases body with
  | block lines =>
    refine adjacent_reads ["block", "forward"] MethodBody.block ?_ (by decide) rfl
      (readsAs_list fun line _ => string_reads line)
    intro origin v t tag variant
    simp only [MethodBody.decode, tag, variant, Option.bind_eq_bind, Option.bind_some]
  | forward call =>
    refine adjacent_reads ["block", "forward"] MethodBody.forward ?_ (by decide) rfl
      (call_reads finite)
    intro origin v t tag variant
    simp only [MethodBody.decode, tag, variant, Option.bind_eq_bind, Option.bind_some]

/-! Declarations -/

def spanShape : Shape := .record [("start", .leaf, none), ("end", .leaf, none)]

theorem span_reads (s : Span) : ReadsAs spanShape Span.decode s.encode s := by
  intro v varied readable origin
  obtain ⟨result, rfl, r⟩ := reading varied (by simp) readable
  have record : record? ["start", "end"] (.object result) = some result := r.record?
  have start := r.required "start" rfl rfl (uint32_reads s.start) origin
  have stop := r.required "end" rfl rfl (uint32_reads s.stop) origin
  simp only [Span.decode, record, start, stop, Option.bind_eq_bind, Option.bind_some]

def modifiersShape : Shape :=
  .record [("visibility", .leaf, some Visibility.privateMember.encode),
    ("static", .leaf, some (.bool false))]

theorem modifiers_reads (m : Modifiers) : ReadsAs modifiersShape Modifiers.decode m.encode m := by
  intro v varied readable origin
  obtain ⟨result, rfl, r⟩ := reading varied (by simp) readable
  have record : record? ["visibility", "static"] (.object result) = some result := r.record?
  have visibility := r.defaulted "visibility" .privateMember rfl rfl ⟨rfl, rfl⟩
    (visibility_reads m.visibility) origin
  have isStatic := r.defaulted "static" false rfl rfl ⟨rfl, rfl⟩ (bool_reads m.isStatic) origin
  simp only [Modifiers.decode, record, visibility, isStatic, Option.bind_eq_bind, Option.bind_some]

def parameterShape : Shape :=
  .record [("name", .leaf, none), ("type", declaredShape, none),
    ("nullable", .leaf, some (.bool false)), ("default", literalShape, none),
    ("span", spanShape, none)]

theorem parameter_reads {p : Parameter} (finite : Finite (parameterFloats p)) :
    ReadsAs parameterShape Parameter.decode p.encode p := by
  intro v varied readable origin
  obtain ⟨result, rfl, r⟩ :=
    reading varied (by cases p.default <;> cases p.span <;> simp [member?]) readable
  have record : record? ["name", "type", "nullable", "default", "span"] (.object result) =
      some result := r.record?
  have name := r.required "name" rfl rfl (string_reads p.name) origin
  have type := r.required "type" rfl rfl (declared_reads p.type) origin
  have nullable := r.defaulted "nullable" false rfl rfl ⟨rfl, rfl⟩ (bool_reads p.nullable) origin
  have default := r.optional "default" p.default rfl (by cases p.default <;> cases p.span <;> rfl)
    literal_solid (given_reads finite) origin
  have span := r.optional "span" p.span rfl (by cases p.default <;> cases p.span <;> rfl)
    (fun _ => Json.noConfusion) (fun s _ => span_reads s) origin
  simp only [Parameter.decode, record, name, type, nullable, default, span, Option.bind_eq_bind,
    Option.bind_some]

def returnShape : Shape :=
  .record [("type", declaredShape, none), ("nullable", .leaf, some (.bool false))]

theorem return_reads (t : ReturnType) : ReadsAs returnShape ReturnType.decode t.encode t := by
  intro v varied readable origin
  obtain ⟨result, rfl, r⟩ := reading varied (by simp) readable
  have record : record? ["type", "nullable"] (.object result) = some result := r.record?
  have type := r.required "type" rfl rfl (declared_reads t.type) origin
  have nullable := r.defaulted "nullable" false rfl rfl ⟨rfl, rfl⟩ (bool_reads t.nullable) origin
  simp only [ReturnType.decode, record, type, nullable, Option.bind_eq_bind, Option.bind_some]

def methodShape : Shape :=
  .record [("name", .leaf, none), ("params", .list parameterShape, some (.array [])),
    ("return_type", returnShape, none), ("kind", .leaf, some MethodKind.method.encode),
    ("modifiers", modifiersShape, some (Modifiers.encode {})),
    ("body", bodyShape, some (MethodBody.block []).encode), ("span", spanShape, none)]

theorem method_reads {m : Method} (finite : Finite (methodFloats m)) :
    ReadsAs methodShape Method.decode m.encode m := by
  obtain ⟨paramsFinite, bodyFinite⟩ := finite_append.mp finite
  intro v varied readable origin
  obtain ⟨result, rfl, r⟩ :=
    reading varied (by cases m.returnType <;> cases m.span <;> simp [member?]) readable
  have record : record? ["name", "params", "return_type", "kind", "modifiers", "body", "span"]
      (.object result) = some result := r.record?
  have name := r.required "name" rfl rfl (string_reads m.name) origin
  have params := r.defaulted "params" [] rfl rfl ⟨rfl, rfl⟩
    (readsAs_list fun p member => parameter_reads (finite_flatMap.mp paramsFinite p member)) origin
  have returnType := r.optional "return_type" m.returnType rfl
    (by cases m.returnType <;> cases m.span <;> rfl)
    (fun _ => Json.noConfusion) (fun t _ => return_reads t) origin
  have kind := r.defaulted "kind" .method rfl (by cases m.returnType <;> rfl) ⟨rfl, rfl⟩
    (kind_reads m.kind) origin
  have modifiers := r.defaulted "modifiers" {} rfl (by cases m.returnType <;> rfl) ⟨rfl, rfl⟩
    (modifiers_reads m.modifiers) origin
  have body := r.defaulted "body" (.block []) rfl (by cases m.returnType <;> rfl) ⟨rfl, rfl⟩
    (body_reads bodyFinite) origin
  have span := r.optional "span" m.span rfl (by cases m.returnType <;> cases m.span <;> rfl)
    (fun _ => Json.noConfusion) (fun s _ => span_reads s) origin
  simp only [Method.decode, record, name, params, returnType, kind, modifiers, body, span,
    Option.bind_eq_bind, Option.bind_some]

def fieldShape : Shape :=
  .record [("name", .leaf, none), ("type", declaredShape, none),
    ("nullable", .leaf, some (.bool false)),
    ("modifiers", modifiersShape, some (Modifiers.encode {})),
    ("initializer", literalShape, none), ("span", spanShape, none)]

theorem field_reads {f : Field} (finite : Finite (fieldFloats f)) :
    ReadsAs fieldShape Field.decode f.encode f := by
  intro v varied readable origin
  obtain ⟨result, rfl, r⟩ :=
    reading varied (by cases f.initializer <;> cases f.span <;> simp [member?]) readable
  have record : record? ["name", "type", "nullable", "modifiers", "initializer", "span"]
      (.object result) = some result := r.record?
  have name := r.required "name" rfl rfl (string_reads f.name) origin
  have type := r.required "type" rfl rfl (declared_reads f.type) origin
  have nullable := r.defaulted "nullable" false rfl rfl ⟨rfl, rfl⟩ (bool_reads f.nullable) origin
  have modifiers := r.defaulted "modifiers" {} rfl rfl ⟨rfl, rfl⟩ (modifiers_reads f.modifiers)
    origin
  have initializer := r.optional "initializer" f.initializer rfl
    (by cases f.initializer <;> cases f.span <;> rfl) literal_solid (given_reads finite) origin
  have span := r.optional "span" f.span rfl (by cases f.initializer <;> cases f.span <;> rfl)
    (fun _ => Json.noConfusion) (fun s _ => span_reads s) origin
  simp only [Field.decode, record, name, type, nullable, modifiers, initializer, span,
    Option.bind_eq_bind, Option.bind_some]

def typeShape : Shape :=
  .record [("name", .leaf, none), ("fields", .list fieldShape, some (.array [])),
    ("methods", .list methodShape, some (.array []))]

theorem type_reads {t : TypeDecl} (finite : Finite (typeFloats t)) :
    ReadsAs typeShape TypeDecl.decode t.encode t := by
  obtain ⟨fieldsFinite, methodsFinite⟩ := finite_append.mp finite
  intro v varied readable origin
  obtain ⟨result, rfl, r⟩ := reading varied (by simp) readable
  have record : record? ["name", "fields", "methods"] (.object result) = some result := r.record?
  have name := r.required "name" rfl rfl (string_reads t.name) origin
  have fields := r.defaulted "fields" [] rfl rfl ⟨rfl, rfl⟩
    (readsAs_list fun f member => field_reads (finite_flatMap.mp fieldsFinite f member)) origin
  have methods := r.defaulted "methods" [] rfl rfl ⟨rfl, rfl⟩
    (readsAs_list fun m member => method_reads (finite_flatMap.mp methodsFinite m member)) origin
  simp only [TypeDecl.decode, record, name, fields, methods, Option.bind_eq_bind, Option.bind_some]

def programShape : Shape :=
  .record [("namespace", .leaf, some (.string "")), ("types", .list typeShape, some (.array [])),
    ("source", .leaf, none)]

/-- A program is read back from its JSON form, whatever the order of the members, with any unknown
ones added and without any that hold their default. -/
theorem decode_varied {p : Program} (finite : Finite (floats p)) {v : Json}
    (varied : Varies programShape p.encode v) (readable : v.isReadable = true) :
    Program.decode .direct v = some p := by
  obtain ⟨result, rfl, r⟩ := reading varied (by cases p.source <;> simp [member?]) readable
  have record : record? ["namespace", "types", "source"] (.object result) = some result := r.record?
  have namespaceName := r.defaulted "namespace" "" rfl rfl ⟨rfl, rfl⟩
    (string_reads p.namespaceName) .direct
  have types := r.defaulted "types" [] rfl rfl ⟨rfl, rfl⟩
    (readsAs_list fun t member => type_reads (finite_flatMap.mp finite t member)) .direct
  have source := r.optional "source" p.source rfl (by cases p.source <;> rfl)
    (fun _ => Json.noConfusion) (fun s _ => string_reads s) .direct
  simp only [Program.decode, record, namespaceName, types, source, Option.bind_eq_bind,
    Option.bind_some]

def half : Literal := .float ⟨0x3fe0000000000000⟩

/-- A method that passes a number on. -/
def halve : Method :=
  { name := "halve", body := .forward ⟨"scale", [.literal half false none]⟩ }

def halving : Program := { types := [{ name := "T", methods := [halve] }] }

/-- The call with its tags behind what they tag. -/
def terseCall : Json :=
  .object [
    ("value", .object [
      ("args", .array [
        .object [
          ("literal", .object [("value", .float ⟨0x3fe0000000000000⟩), ("kind", .string "float")]),
          ("kind", .string "literal")]]),
      ("target", .string "scale")]),
    ("kind", .string "forward")]

/-- The program with little more than names, and a comment. -/
def terse : Json :=
  .object [
    ("types", .array [
      .object [
        ("name", .string "T"),
        ("methods", .array [
          .object [
            ("comment", .string "half the size"),
            ("body", terseCall),
            ("name", .string "halve")]])]])]

theorem shortened {fields : Fields} {members kept : Record}
    (varied : MembersVary fields members kept) :
    Varies (.record fields) (.object members) (.object kept) :=
  .record varied (List.forall_mem_nil _) (List.Perm.of_eq (List.append_nil kept).symm)

theorem swapped {fields : Fields} {first second u v : Json} {one other : String}
    {shape otherShape : Shape} (known : fields.lookup one = some (shape, none))
    (otherKnown : fields.lookup other = some (otherShape, none)) (varied : Varies shape first u)
    (otherVaried : Varies otherShape second v) :
    Varies (.record fields) (.object [(one, first), (other, second)])
      (.object [(other, v), (one, u)]) :=
  .record (.kept known varied (.kept otherKnown otherVaried .nil)) (by simp)
    (List.Perm.swap _ _ [])

theorem terse_varied : Varies programShape halving.encode terse := by
  have literal : Varies literalShape half.encode
      (.object [("value", .float ⟨0x3fe0000000000000⟩), ("kind", .string "float")]) :=
    .tagged rfl rfl (swapped rfl rfl .same .same)
  have arg : Varies argumentShape (Argument.literal half false none).encode _ :=
    .tagged rfl rfl (.record (.kept rfl .same (.kept rfl literal (.dropped rfl .nil))) (by simp)
      (List.Perm.swap _ _ []))
  have body : Varies bodyShape halve.body.encode terseCall :=
    .tagged rfl rfl (swapped rfl rfl .same (swapped rfl rfl .same (.list (.cons arg .nil))))
  have method : Varies methodShape halve.encode _ :=
    .record (.kept rfl .same (.dropped rfl (.dropped rfl (.dropped rfl (.kept rfl body .nil)))))
      (by simp) (List.reverse_perm [_, _, ("comment", .string "half the size")])
  have type : Varies typeShape (TypeDecl.encode { name := "T", methods := [halve] }) _ :=
    shortened (.kept rfl .same (.dropped rfl (.kept rfl (.list (.cons method .nil)) .nil)))
  exact shortened (.dropped rfl (.kept rfl (.list (.cons type .nil)) .nil))

theorem halving_from_terse : Program.decode .direct terse = some halving :=
  decode_varied (by decide) terse_varied rfl

end Overloads.Proofs.TolerantReading
