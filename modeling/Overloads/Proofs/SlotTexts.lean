import Overloads.Value.Slot

/-! The text of a slot type tells its form and its name, as long as names do not use the characters
that mark a form. A registry gives at most one slot type of each form to a name, so declarations of
value types print alike only if their slots are the same. -/

namespace Overloads.Proofs.SlotTexts

/-- A name without the characters that mark wrapped and unresolved types. -/
def Plain (name : String) : Prop := ∀ c ∈ name.toList, c ≠ '<' ∧ c ≠ '>' ∧ c ≠ '?'

instance (name : String) : Decidable (Plain name) :=
  List.decidableBAll (fun c => c ≠ '<' ∧ c ≠ '>' ∧ c ≠ '?') name.toList

inductive Form
  | bare
  | suffixed
  | angled
deriving DecidableEq

/-- The text between the last two angles. -/
def innermost (text : List Char) : List Char := ((text.reverse.drop 1).takeWhile (· ≠ '<')).reverse

/-- The form of a type and its name, from its text. -/
def read (text : List Char) : Form × List Char :=
  match text.getLast? with
  | some '?' => (.suffixed, text.dropLast)
  | some '>' => (.angled, innermost text)
  | _ => (.bare, text)

def slotName : SlotType → String
  | .value storage => storage.valueType.name
  | .reference name | .unresolved name => name

def slotForm (style : NullableStyle) : SlotType → Form
  | .value (.bare _) | .reference _ => .bare
  | .value (.wrapped _) =>
    match style with
    | .suffix => .suffixed
    | .generic => .angled
  | .unresolved _ => .angled

theorem read_plain {name : String} (plain : Plain name) : read name.toList = (.bare, name.toList) := by
  unfold read
  split
  next ends => exact absurd rfl (plain _ (List.mem_of_getLast? ends)).2.2
  next ends => exact absurd rfl (plain _ (List.mem_of_getLast? ends)).2.1
  next => rfl

theorem read_suffixed (name : List Char) : read (name ++ ['?']) = (.suffixed, name) := by
  simp [read]

theorem read_angled {name : List Char} (plain : '<' ∉ name) (front : List Char) :
    read (front ++ ['<'] ++ name ++ ['>']) = (.angled, name) := by
  have inside : ∀ c ∈ name.reverse, decide (c ≠ '<') = true := by
    intro c member
    rw [decide_eq_true_eq]
    rintro rfl
    exact plain (List.mem_reverse.mp member)
  have backwards : (front ++ ['<'] ++ name ++ ['>']).reverse =
      '>' :: (name.reverse ++ '<' :: front.reverse) := by
    simp
  have found : innermost (front ++ ['<'] ++ name ++ ['>']) = name := by
    rw [innermost, backwards, List.drop_one, List.tail_cons, List.takeWhile_append_of_pos inside]
    simp
  simp only [read, List.getLast?_append, List.getLast?_singleton, Option.some_or, found]

/-- A reader of the target source recovers form and name of a slot type. -/
theorem read_render (style : NullableStyle) (placeholder : String) {slot : SlotType}
    (plain : Plain (slotName slot)) :
    read (slot.render style placeholder).toList = (slotForm style slot, (slotName slot).toList) := by
  have opening : '<' ∉ (slotName slot).toList := fun member => (plain _ member).1 rfl
  cases slot with
  | reference name => exact read_plain plain
  | unresolved name =>
    simp only [SlotType.render, String.toList_append]
    exact read_angled opening placeholder.toList
  | value storage =>
    cases storage with
    | bare type => exact read_plain plain
    | wrapped type =>
      cases style with
      | suffix =>
        simp only [SlotType.render, Storage.render, String.toList_append]
        exact read_suffixed _
      | generic =>
        simp only [SlotType.render, Storage.render, String.toList_append]
        exact read_angled opening "Nullable".toList

/-- The slot type is one that declarations get from the registry. -/
def Known (r : Registry) : SlotType → Prop
  | .value storage => r.resolve? storage.valueType.name = some storage.valueType
  | .reference _ => True
  | .unresolved name => r.resolve? name = none

theorem ofSpelling?_keyword (p : Primitive) : Primitive.ofSpelling? p.keyword = some p := by
  cases p <;> decide

theorem resolve?_cases {r : Registry} {name : String} {type : ValueType}
    (resolved : r.resolve? name = some type) :
    (∃ p, type = .primitive p) ∨ type = .user name := by
  unfold Registry.resolve? at resolved
  split at resolved
  next p _ => exact Or.inl ⟨p, (Option.some.inj resolved).symm⟩
  next =>
    split at resolved
    next => exact Or.inr (Option.some.inj resolved).symm
    next => cases resolved

/-- The target's name of a value type stands for that type in declarations too. -/
theorem resolve?_name {r : Registry} {name : String} {type : ValueType}
    (resolved : r.resolve? name = some type) : r.resolve? type.name = some type := by
  rcases resolve?_cases resolved with ⟨p, rfl⟩ | rfl
  · simp only [Registry.resolve?, ValueType.name, ofSpelling?_keyword]
  · exact resolved

theorem plain_name {r : Registry} {name : String} {type : ValueType}
    (resolved : r.resolve? name = some type) (plain : Plain name) : Plain type.name := by
  rcases resolve?_cases resolved with ⟨p, rfl⟩ | rfl
  · cases p <;> decide
  · exact plain

theorem known_ofDeclared (r : Registry) (type : DeclaredType) (nullable : Bool) :
    Known r (.ofDeclared r type nullable) := by
  cases type with
  | reference name => trivial
  | value name =>
    rw [SlotType.ofDeclared_value]
    cases resolved : r.resolve? name with
    | none => exact resolved
    | some type => cases nullable <;> exact resolve?_name resolved

theorem plain_ofDeclared (r : Registry) {type : DeclaredType} (plain : Plain type.name)
    (nullable : Bool) : Plain (slotName (.ofDeclared r type nullable)) := by
  cases type with
  | reference name => exact plain
  | value name =>
    rw [SlotType.ofDeclared_value]
    cases resolved : r.resolve? name with
    | none => exact plain
    | some type => cases nullable <;> exact plain_name resolved plain

/-- Whether the first slot has a reference type that is spelled like the value type of the second. -/
def mimics (style : NullableStyle) : SlotType → SlotType → Bool
  | .reference name, .value storage => storage.render style == name
  | _, _ => false

/-- Slot types of one registry print alike only if they are the same. -/
theorem render_inj {style : NullableStyle} {placeholder : String} {a b : SlotType}
    (known : Known r a) (known' : Known r b) (plain : Plain (slotName a))
    (plain' : Plain (slotName b)) (apart : mimics style a b = false)
    (apart' : mimics style b a = false)
    (same : a.render style placeholder = b.render style placeholder) : a = b := by
  have forms : (slotForm style a, (slotName a).toList) = (slotForm style b, (slotName b).toList) := by
    rw [← read_render style placeholder plain, ← read_render style placeholder plain', same]
  obtain ⟨form, letters⟩ := Prod.mk.inj forms
  have name := String.toList_inj.mp letters
  -- The registry gives one name to one value type, and none to an unresolved one.
  cases a with
  | value first =>
    cases b with
    | reference second => exact absurd same (beq_eq_false_iff_ne.mp apart')
    | unresolved second =>
      simp only [Known] at known known'
      cases known.symm.trans ((congrArg r.resolve? name).trans known')
    | value second =>
      have type : first.valueType = second.valueType :=
        Option.some.inj (known.symm.trans ((congrArg r.resolve? name).trans known'))
      cases first <;> cases second <;> cases style <;> cases form <;> cases type <;> rfl
  | reference first =>
    cases b with
    | reference second => exact congrArg SlotType.reference same
    | unresolved second => cases form
    | value second => exact absurd same.symm (beq_eq_false_iff_ne.mp apart)
  | unresolved first =>
    cases b with
    | reference second => cases form
    | unresolved second => exact congrArg SlotType.unresolved name
    | value second =>
      simp only [Known] at known known'
      cases known.symm.trans ((congrArg r.resolve? name).trans known')

/-- The slot of a declaration of value type, with these names registered. -/
def declaredSlot (registered : List String) (name : String) (nullable : Bool) : SlotType :=
  .ofDeclared (.ofNames registered) (.value name) nullable

def declaredText (registered : List String) (style : NullableStyle) (placeholder name : String)
    (nullable : Bool) : String :=
  (declaredSlot registered name nullable).render style placeholder

def stored (nullable : Bool) (type : ValueType) : Storage :=
  if nullable then .wrapped type else .bare type

variable {registered : List String}

theorem declaredSlot_resolved {name : String} {type : ValueType}
    (resolved : (Registry.ofNames registered).resolve? name = some type) (nullable : Bool) :
    declaredSlot registered name nullable = .value (stored nullable type) := by
  rw [declaredSlot, SlotType.ofDeclared_value, resolved]
  rfl

theorem declaredSlot_unresolved {name : String}
    (missing : (Registry.ofNames registered).resolve? name = none) (nullable : Bool) :
    declaredSlot registered name nullable = .unresolved name := by
  rw [declaredSlot, SlotType.ofDeclared_value, missing]
  rfl

theorem resolve?_keyword (r : Registry) (p : Primitive) :
    r.resolve? p.keyword = some (.primitive p) := by
  simp only [Registry.resolve?, ofSpelling?_keyword]

theorem resolve?_registered {user : String} (member : user ∈ registered)
    (foreign : Primitive.ofSpelling? user = none) :
    (Registry.ofNames registered).resolve? user = some (.user user) :=
  Registry.resolve?_of_mem (Registry.mem_ofNames.mpr ⟨member, foreign⟩)

theorem mimics_declaredSlot (style : NullableStyle) (name : String) (nullable : Bool)
    (slot : SlotType) : mimics style (declaredSlot registered name nullable) slot = false := by
  cases resolved : (Registry.ofNames registered).resolve? name with
  | some type =>
    rw [declaredSlot_resolved resolved]
    rfl
  | none =>
    rw [declaredSlot_unresolved resolved]
    rfl

theorem plain_declaredSlot {name : String} (plain : Plain name) (nullable : Bool) :
    Plain (slotName (declaredSlot registered name nullable)) :=
  have declared : Plain (DeclaredType.value name).name := plain
  plain_ofDeclared _ declared nullable

theorem declaredText_inj {style : NullableStyle} {placeholder a b : String}
    {nullable nullable' : Bool} (plain : Plain a) (plain' : Plain b)
    (same : declaredText registered style placeholder a nullable =
      declaredText registered style placeholder b nullable') :
    declaredSlot registered a nullable = declaredSlot registered b nullable' :=
  render_inj (known_ofDeclared _ _ _) (known_ofDeclared _ _ _) (plain_declaredSlot plain _)
    (plain_declaredSlot plain' _) (mimics_declaredSlot _ _ _ _) (mimics_declaredSlot _ _ _ _) same

theorem registered_ne_primitive {style : NullableStyle} {placeholder user : String}
    (plain : Plain user) (member : user ∈ registered)
    (foreign : Primitive.ofSpelling? user = none) (p : Primitive) (nullable nullable' : Bool) :
    declaredText registered style placeholder user nullable ≠
      (stored nullable' (.primitive p)).render style := by
  have keyword : Plain p.keyword := by cases p <;> decide
  intro same
  have primitive := declaredSlot_resolved (resolve?_keyword (.ofNames registered) p) nullable'
  have text : declaredText registered style placeholder p.keyword nullable' =
      (stored nullable' (.primitive p)).render style := by
    rw [declaredText, primitive]
    rfl
  have slots := declaredText_inj plain keyword (same.trans text.symm)
  rw [primitive, declaredSlot_resolved (resolve?_registered member foreign)] at slots
  cases nullable <;> cases nullable' <;> cases slots

theorem unresolved_ne_wrapped {style : NullableStyle} {placeholder a b : String} {type : ValueType}
    (plain : Plain a) (plain' : Plain b)
    (missing : (Registry.ofNames registered).resolve? a = none)
    (found : (Registry.ofNames registered).resolve? b = some type) (nullable : Bool) :
    declaredText registered style placeholder a nullable ≠
      declaredText registered style placeholder b true := by
  intro same
  have slots := declaredText_inj plain plain' same
  rw [declaredSlot_unresolved missing, declaredSlot_resolved found] at slots
  cases slots

/-- Whatever names are registered, two declarations of value types print alike exactly if they have
the same slot. A registered type prints like no primitive, and an unresolved one like no wrapped
one, even where the placeholder is the name of the wrapper. -/
theorem declaredText_eq_iff (registered : List String) (style : NullableStyle)
    (placeholder : String) :
    (∀ a b, Plain a → Plain b → ∀ nullable nullable',
      (declaredText registered style placeholder a nullable =
          declaredText registered style placeholder b nullable' ↔
        declaredSlot registered a nullable = declaredSlot registered b nullable')) ∧
    (∀ user ∈ registered, Plain user → Primitive.ofSpelling? user = none → ∀ nullable,
      declaredSlot registered user nullable = .value (stored nullable (.user user)) ∧
      ∀ p nullable', declaredText registered style placeholder user nullable ≠
        (stored nullable' (.primitive p)).render style) ∧
    ∀ a b type, Plain a → Plain b → (Registry.ofNames registered).resolve? a = none →
      (Registry.ofNames registered).resolve? b = some type → ∀ nullable,
        declaredSlot registered a nullable = .unresolved a ∧
        declaredSlot registered b true = .value (.wrapped type) ∧
        declaredText registered style placeholder a nullable ≠
          declaredText registered style placeholder b true := by
  refine ⟨fun a b plain plain' nullable nullable' => ⟨declaredText_inj plain plain', ?_⟩, ?_, ?_⟩
  · intro same
    rw [declaredText, declaredText, same]
  · intro user member plain foreign nullable
    exact ⟨declaredSlot_resolved (resolve?_registered member foreign) nullable,
      fun p => registered_ne_primitive plain member foreign p nullable⟩
  · intro a b type plain plain' missing found nullable
    exact ⟨declaredSlot_unresolved missing nullable, declaredSlot_resolved found true,
      unresolved_ne_wrapped plain plain' missing found nullable⟩

/-- The wrapper's own name as the placeholder, and a registered name that only differs from a
primitive in its case. -/
theorem lookalikes_differ :
    declaredText ["INT", "int"] .generic "Nullable" "Vec3" true = "Nullable<Vec3>" ∧
      declaredText ["INT", "int"] .generic "Nullable" "Int" true = "Nullable<int>" ∧
      declaredText ["INT", "int"] .generic "Nullable" "INT" true = "Nullable<INT>" ∧
      (declaredText ["INT", "int"] .generic "Nullable" "Vec3" true ≠
        declaredText ["INT", "int"] .generic "Nullable" "INT" true) ∧
      (declaredText ["INT", "int"] .generic "Nullable" "INT" true ≠
        (stored true (.primitive .int)).render .generic) ∧
      declaredText ["INT", "int"] .generic "Nullable" "Int32" false =
        declaredText ["INT", "int"] .generic "Nullable" "int" false := by
  obtain ⟨alike, foreign, wrapped⟩ := declaredText_eq_iff ["INT", "int"] .generic "Nullable"
  refine ⟨by decide, by decide, by decide, ?_, ?_, ?_⟩
  · exact (wrapped "Vec3" "INT" (.user "INT") (by decide) (by decide) (by decide)
      (by decide) true).2.2
  · exact (foreign "INT" (by decide) (by decide) (by decide) true).2 .int true
  · exact (alike "Int32" "int" (by decide) (by decide) false false).mpr (by decide)

end Overloads.Proofs.SlotTexts
