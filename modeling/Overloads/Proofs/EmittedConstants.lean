import Overloads.Config.Basic
import Overloads.Proofs.Collection
import Overloads.Proofs.NumeralValues
import Overloads.Proofs.QuotedText
import Overloads.Proofs.Resolution

/-! Every literal text that lowering emits is a constant of the target that its slot can hold. The
text alone tells what the constant is and which value it has, so the checks on literals and their
spelling are held against each other here. -/

namespace Overloads.Proofs.EmittedConstants
open Constants Emission NumeralValues OverloadSets

/-- Whether a primitive can hold an integer. Floating types take any. -/
def IntegerFits : Primitive → Int → Prop
  | .int, n => -2 ^ 31 ≤ n ∧ n < 2 ^ 31
  | .long, n => -2 ^ 63 ≤ n ∧ n < 2 ^ 63
  | .byte, n => 0 ≤ n ∧ n < 2 ^ 8
  | .double, _ | .single, _ => True
  | .bool, _ | .char, _ => False

/-- A numeral with suffix that a single can hold. -/
def SingleNumeral (text : List Char) : Prop :=
  ∃ numeral, text = numeral ++ ['f'] ∧
    ∃ x : Double, x.magnitude ≤ Double.largestSingleMagnitude ∧ Rounds x (magnitude numeral)

/-- Whether a constant may stand in a slot of the primitive. Only null needs a wrapped slot. -/
def FitsPrimitive (p : Primitive) (wrapped : Bool) (text : List Char) : Prop :=
  match Constant.ofText? text with
  | some .null => wrapped = true
  | some .integer => IntegerFits p (integerValue text)
  | some .double => p = .double
  | some .single => p = .single ∧ (Constant.ofWord? text = some .single ∨ SingleNumeral text)
  | some .bool => p = .bool
  | some .char =>
    p = .char ∧ ∃ c : Char, c.toNat ≤ 0xffff ∧ Quoted.decode? '\x27' text = some ([c], [])
  | some .string | none => False

def FitsReference (text : List Char) : Prop :=
  text = "null".toList ∨ ∃ s, Quoted.decode? '"' text = some (s, [])

/-- Nothing is known of the user's own value types and of unresolved ones. -/
def FitsSlot (slot : SlotType) (text : String) : Prop :=
  match slot with
  | .value storage =>
    ∀ p, storage.primitive? = some p → FitsPrimitive p storage.isWrapped text.toList
  | .reference _ => FitsReference text.toList
  | .unresolved _ => True

def ArgumentFits (slot : SlotType) : Argument → Prop
  | .param _ => True
  | .literal value wraps primitive => FitsSlot slot (Argument.literal value wraps primitive).render

structure ConstantsFit (t : TargetType) : Prop where
  initializers : ∀ f ∈ t.fields, ∀ text, f.initializer = some text → FitsSlot f.slot text
  defaults : ∀ o ∈ t.overloads, ∀ p ∈ o.params, ∀ text, p.nativeDefault = some text →
    FitsSlot p.slot text
  arguments : ∀ m ∈ t.methods, ∀ o ∈ m.overloads, ∀ call, o.call? = some call →
    ∃ canonical, m.canonical? = some canonical ∧
      List.Forall₂ ArgumentFits canonical.slots call.args

theorem integer_fits {p : Primitive} {n : Int64} (fits : (Literal.int n).fitsPrimitive p = true) :
    IntegerFits p n.toInt := by
  cases p with
  | double | single => trivial
  | bool | char => cases fits
  | int | long | byte =>
    simp only [Literal.fitsPrimitive, Primitive.integerRange?, Option.any_some, Bool.and_eq_true,
      decide_eq_true_eq] at fits
    simp only [IntegerFits]
    omega

theorem single_fits {x : Double} (fits : (Literal.float x).fitsPrimitive .single = true) :
    Constant.ofWord? (Literal.renderDouble x true).toList = some .single ∨
      SingleNumeral (Literal.renderDouble x true).toList := by
  simp only [Literal.renderDouble]
  split
  next => exact Or.inl (by decide)
  next number =>
    split
    next infinite =>
      left
      cases x.isNegative <;> decide
    next bounded =>
      right
      have finite : x.isFinite = true := by
        simp only [Double.isNaN, Double.isInfinite, Double.isFinite, decide_eq_true_eq, beq_iff_eq]
          at number bounded ⊢
        omega
      simp only [Literal.fitsPrimitive, finite, Bool.not_true, Bool.false_or, decide_eq_true_eq]
        at fits
      obtain ⟨y, bound, rounds⟩ := write_rounds x
      refine ⟨_, ?_, y, Nat.le_trans bound fits, rounds⟩
      rw [if_true, String.toList_append]
      rfl

/-- A literal that passes the check of a primitive is spelled as a constant of it. -/
theorem fitsPrimitive_render {p : Primitive} {literal : Literal} (wrapped : Bool)
    (fits : literal.fitsPrimitive p = true) :
    FitsPrimitive p wrapped (literal.render (some p)).toList := by
  unfold FitsPrimitive
  rw [Constant.ofText?_render]
  cases literal with
  | int n =>
    simp only [Constant.ofLiteral, Literal.render, integerValue_toString]
    exact integer_fits fits
  | float x =>
    cases p with
    | double => rfl
    | single => exact ⟨rfl, single_fits fits⟩
    | int | long | byte | bool | char => cases fits
  | bool b => exact eq_of_beq fits
  | char c =>
    simp only [Literal.fitsPrimitive, Bool.and_eq_true, beq_iff_eq, decide_eq_true_eq] at fits
    refine ⟨fits.1, c, fits.2, ?_⟩
    have read := QuotedText.decode?_encode (Or.inr rfl) [c] []
    rw [List.append_nil] at read
    rw [Literal.render, String.toList_ofList, read]
  | string s => cases fits
  | null => cases fits

theorem fitsPrimitive_of_fitsValue {storage : Storage} {p : Primitive} {literal : Literal}
    (fits : literal.fitsValue storage = true) (primitive : storage.primitive? = some p)
    (solid : literal ≠ .null) : literal.fitsPrimitive p = true := by
  cases literal with
  | null => exact absurd rfl solid
  | int _ | float _ | bool _ | char _ | string _ =>
    rw [Literal.fitsValue, primitive] at fits
    · exact fits
    · exact solid

theorem admits_render {slot : SlotType} {literal : Literal} (admits : slot.admits literal = true) :
    FitsSlot slot (literal.render slot.primitive?) := by
  cases slot with
  | unresolved name => trivial
  | reference name =>
    cases literal with
    | null => exact Or.inl rfl
    | string s =>
      have read := QuotedText.decode?_encode (Or.inl rfl) s.toList []
      rw [List.append_nil] at read
      refine Or.inr ⟨s.toList, ?_⟩
      rw [Literal.render, String.toList_ofList, read]
    | int _ | float _ | bool _ | char _ => cases admits
  | value storage =>
    intro p primitive
    simp only [SlotType.primitive?, primitive]
    -- Nothing evaluates the text as long as the literal stays a variable.
    by_cases null : literal = .null
    · rw [null, FitsPrimitive, Constant.ofText?_render]
      rw [null] at admits
      exact admits
    · exact fitsPrimitive_render _ (fitsPrimitive_of_fitsValue admits primitive null)

theorem initializer_fits {r : Registry} {f : Field} {text : String}
    (kept : (f.lower r).initializer = some text) : FitsSlot (f.lower r).slot text := by
  obtain ⟨literal, _, fits, rfl⟩ := Field.lower_initializer_eq_some_iff.mp kept
  exact admits_render fits

/-- The defaults that callers may leave out have all been checked. -/
theorem omitted_admits {r : Registry} {m : Method} (fits : m.misfit? r = none) {p : Parameter}
    (omitted : p ∈ m.params.drop m.optionalStart) {literal : Literal}
    (declared : p.default = some literal) : (p.slot r).admits literal = true := by
  have checked := List.findSome?_eq_none_iff.mp fits p omitted
  by_contra rejected
  simp only [Parameter.misfit?, declared, rejected, if_false] at checked
  cases checked

theorem default_fits {s : Setting} {m : Method} (fits : m.misfit? s.registry = none)
    {o : Overload} (member : o ∈ m.overloads s) {p : TargetParam} (inside : p ∈ o.params)
    {text : String} (native : p.nativeDefault = some text) : FitsSlot p.slot text := by
  obtain ⟨declared, omitted, literal, given, same, rfl⟩ := native_of_mem member inside native
  rw [same]
  exact admits_render (omitted_admits fits omitted given)

/-- Arguments that pass a parameter on carry no constant, and the others are checked defaults. -/
theorem arguments_fit {s : Setting} {m : Method} (fits : m.misfit? s.registry = none)
    {keep : Nat} (least : m.optionalStart ≤ keep) {call : Call}
    (forwards : (m.forwarding s keep).call? = some call) :
    List.Forall₂ ArgumentFits (m.canonical s).slots call.args := by
  rw [canonical_slots, List.forall₂_map_left_iff]
  refine Resolution.forwarding_arguments least forwards (fun _ _ => trivial) ?_
  intro p member arg given
  obtain ⟨literal, declared, rfl⟩ := Option.map_eq_some_iff.mp given
  have omitted := List.drop_subset_drop_left m.params least member
  exact admits_render (omitted_admits fits omitted declared)

/-- Every constant of the output fits its slot: the initializers of fields, the native defaults of
parameters, and the literals that synthesized calls pass. -/
theorem constants_fit (c : Config) (p : Program) : ∀ t ∈ (p.run c).types, ConstantsFit t := by
  intro t member
  rw [Program.run, Collection.lower_types] at member
  obtain ⟨declared, _, rfl⟩ := List.mem_map.mp member
  constructor
  · intro f field text kept
    obtain ⟨source, _, rfl⟩ := List.mem_map.mp field
    exact initializer_fits kept
  · intro o overload param inside text native
    obtain ⟨index, m, survives, found, present⟩ := mem_lowered.mp overload
    obtain ⟨other, overloads, found', diagnostics, lowered⟩ := survives.lowers
    obtain rfl := Option.some.inj (found.symm.trans found')
    exact default_fits (lower_eq_ok_iff.mp lowered).1 present inside native
  · intro target emitted o present call forwards
    obtain ⟨index, _, m, overloads, lowers, rfl⟩ := mem_emitted.mp emitted
    obtain rfl := lowers.overloads_eq
    obtain ⟨_, diagnostics, lowered⟩ := lowers
    rcases mem_overloads.mp present with rfl | ⟨keep, least, _, rfl⟩
    · cases forwards
    · have fits := (lower_eq_ok_iff.mp lowered).1
      exact ⟨m.canonical c.setting, rfl, arguments_fit fits least forwards⟩

/-- Literals at the limits of their slots. -/
def limits : TypeDecl :=
  { name := "Limits"
    fields := [
      { name := "least", type := .value "Int", initializer := some (.int (-0x80000000)) },
      { name := "largest", type := .value "Single"
        initializer := some (.float ⟨0x47efffffe0000000⟩) },
      { name := "larger", type := .value "Single"
        initializer := some (.float ⟨0x47efffffe0000001⟩) },
      { name := "unit", type := .value "Char", nullable := true, initializer := some .null }]
    methods := [
      { name := "scale"
        params := [
          { name := "n", type := .value "Byte", default := some (.int 255) },
          { name := "label", type := .reference "String", default := some (.string "a\"b") }] }] }

theorem limits_fit :
    ∃ t ∈ (Program.run {} { types := [limits] }).types,
      t.fields.map TargetField.initializer =
        [some "-2147483648", some "3.4028234663852886e38f", none, some "null"] ∧
      t.overloads.map (fun o => o.params.map TargetParam.nativeDefault) =
        [[some "255", some "\"a\\\"b\""], [none], []] ∧ ConstantsFit t := by
  have member : (limits.lower (Config.setting {})).decl ∈
      (Program.run {} { types := [limits] }).types := by
    rw [Program.run, Collection.lower_types]
    exact List.mem_map_of_mem List.mem_cons_self
  exact ⟨_, member, by decide, by decide, constants_fit {} _ _ member⟩

end Overloads.Proofs.EmittedConstants
