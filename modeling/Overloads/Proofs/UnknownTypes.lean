import Overloads.Lowering.Method

/-! Value types that the target does not know. A declaration of such a type keeps an unresolved
slot and is reported, and no other declaration does or is. -/

namespace Overloads.Proofs.UnknownTypes

/-- Whether a value type has a name that the registry does not resolve. -/
def unknown (r : Registry) : DeclaredType → Bool
  | .value name => (r.resolve? name).isNone
  | .reference _ => false

def Resolved (slot : SlotType) : Prop := ∀ name, slot ≠ .unresolved name

variable {r : Registry} {type : DeclaredType}

theorem slot_of_unknown (missing : unknown r type = true) (nullable : Bool) :
    r.slot type nullable = .error (.unsupported type.name) := by
  cases type with
  | reference name => cases missing
  | value name =>
    have none := Option.isNone_iff_eq_none.mp missing
    simp [Registry.slot, Registry.storage, none, Except.map]

theorem slot_of_known (present : unknown r type = false) (nullable : Bool) :
    ∃ slot, r.slot type nullable = .ok slot ∧ Resolved slot := by
  cases type with
  | reference name => exact ⟨.reference name, rfl, fun _ same => SlotType.noConfusion same⟩
  | value name =>
    cases found : r.resolve? name with
    | none => simp [unknown, found] at present
    | some v =>
      refine ⟨.value (if nullable then .wrapped v else .bare v), ?_,
        fun _ same => SlotType.noConfusion same⟩
      simp [Registry.slot, Registry.storage, found, Except.map]

theorem resolved_ofDeclared_iff (r : Registry) (type : DeclaredType) (nullable : Bool) :
    Resolved (.ofDeclared r type nullable) ↔ unknown r type = false := by
  cases known : unknown r type with
  | true =>
    simp only [SlotType.ofDeclared, slot_of_unknown known, Bool.true_eq_false, iff_false]
    exact fun resolved => resolved _ rfl
  | false =>
    obtain ⟨slot, found, resolved⟩ := slot_of_known known nullable
    simpa only [SlotType.ofDeclared, found, iff_true] using resolved

/-- Only a value type without a resolution leaves its slot unresolved, under its own name. -/
theorem ofDeclared_eq_unresolved_iff {nullable : Bool} {name : String} :
    SlotType.ofDeclared r type nullable = .unresolved name ↔
      type = .value name ∧ r.resolve? name = none := by
  cases known : unknown r type with
  | true =>
    cases type with
    | reference other => cases known
    | value other =>
      have missing : r.resolve? other = none := Option.isNone_iff_eq_none.mp known
      simp only [SlotType.ofDeclared, slot_of_unknown known, DeclaredType.name,
        SlotType.unresolved.injEq, DeclaredType.value.injEq, iff_self_and]
      rintro rfl
      exact missing
  | false =>
    obtain ⟨slot, found, resolved⟩ := slot_of_known known nullable
    simp only [SlotType.ofDeclared, found, resolved name, false_iff, not_and]
    rintro rfl missing
    simp [unknown, missing] at known

theorem unsupportedDiagnostic_eq (r : Registry) (owner member place : String) (type : DeclaredType)
    (nullable : Bool) (span : Option Span) :
    unsupportedDiagnostic r owner member place type nullable span =
      if unknown r type then
        [.report .unsupportedType owner member
          (place ++ (TypeError.unsupported type.name).message) span]
      else [] := by
  cases known : unknown r type with
  | true => simp [unsupportedDiagnostic, slot_of_unknown known]
  | false =>
    obtain ⟨slot, found, _⟩ := slot_of_known known nullable
    simp [unsupportedDiagnostic, found]

end Overloads.Proofs.UnknownTypes
