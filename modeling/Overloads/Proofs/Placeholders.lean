import Overloads.Config.Toml

/-! Placeholders of accepted configurations. Validation looks at the placeholder without the white
space around it, and printing takes it as it is written. So an unresolved slot prints as an unbroken
name exactly if no white space surrounds the placeholder. -/

namespace Overloads.Proofs.Placeholders

def Spaces (text : List Char) : Prop := ∀ c ∈ text, Text.isSpace c = true

def Word (text : List Char) : Prop := text ≠ [] ∧ ∀ c ∈ text, Text.isSpace c = false

/-- A non-empty text without white space. -/
def Unbroken (s : String) : Prop := Word s.toList

/-- A text is an unbroken name with white space, or nothing, on either side. -/
structure Surrounds (text before name after : String) : Prop where
  text : text = before ++ name ++ after
  before : Spaces before.toList
  name : Unbroken name
  after : Spaces after.toList

def withPlaceholder (c : Config) (placeholder : String) : Config :=
  { c with lowering := { c.lowering with placeholder } }

/-- Every unresolved slot prints as an unbroken name, directly followed by its type. -/
def PrintsUnbroken (o : RenderOptions) : Prop :=
  ∀ type, ∃ name, Unbroken name ∧ o.slot (.unresolved type) = name ++ "<" ++ type ++ ">"

theorem dropWhile_spaces {before word : List Char} (spaces : Spaces before) (unbroken : Word word)
    (rest : List Char) : (before ++ (word ++ rest)).dropWhile Text.isSpace = word ++ rest := by
  rw [List.dropWhile_append_of_pos spaces]
  obtain ⟨nonempty, inside⟩ := unbroken
  cases word with
  | nil => exact absurd rfl nonempty
  | cons first word =>
    rw [List.cons_append, List.dropWhile_cons_of_neg]
    simp [inside first (by simp)]

theorem trim_word {before word after : List Char} (front : Spaces before) (unbroken : Word word)
    (back : Spaces after) : Text.trim (before ++ (word ++ after)) = word := by
  have turned : Word word.reverse :=
    ⟨by simpa using unbroken.1, fun c member => unbroken.2 c (List.mem_reverse.mp member)⟩
  have spaces : Spaces after.reverse := fun c member => back c (List.mem_reverse.mp member)
  have last := dropWhile_spaces spaces turned []
  rw [List.append_nil, ← List.reverse_append] at last
  rw [Text.trim, Text.trimStart, Text.trimStart, dropWhile_spaces front unbroken, last,
    List.reverse_reverse]

theorem takeWhile_spaces (text : List Char) : Spaces (text.takeWhile Text.isSpace) :=
  List.all_eq_true.mp List.all_takeWhile

/-- What is trimmed away is white space. -/
theorem trim_surrounded (text : List Char) :
    ∃ before after, Spaces before ∧ Spaces after ∧ text = before ++ (Text.trim text ++ after) := by
  let rest := text.dropWhile Text.isSpace
  refine ⟨text.takeWhile Text.isSpace, (rest.reverse.takeWhile Text.isSpace).reverse,
    takeWhile_spaces text, ?_, ?_⟩
  · intro c member
    exact takeWhile_spaces rest.reverse c (List.mem_reverse.mp member)
  · have back : Text.trim text ++ (rest.reverse.takeWhile Text.isSpace).reverse = rest := by
      rw [Text.trim, Text.trimStart, Text.trimStart, ← List.reverse_append,
        List.takeWhile_append_dropWhile, List.reverse_reverse]
    rw [back, List.takeWhile_append_dropWhile]

/-- What is left after trimming is an unbroken name exactly if the text surrounds one. -/
theorem exists_surrounds_iff (text : String) :
    (∃ before name after, Surrounds text before name after) ↔ Word (Text.trim text.toList) := by
  constructor
  · rintro ⟨before, name, after, rfl, front, unbroken, back⟩
    rw [String.toList_append, String.toList_append, List.append_assoc,
      trim_word front unbroken back]
    exact unbroken
  · intro unbroken
    obtain ⟨before, after, front, back, split⟩ := trim_surrounded text.toList
    refine ⟨.ofList before, .ofList (Text.trim text.toList), .ofList after, ?_, ?_, ?_, ?_⟩
    · rw [String.append_assoc, ← String.ofList_append, ← String.ofList_append, ← split,
        String.ofList_toList]
    · rwa [String.toList_ofList]
    · rwa [Unbroken, String.toList_ofList]
    · rwa [String.toList_ofList]

/-- White space around the placeholder does not keep a configuration from being accepted. -/
theorem validate_eq_ok_iff {c accepted : Config} :
    c.validate = .ok accepted ↔ c = accepted ∧
      (∃ before name after, Surrounds c.lowering.placeholder before name after) ∧
      ∀ name ∈ c.valueTypes, Text.isBlank name = false := by
  have named : (∀ name ∈ c.valueTypes, Text.isBlank name = false) ↔
      c.valueTypes.find? Text.isBlank = none := by simp
  rw [named, exists_surrounds_iff, Config.validate]
  split
  next empty => simp [Word, empty]
  next nonempty =>
    split
    next broken =>
      have space : ¬ Word (Text.trim c.lowering.placeholder.toList) := by
        rintro ⟨_, inside⟩
        obtain ⟨found, member, blank⟩ := List.any_eq_true.mp broken
        rw [inside found member] at blank
        cases blank
      simp [space]
    next unbroken =>
      have word : Word (Text.trim c.lowering.placeholder.toList) :=
        ⟨nonempty, by simpa using unbroken⟩
      cases found : c.valueTypes.find? Text.isBlank with
      | some name => simp
      | none => simp [word]

theorem blank_of_spaces {text : String} (spaces : Spaces text.toList)
    (unbroken : ∀ c ∈ text.toList, Text.isSpace c = false) : text = "" := by
  refine String.toList_eq_nil_iff.mp (List.eq_nil_iff_forall_not_mem.mpr fun c member => ?_)
  have both := (spaces c member).symm.trans (unbroken c member)
  cases both

theorem Surrounds.unbroken_iff {text before name after : String}
    (surrounds : Surrounds text before name after) :
    Unbroken text ↔ before = "" ∧ after = "" := by
  obtain ⟨rfl, front, unbroken, back⟩ := surrounds
  constructor
  · intro all
    have inside := all.2
    simp only [String.toList_append, List.forall_mem_append] at inside
    exact ⟨blank_of_spaces front inside.1.1, blank_of_spaces back inside.2⟩
  · rintro ⟨rfl, rfl⟩
    rwa [String.empty_append, String.append_empty]

theorem printsUnbroken_iff (o : RenderOptions) : PrintsUnbroken o ↔ Unbroken o.placeholder := by
  constructor
  · intro prints
    obtain ⟨name, unbroken, same⟩ := prints ""
    have texts := congrArg String.toList same
    simp only [RenderOptions.slot, SlotType.render, String.toList_append,
      List.append_cancel_right_eq, String.toList_inj] at texts
    exact texts ▸ unbroken
  · intro unbroken type
    exact ⟨o.placeholder, unbroken, rfl⟩

theorem accepted_surrounds {text : String} {c : Config} (accepted : Config.ofToml text = .ok c) :
    (∃ before name after, Surrounds c.lowering.placeholder before name after) ∧
      ∀ name ∈ c.valueTypes, Text.isBlank name = false := by
  rw [Config.ofToml] at accepted
  split at accepted
  · cases accepted
  next read _ =>
    obtain ⟨rfl, valid⟩ := validate_eq_ok_iff.mp accepted
    exact valid

/-- The placeholder of an accepted configuration is an unbroken name with white space around it, and
unresolved slots show both. The name stands alone exactly if there is no white space, and any other
white space would be accepted as well. -/
theorem placeholder_unbroken_iff {text : String} {c : Config} (accepted : Config.ofToml text = .ok c) :
    ∃ before name after, Surrounds c.renderOptions.placeholder before name after ∧
      (∀ type, c.renderOptions.slot (.unresolved type) =
        before ++ name ++ after ++ "<" ++ type ++ ">") ∧
      (Unbroken c.renderOptions.placeholder ∧ PrintsUnbroken c.renderOptions ↔
        before = "" ∧ after = "") ∧
      ∀ front back, Spaces front.toList → Spaces back.toList →
        (withPlaceholder c (front ++ name ++ back)).validate =
          .ok (withPlaceholder c (front ++ name ++ back)) := by
  obtain ⟨⟨before, name, after, surrounds⟩, types⟩ := accepted_surrounds accepted
  have placeholder : c.renderOptions.placeholder = c.lowering.placeholder := rfl
  rw [printsUnbroken_iff, and_self, placeholder]
  refine ⟨before, name, after, surrounds, fun type => ?_, surrounds.unbroken_iff, ?_⟩
  · rw [← surrounds.text]
    rfl
  · intro front back leading trailing
    exact validate_eq_ok_iff.mpr
      ⟨rfl, ⟨front, name, back, rfl, leading, surrounds.name, trailing⟩, types⟩

/-- A placeholder behind a space that does not break lines. -/
def leading : Config := { lowering := { placeholder := "\u00a0x" } }

theorem leading_surrounded :
    Config.ofToml "[lowering]\nplaceholder = \"\u00a0x\"\n" = .ok leading ∧
    ∃ before name after, Surrounds leading.renderOptions.placeholder before name after ∧
      (∀ type, leading.renderOptions.slot (.unresolved type) =
        before ++ name ++ after ++ "<" ++ type ++ ">") ∧
      (Unbroken leading.renderOptions.placeholder ∧ PrintsUnbroken leading.renderOptions ↔
        before = "" ∧ after = "") ∧
      ∀ front back, Spaces front.toList → Spaces back.toList →
        (withPlaceholder leading (front ++ name ++ back)).validate =
          .ok (withPlaceholder leading (front ++ name ++ back)) := by
  have accepted : Config.ofToml "[lowering]\nplaceholder = \"\u00a0x\"\n" = .ok leading := rfl
  exact ⟨accepted, placeholder_unbroken_iff accepted⟩

/-- A placeholder in front of a space. -/
def trailing : Config := { lowering := { placeholder := "x " } }

theorem trailing_breaks :
    Config.ofToml "[lowering]\nplaceholder = \"x \"\n" = .ok trailing ∧
    ¬ Unbroken trailing.renderOptions.placeholder ∧
    ¬ PrintsUnbroken trailing.renderOptions ∧
    trailing.renderOptions.slot (.unresolved "Vec3") = "x <Vec3>" := by
  have broken : ¬ Unbroken trailing.renderOptions.placeholder := by
    intro unbroken
    cases unbroken.2 ' ' (by decide)
  exact ⟨rfl, broken, fun prints => broken ((printsUnbroken_iff _).mp prints), rfl⟩

end Overloads.Proofs.Placeholders
