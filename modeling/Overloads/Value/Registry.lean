import Overloads.Value.Storage

/-! The user value types known to a run. Primitives are known without registration, and no
user type can take one of their names. -/

namespace Overloads

structure Registry where
  names : List String
  distinct : names.Nodup
  foreign : ∀ name ∈ names, Primitive.ofSpelling? name = none

namespace Registry

def empty : Registry := ⟨[], List.nodup_nil, by simp⟩

def accepts (r : Registry) (name : String) : Bool :=
  (Primitive.ofSpelling? name).isNone && !r.names.contains name

def register (r : Registry) (name : String) : Registry :=
  if new : r.accepts name then
    { names := name :: r.names
      distinct := by
        simp only [accepts, Bool.and_eq_true, Bool.not_eq_true', List.contains_eq_mem,
          decide_eq_false_iff_not] at new
        exact List.nodup_cons.mpr ⟨new.2, r.distinct⟩
      foreign := by
        simp only [accepts, Bool.and_eq_true, Option.isNone_iff_eq_none] at new
        intro other member
        rcases List.mem_cons.mp member with rfl | member
        · exact new.1
        · exact r.foreign other member }
  else r

def ofNames (names : List String) : Registry := names.foldl register empty

theorem mem_register {r : Registry} {name other : String} :
    other ∈ (r.register name).names ↔
      other ∈ r.names ∨ other = name ∧ Primitive.ofSpelling? other = none := by
  unfold register
  split
  next new =>
    simp only [accepts, Bool.and_eq_true, Option.isNone_iff_eq_none] at new
    simp only [List.mem_cons]
    constructor
    · rintro (rfl | known)
      · exact Or.inr ⟨rfl, new.1⟩
      · exact Or.inl known
    · rintro (known | ⟨rfl, _⟩)
      · exact Or.inr known
      · exact Or.inl rfl
  next refused =>
    constructor
    · exact Or.inl
    · rintro (known | ⟨rfl, foreign⟩)
      · exact known
      · simpa [accepts, foreign] using refused

/-- A registry has the listed names that are no primitives, and nothing else. -/
theorem mem_ofNames {names : List String} {name : String} :
    name ∈ (ofNames names).names ↔
      name ∈ names ∧ Primitive.ofSpelling? name = none := by
  have run : ∀ r : Registry, name ∈ (names.foldl register r).names ↔
      name ∈ r.names ∨ name ∈ names ∧ Primitive.ofSpelling? name = none := by
    induction names with
    | nil => simp
    | cons first names ih =>
      intro r
      rw [List.foldl_cons, ih, mem_register, List.mem_cons]
      grind
  simpa [ofNames, empty] using run empty

def size (r : Registry) : Nat := r.names.length

/-- The value type that a declaration's type name stands for. -/
def resolve? (r : Registry) (name : String) : Option ValueType :=
  match Primitive.ofSpelling? name with
  | some p => some (.primitive p)
  | none => if r.names.contains name then some (.user name) else none

theorem resolve?_of_mem {r : Registry} {name : String} (member : name ∈ r.names) :
    r.resolve? name = some (.user name) := by
  simp [resolve?, r.foreign name member, member]

def contains (r : Registry) (name : String) : Bool := (r.resolve? name).isSome

end Registry
end Overloads
