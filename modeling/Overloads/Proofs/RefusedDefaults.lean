import Overloads.Proofs.NativeDefaults
import Overloads.Proofs.UnknownTypes

/-! When a method cannot be lowered. Defaults are checked only where callers may leave the argument
out and the type is known; the leftmost one that its slot refuses is the failure. -/

namespace Overloads.Proofs.RefusedDefaults
open NativeDefaults OverloadSets UnknownTypes

/-- Callers may leave the parameter at the position out, but its slot, of a known type, does not
take its default. -/
structure Refused (r : Registry) (m : Method) (i : Nat) (p : Parameter) (literal : Literal) :
    Prop where
  declared : m.params[i]? = some p
  omittable : Omittable m i
  default : p.default = some literal
  known : unknown r p.type = false
  refused : ∃ e, (p.slot r).check literal = .error e

/-- The method with another default, or none, for the parameter at the position. -/
def redefaulted (m : Method) (i : Nat) (default : Option Literal) : Method :=
  { m with params := m.params.modify i fun p => { p with default } }

theorem check_error_iff {slot : SlotType} {literal : Literal} :
    (∃ e, slot.check literal = .error e) ↔ slot.admits literal = false := by
  cases admitted : slot.admits literal <;> simp [SlotType.check, admitted]

/-- Nothing is refused where the type is unknown. -/
theorem known_of_refused {r : Registry} {p : Parameter} {literal : Literal}
    (refused : (p.slot r).admits literal = false) : unknown r p.type = false := by
  rw [← resolved_ofDeclared_iff r p.type p.nullable]
  intro name unresolved
  rw [Parameter.slot, unresolved] at refused
  cases refused

theorem misfit?_eq_some_iff {r : Registry} {p : Parameter} {e : LowerError} :
    p.misfit? r = some e ↔
      ∃ literal, p.default = some literal ∧ unknown r p.type = false ∧
        (∃ cause, (p.slot r).check literal = .error cause) ∧
        e = .incompatibleDefault p.name literal (p.slot r) := by
  simp only [check_error_iff, Parameter.misfit?]
  cases given : p.default with
  | none => simp
  | some literal =>
    simp only [Option.some.injEq]
    cases admitted : (p.slot r).admits literal with
    | true => simp [admitted]
    | false =>
      have known := known_of_refused admitted
      simp [admitted, known, eq_comm]

theorem Refused.optional {r : Registry} {m : Method} {i : Nat} {p : Parameter} {literal : Literal}
    (refused : Refused r m i p literal) : m.optionalStart ≤ i := by
  have inside := (List.getElem?_eq_some_iff.mp refused.declared).1
  exact (omittable_iff m (Nat.le_of_lt inside)).mp refused.omittable

/-- Of a parameter that callers may leave out, what does not fit is what is refused. -/
theorem misfit?_iff_refused {r : Registry} {m : Method} {i : Nat} {p : Parameter} {e : LowerError}
    (declared : m.params[i]? = some p) (optional : m.optionalStart ≤ i) :
    p.misfit? r = some e ↔
      ∃ literal, Refused r m i p literal ∧ e = .incompatibleDefault p.name literal (p.slot r) := by
  have inside := (List.getElem?_eq_some_iff.mp declared).1
  have omittable := (omittable_iff m (Nat.le_of_lt inside)).mpr optional
  rw [misfit?_eq_some_iff]
  constructor
  · rintro ⟨literal, given, known, refused, rfl⟩
    exact ⟨literal, ⟨declared, omittable, given, known, refused⟩, rfl⟩
  · rintro ⟨literal, refused, rfl⟩
    exact ⟨literal, refused.default, refused.known, refused.refused, rfl⟩

/-- The first result of a search is that of the leftmost item that has one. -/
private theorem findSome?_drop_iff {f : α → Option β} {items : List α} {start : Nat} {result : β} :
    (items.drop start).findSome? f = some result ↔
      ∃ i item, start ≤ i ∧ items[i]? = some item ∧ f item = some result ∧
        ∀ j < i, start ≤ j → ∀ other, items[j]? = some other → f other = none := by
  constructor
  · intro found
    obtain ⟨before, item, after, shape, hit, missed⟩ := List.findSome?_eq_some_iff.mp found
    have place : ∀ k, items[start + k]? = (before ++ item :: after)[k]? := by
      intro k
      rw [← shape, List.getElem?_drop]
    refine ⟨start + before.length, item, Nat.le_add_right _ _, by simp [place], hit, ?_⟩
    intro j earlier least other there
    obtain ⟨k, rfl⟩ := Nat.exists_eq_add_of_le least
    rw [place, List.getElem?_append_left (by omega)] at there
    exact missed other (List.mem_of_getElem? there)
  · rintro ⟨i, item, least, there, hit, missed⟩
    obtain ⟨k, rfl⟩ := Nat.exists_eq_add_of_le least
    rw [← List.getElem?_drop] at there
    obtain ⟨inside, rfl⟩ := List.getElem?_eq_some_iff.mp there
    refine List.findSome?_eq_some_iff.mpr
      ⟨(items.drop start).take k, _, (items.drop start).drop (k + 1), ?_, hit, ?_⟩
    · rw [← List.drop_eq_getElem_cons, List.take_append_drop]
    · intro other member
      obtain ⟨j, position⟩ := List.mem_iff_getElem?.mp member
      have earlier : j < k := by
        have bound := (List.getElem?_eq_some_iff.mp position).1
        rw [List.length_take] at bound
        omega
      rw [List.getElem?_take_of_lt earlier, List.getElem?_drop] at position
      exact missed (start + j) (by omega) (by omega) other position

/-- The failure names the leftmost default that is refused. -/
theorem lower_eq_error_iff_leftmost {s : Setting} {owner : String} {m : Method} {e : LowerError} :
    m.lower s owner = .error e ↔
      ∃ i p literal, Refused s.registry m i p literal ∧
        (∀ j < i, ∀ q other, ¬ Refused s.registry m j q other) ∧
        e = .incompatibleDefault p.name literal (p.slot s.registry) := by
  rw [lower_eq_error_iff, Method.misfit?, findSome?_drop_iff]
  constructor
  · rintro ⟨i, p, optional, declared, misfit, passed⟩
    obtain ⟨literal, refused, rfl⟩ := (misfit?_iff_refused declared optional).mp misfit
    refine ⟨i, p, literal, refused, fun j earlier q other blamed => ?_, rfl⟩
    have misfit := (misfit?_iff_refused blamed.declared blamed.optional).mpr ⟨other, blamed, rfl⟩
    rw [passed j earlier blamed.optional q blamed.declared] at misfit
    cases misfit
  · rintro ⟨i, p, literal, refused, first, rfl⟩
    have optional := refused.optional
    have misfit := (misfit?_iff_refused refused.declared optional).mpr ⟨literal, refused, rfl⟩
    refine ⟨i, p, optional, refused.declared, misfit,
      fun j earlier optional q declared => ?_⟩
    refine Option.eq_none_iff_forall_not_mem.mpr fun cause blamed => ?_
    obtain ⟨other, blamed, _⟩ := (misfit?_iff_refused declared optional).mp blamed
    exact first j earlier q other blamed

theorem lower_fails_iff_refused {s : Setting} {owner : String} {m : Method} :
    (∃ e, m.lower s owner = .error e) ↔ ∃ i p literal, Refused s.registry m i p literal := by
  constructor
  · rintro ⟨e, failed⟩
    obtain ⟨i, p, literal, refused, _⟩ := lower_eq_error_iff_leftmost.mp failed
    exact ⟨i, p, literal, refused⟩
  · rintro ⟨i, p, literal, refused⟩
    have optional := refused.optional
    have misfit := (misfit?_iff_refused refused.declared optional).mpr ⟨literal, refused, rfl⟩
    have member := mem_optional_iff.mpr ⟨i, refused.declared, refused.omittable⟩
    have found : ¬ m.misfit? s.registry = none := by
      intro fits
      have fit := List.findSome?_eq_none_iff.mp fits p member
      rw [misfit] at fit
      cases fit
    obtain ⟨e, failed⟩ := Option.ne_none_iff_exists'.mp found
    exact ⟨e, lower_eq_error_iff.mpr failed⟩

/-- Methods with the same refused defaults fail alike. -/
theorem lower_error_congr {s : Setting} {owner : String} {m n : Method}
    (same : ∀ i p literal, Refused s.registry m i p literal ↔ Refused s.registry n i p literal)
    (e : LowerError) : m.lower s owner = .error e ↔ n.lower s owner = .error e := by
  simp only [lower_eq_error_iff_leftmost, same]

theorem redefaulted_getElem? (m : Method) (i j : Nat) (default : Option Literal) :
    (redefaulted m i default).params[j]? =
      if i = j then m.params[j]?.map fun p => { p with default } else m.params[j]? := by
  simp only [redefaulted, List.getElem?_modify]
  split
  · rfl
  · exact Option.map_id'

theorem redefaulted_drop (m : Method) {i j : Nat} (later : i < j) (default : Option Literal) :
    (redefaulted m i default).params.drop j = m.params.drop j :=
  List.drop_modify_of_lt _ _ _ _ later

/-- Whether a default is refused depends on its parameter and on those behind it. -/
theorem refused_congr {r : Registry} {m n : Method} {i : Nat} {p : Parameter} {literal : Literal}
    (place : n.params[i]? = m.params[i]?) (omittable : Omittable n i ↔ Omittable m i) :
    Refused r n i p literal ↔ Refused r m i p literal := by
  constructor
  · rintro ⟨declared, optional, given, known, refused⟩
    exact ⟨place ▸ declared, omittable.mp optional, given, known, refused⟩
  · rintro ⟨declared, optional, given, known, refused⟩
    exact ⟨place.trans declared, omittable.mpr optional, given, known, refused⟩

/-- A default with a required parameter behind it is never checked. -/
theorem refused_redefaulted_ignored {r : Registry} {m : Method} {i : Nat}
    (required : ∃ q ∈ m.params.drop (i + 1), q.hasDefault = false) (default : Option Literal)
    (j : Nat) (p : Parameter) (literal : Literal) :
    Refused r (redefaulted m i default) j p literal ↔ Refused r m j p literal := by
  obtain ⟨q, behind, missing⟩ := required
  rcases Nat.lt_or_ge i j with later | earlier
  · have omittable : Omittable (redefaulted m i default) j ↔ Omittable m j := by
      simp only [Omittable, redefaulted_drop m later]
    have place : (redefaulted m i default).params[j]? = m.params[j]? := by
      rw [redefaulted_getElem?, if_neg (Nat.ne_of_lt later)]
    exact refused_congr place omittable
  · have stays : q ∈ (redefaulted m i default).params.drop (i + 1) := by
      rwa [redefaulted_drop m (Nat.lt_succ_self i)]
    have blocked : ∀ n : Method, q ∈ n.params.drop (i + 1) → ¬ Omittable n j := by
      intro n inside optional
      have defaulted := optional q (List.drop_subset_drop_left n.params (by omega) inside)
      cases missing.symm.trans defaulted
    exact ⟨fun refused => absurd refused.omittable (blocked _ stays),
      fun refused => absurd refused.omittable (blocked _ behind)⟩

/-- Another default in place of one does not change which parameters may be left out. -/
theorem omittable_redefaulted {m : Method} {i : Nat} {declared : Parameter}
    (place : m.params[i]? = some declared) (defaulted : declared.hasDefault = true)
    (other : Literal) (j : Nat) : Omittable (redefaulted m i (some other)) j ↔ Omittable m j := by
  have flags : ∀ n : Method, Omittable n j ↔
      ∀ flag ∈ (n.params.map Parameter.hasDefault).drop j, flag = true := by
    intro n
    rw [← List.map_drop, List.forall_mem_map]
    rfl
  have kept : (redefaulted m i (some other)).params.map Parameter.hasDefault =
      m.params.map Parameter.hasDefault := by
    refine List.ext_getElem? fun k => ?_
    rw [List.getElem?_map, List.getElem?_map, redefaulted_getElem?]
    split
    next same =>
      subst k
      simp [place, Parameter.hasDefault, ← defaulted]
    next => rfl
  rw [flags, flags, kept]

/-- A default of unknown type is never refused. -/
theorem refused_redefaulted_unknown {r : Registry} {m : Method} {i : Nat} {declared : Parameter}
    (place : m.params[i]? = some declared) (missing : unknown r declared.type = true)
    (defaulted : declared.hasDefault = true) (other : Literal) (j : Nat) (p : Parameter)
    (literal : Literal) :
    Refused r (redefaulted m i (some other)) j p literal ↔ Refused r m j p literal := by
  by_cases same : i = j
  · subst j
    constructor
    · intro refused
      have found := refused.declared
      rw [redefaulted_getElem?, if_pos rfl, place, Option.map_some] at found
      have known := refused.known
      rw [← Option.some.inj found] at known
      cases missing.symm.trans known
    · intro refused
      have known := refused.known
      rw [← Option.some.inj (place.symm.trans refused.declared)] at known
      cases missing.symm.trans known
  · have stays : (redefaulted m i (some other)).params[j]? = m.params[j]? := by
      rw [redefaulted_getElem?, if_neg same]
    exact refused_congr stays (omittable_redefaulted place defaulted other j)

/-- A method cannot be lowered exactly if a default that callers may rely on is refused by its
slot, and the error shows the leftmost one. Other defaults, before a required parameter or of
unknown type, have no influence. -/
theorem lower_fails_iff (s : Setting) (owner : String) (m : Method) :
    ((∃ e, m.lower s owner = .error e) ↔ ∃ i p literal, Refused s.registry m i p literal) ∧
    (∀ e, m.lower s owner = .error e ↔
      ∃ i p literal, Refused s.registry m i p literal ∧
        (∀ j < i, ∀ q other, ¬ Refused s.registry m j q other) ∧
        e = .incompatibleDefault p.name literal (p.slot s.registry) ∧
        e.message = "Default value " ++ literal.display ++ " of parameter '" ++ p.name ++
          "' is not assignable to '" ++ (p.slot s.registry).display ++ "'") ∧
    (∀ i default, (∃ q ∈ m.params.drop (i + 1), q.hasDefault = false) →
      ∀ e, (redefaulted m i default).lower s owner = .error e ↔ m.lower s owner = .error e) ∧
    ∀ i p literal, m.params[i]? = some p → unknown s.registry p.type = true →
      p.hasDefault = true →
        ∀ e, (redefaulted m i (some literal)).lower s owner = .error e ↔
          m.lower s owner = .error e := by
  refine ⟨lower_fails_iff_refused, fun e => ?_, ?_, ?_⟩
  · rw [lower_eq_error_iff_leftmost]
    constructor
    · rintro ⟨i, p, literal, refused, first, rfl⟩
      exact ⟨i, p, literal, refused, first, rfl, rfl⟩
    · rintro ⟨i, p, literal, refused, first, same, _⟩
      exact ⟨i, p, literal, refused, first, same⟩
  · intro i default required
    exact lower_error_congr (refused_redefaulted_ignored required default)
  · intro i p literal place missing defaulted
    exact lower_error_congr (refused_redefaulted_unknown place missing defaulted literal)

/-- No default fits its slot: the first is ignored, the type of the third is unknown, and of the
last two the one on the left is to blame. -/
def unfit : Method :=
  { name := "f"
    params := [
      { name := "a", type := .value "Int", default := some (.string "s") },
      { name := "b", type := .value "Int" },
      { name := "c", type := .value "Vec3", default := some (.int 1) },
      { name := "d", type := .value "Int", default := some (.string "s") },
      { name := "e", type := .value "Bool", default := some (.int 2) }] }

theorem unfit_refused :
    Refused .empty unfit 3 unfit.params[3] (.string "s") ∧
      unfit.lower ⟨.empty, true⟩ "T" =
        .error (.incompatibleDefault "d" (.string "s") (.value (.bare (.primitive .int)))) ∧
      (redefaulted unfit 0 (some .null)).lower ⟨.empty, true⟩ "T" =
        .error (.incompatibleDefault "d" (.string "s") (.value (.bare (.primitive .int)))) ∧
      (redefaulted unfit 2 (some (.bool true))).lower ⟨.empty, true⟩ "T" =
        .error (.incompatibleDefault "d" (.string "s") (.value (.bare (.primitive .int)))) := by
  obtain ⟨_, error, ignored, unknown⟩ := lower_fails_iff ⟨.empty, true⟩ "T" unfit
  have refused : Refused .empty unfit 3 unfit.params[3] (.string "s") :=
    ⟨rfl, by unfold Omittable; decide, rfl, by decide,
      check_error_iff.mpr (by decide)⟩
  have first : ∀ j < 3, ∀ q other, ¬ Refused .empty unfit j q other := by
    intro j earlier q other again
    obtain rfl | rfl | rfl : j = 0 ∨ j = 1 ∨ j = 2 := by omega
    · exact absurd again.omittable (by unfold Omittable; decide)
    · exact absurd again.omittable (by unfold Omittable; decide)
    · have known := again.known
      rw [← Option.some.inj again.declared] at known
      exact absurd known (by decide)
  have slot : unfit.params[3].slot .empty = .value (.bare (.primitive .int)) := by decide
  have failed := (error (.incompatibleDefault "d" (.string "s")
    (.value (.bare (.primitive .int))))).mpr
      ⟨3, _, _, refused, first, by rw [slot]; rfl, by rw [slot]; rfl⟩
  exact ⟨refused, failed, (ignored 0 _ (by decide) _).mpr failed,
    (unknown 2 _ _ rfl (by decide) rfl _).mpr failed⟩

end Overloads.Proofs.RefusedDefaults
