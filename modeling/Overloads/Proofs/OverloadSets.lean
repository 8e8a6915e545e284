import Overloads.Lowering.Method
import Mathlib.Data.List.Nodup
import Mathlib.Data.List.TakeWhile

/-! The overloads of one method. There is one for each number of arguments from the required
parameters up to all parameters, so no two of them share a signature. -/

namespace Overloads.Proofs.OverloadSets

theorem optionalCount_le (m : Method) : m.optionalCount ≤ m.params.length := by
  have bound := (List.takeWhile_sublist (l := m.params.reverse) Parameter.hasDefault).length_le
  simpa only [Method.optionalCount, List.length_reverse] using bound

theorem optionalStart_add (m : Method) : m.optionalStart + m.optionalCount = m.params.length := by
  have bound := optionalCount_le m
  simp only [Method.optionalStart]
  omega

/-- What callers may omit is the longest defaulted run at the end. -/
theorem drop_optionalStart (m : Method) :
    m.params.drop m.optionalStart = (m.params.reverse.takeWhile Parameter.hasDefault).reverse := by
  have run := List.prefix_iff_eq_take.mp
    (List.takeWhile_prefix (l := m.params.reverse) Parameter.hasDefault)
  rw [run, ← List.reverse_inj, List.reverse_reverse]
  simp only [Method.optionalStart, Method.optionalCount]
  rw [List.take_reverse]

theorem omitted_hasDefault (m : Method) {p : Parameter}
    (omitted : p ∈ m.params.drop m.optionalStart) : p.hasDefault = true := by
  rw [drop_optionalStart, List.mem_reverse] at omitted
  exact List.mem_takeWhile_imp omitted

/-- What does not look at native defaults sees one parameter for each declared one. -/
theorem map_targetParams {s : Setting} {f : TargetParam → α} {g : Parameter → α}
    (blind : ∀ native p, f (Parameter.lower s.registry native p) = g p) (m : Method) :
    (m.targetParams s).map f = m.params.map g := by
  simp only [Method.targetParams, List.map_append, List.map_map, Function.comp_def, blind]
  rw [← List.map_append, List.take_append_drop]

@[simp] theorem canonical_slots (s : Setting) (m : Method) :
    (m.canonical s).slots = m.params.map (Parameter.slot s.registry) :=
  map_targetParams (fun _ _ => rfl) m

@[simp] theorem forwarding_slots (s : Setting) (m : Method) (keep : Nat) :
    (m.forwarding s keep).slots = (m.params.take keep).map (Parameter.slot s.registry) := by
  simp only [Overload.slots, Method.forwarding, List.map_map]
  rfl

theorem length_slots (o : Overload) : o.slots.length = o.arity := by
  simp [Overload.slots, Overload.arity]

theorem canonical_arity (s : Setting) (m : Method) :
    (m.canonical s).arity = m.params.length := by
  rw [← length_slots, canonical_slots, List.length_map]

theorem forwarding_arity (s : Setting) (m : Method) {keep : Nat} (fewer : keep ≤ m.params.length) :
    (m.forwarding s keep).arity = keep := by
  rw [← length_slots, forwarding_slots, List.length_map, List.length_take]
  omega

theorem mem_forwarding {s : Setting} {m : Method} {o : Overload} :
    o ∈ (List.range m.optionalCount).map (fun i => m.forwarding s (m.params.length - 1 - i)) ↔
      ∃ keep, m.optionalStart ≤ keep ∧ keep < m.params.length ∧ o = m.forwarding s keep := by
  have total := optionalStart_add m
  simp only [List.mem_map, List.mem_range]
  constructor
  · rintro ⟨i, inside, rfl⟩
    exact ⟨_, by omega, by omega, rfl⟩
  · rintro ⟨keep, least, most, rfl⟩
    refine ⟨m.params.length - 1 - keep, by omega, ?_⟩
    congr 1
    omega

theorem mem_overloads {s : Setting} {m : Method} {o : Overload} :
    o ∈ m.overloads s ↔
      o = m.canonical s ∨
        ∃ keep, m.optionalStart ≤ keep ∧ keep < m.params.length ∧ o = m.forwarding s keep := by
  rw [Method.overloads, List.mem_cons, mem_forwarding]

theorem origin_of_mem {s : Setting} {m : Method} {o : Overload} (member : o ∈ m.overloads s) :
    o.kind = m.kind ∧ o.name = m.name := by
  rcases mem_overloads.mp member with rfl | ⟨_, _, _, rfl⟩ <;> exact ⟨rfl, rfl⟩

theorem returnType_of_mem {s : Setting} {m : Method} {o : Overload} (member : o ∈ m.overloads s) :
    o.returnType = m.returnType.map (ReturnType.slot s.registry) := by
  rcases mem_overloads.mp member with rfl | ⟨_, _, _, rfl⟩ <;> rfl

theorem slot_of_mem {s : Setting} {m : Method} {o : Overload} {p : TargetParam}
    (member : o ∈ m.overloads s) (param : p ∈ o.params) :
    ∃ declared ∈ m.params, p.slot = declared.slot s.registry := by
  have known : p.slot ∈ o.slots := List.mem_map.mpr ⟨p, param, rfl⟩
  rcases mem_overloads.mp member with rfl | ⟨keep, _, _, rfl⟩
  · rw [canonical_slots] at known
    obtain ⟨declared, present, same⟩ := List.mem_map.mp known
    exact ⟨declared, present, same.symm⟩
  · rw [forwarding_slots] at known
    obtain ⟨declared, present, same⟩ := List.mem_map.mp known
    exact ⟨declared, List.mem_of_mem_take present, same.symm⟩

/-- A native default is the default of a parameter that callers may omit, as its slot spells it. -/
theorem native_of_mem {s : Setting} {m : Method} {o : Overload} (member : o ∈ m.overloads s)
    {p : TargetParam} (param : p ∈ o.params) {text : String} (native : p.nativeDefault = some text) :
    ∃ declared ∈ m.params.drop m.optionalStart, ∃ literal, declared.default = some literal ∧
      p.slot = declared.slot s.registry ∧ text = literal.render p.slot.primitive? := by
  have plain : ∀ {params : List Parameter},
      p ∉ params.map (Parameter.lower s.registry false) := by
    intro params present
    obtain ⟨declared, _, rfl⟩ := List.mem_map.mp present
    cases native
  rcases mem_overloads.mp member with rfl | ⟨keep, _, _, rfl⟩
  · rcases List.mem_append.mp param with required | optional
    · exact absurd required plain
    · obtain ⟨declared, omitted, rfl⟩ := List.mem_map.mp optional
      cases on : s.nativeDefaults with
      | false =>
        rw [Parameter.lower, on] at native
        cases native
      | true =>
        rw [Parameter.lower, on] at native
        obtain ⟨literal, given, rfl⟩ := Option.map_eq_some_iff.mp native
        exact ⟨declared, omitted, literal, given, rfl, rfl⟩
  · exact absurd param plain

theorem overloads_descending (s : Setting) (m : Method) :
    (m.overloads s).Pairwise fun longer shorter => shorter.arity < longer.arity := by
  have total := optionalStart_add m
  simp only [Method.overloads, List.pairwise_cons, List.pairwise_map]
  constructor
  · intro o member
    obtain ⟨i, inside, rfl⟩ := List.mem_map.mp member
    have bound := List.mem_range.mp inside
    rw [canonical_arity, forwarding_arity s m (by omega)]
    omega
  · refine List.pairwise_lt_range.imp_of_mem ?_
    intro i j first second before
    have bound := List.mem_range.mp second
    rw [forwarding_arity s m (by omega), forwarding_arity s m (by omega)]
    omega

theorem arity_eq_of_signature_eq {first second : Overload}
    (same : first.signature = second.signature) : first.arity = second.arity := by
  rw [← length_slots, ← length_slots]
  exact congrArg (fun signature => signature.slots.length) same

theorem signatures_nodup (s : Setting) (m : Method) :
    ((m.overloads s).map Overload.signature).Nodup := by
  refine List.pairwise_map.mpr ((overloads_descending s m).imp ?_)
  intro longer shorter less same
  exact Nat.ne_of_gt less (arity_eq_of_signature_eq same)

theorem lower_eq_ok_iff {s : Setting} {owner : String} {m : Method} {lowering : MethodLowering} :
    m.lower s owner = .ok lowering ↔
      m.misfit? s.registry = none ∧
        lowering = ⟨m.overloads s, m.diagnostics s.registry owner⟩ := by
  simp only [Method.lower]
  cases m.misfit? s.registry with
  | none => simp [eq_comm]
  | some e => simp

theorem lower_eq_error_iff {s : Setting} {owner : String} {m : Method} {e : LowerError} :
    m.lower s owner = .error e ↔ m.misfit? s.registry = some e := by
  simp only [Method.lower]
  cases m.misfit? s.registry <;> simp

end Overloads.Proofs.OverloadSets
