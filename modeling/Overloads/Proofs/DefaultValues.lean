import Overloads.Proofs.NativeDefaults
import Overloads.Proofs.UnseenChanges

/-! The value of a default is passed on and decides nothing else. Two types that differ only in such
values, all of them fit for their slots, have the same slots, overloads, collisions, reports and
counters. The values show only where a native default or an argument of a forwarding call is
spelled. -/

namespace Overloads.Proofs.DefaultValues
open NativeDefaults OverloadSets UnseenChanges

/-- A parameter without the value of its default. Whether there is one stays. -/
def hideDefault (p : Parameter) : Parameter := { p with default := p.default.map fun _ => .null }

def hideDefaults (m : Method) : Method := { m with params := m.params.map hideDefault }

/-- A type without the values of its defaults. Initializers of fields and bodies stay. -/
def hideValues (t : TypeDecl) : TypeDecl := { t with methods := t.methods.map hideDefaults }

/-- An argument without its literal, and without the mark on its wrapping. -/
def hideLiteral : Argument → Argument
  | .param name => .param name
  | .literal _ _ slot => .literal .null false slot

def hideNative (p : TargetParam) : TargetParam :=
  { p with nativeDefault := p.nativeDefault.map fun _ => "" }

/-- The body of a method stays as it is, with all literals. -/
def hideLiterals : OverloadBody → OverloadBody
  | .source body => .source body
  | .forward call => .forward { call with args := call.args.map hideLiteral }

/-- An overload without the texts of native defaults and without the literals it forwards. -/
def hideOverload (o : Overload) : Overload :=
  { o with params := o.params.map hideNative, body := hideLiterals o.body }

/-- Each default that callers may rely on is accepted by its slot. -/
def Accepted (r : Registry) (t : TypeDecl) : Prop :=
  ∀ m ∈ t.methods, ∀ i p literal, m.params[i]? = some p → Omittable m i →
    p.default = some literal → (p.slot r).check literal = .ok ()

@[simp] theorem hideDefault_hasDefault (p : Parameter) :
    (hideDefault p).hasDefault = p.hasDefault := by
  simp [hideDefault, Parameter.hasDefault]

theorem hideDefaults_optionalCount (m : Method) :
    (hideDefaults m).optionalCount = m.optionalCount := by
  have flags : Parameter.hasDefault ∘ hideDefault = Parameter.hasDefault :=
    funext hideDefault_hasDefault
  rw [Method.optionalCount, hideDefaults, ← List.map_reverse, List.takeWhile_map, List.length_map,
    flags, Method.optionalCount]

theorem hideDefaults_optionalStart (m : Method) :
    (hideDefaults m).optionalStart = m.optionalStart := by
  rw [Method.optionalStart, hideDefaults_optionalCount, hideDefaults, List.length_map,
    Method.optionalStart]

theorem hideNative_lower (r : Registry) (native : Bool) (p : Parameter) :
    hideNative ((hideDefault p).lower r native) = hideNative (p.lower r native) := by
  cases native <;> cases given : p.default <;>
    simp [hideNative, Parameter.lower, hideDefault, given, Parameter.slot]

theorem hideLiteral_argument? (r : Registry) (p : Parameter) :
    ((hideDefault p).argument? r).map hideLiteral = (p.argument? r).map hideLiteral := by
  cases given : p.default <;>
    simp [hideLiteral, Parameter.argument?, hideDefault, given, Parameter.slot]

theorem hideOverload_canonical (s : Setting) (m : Method) :
    hideOverload ((hideDefaults m).canonical s) = hideOverload (m.canonical s) := by
  have params : ((hideDefaults m).targetParams s).map hideNative =
      (m.targetParams s).map hideNative := by
    simp only [Method.targetParams, hideDefaults_optionalStart, List.map_append, List.map_map]
    simp only [hideDefaults, ← List.map_take, ← List.map_drop, List.map_map, Function.comp_def,
      hideNative_lower]
  simp only [hideOverload, Method.canonical, params]
  rfl

theorem hideOverload_forwarding (s : Setting) (m : Method) (keep : Nat) :
    hideOverload ((hideDefaults m).forwarding s keep) = hideOverload (m.forwarding s keep) := by
  have params :
      (((hideDefaults m).params.take keep).map (Parameter.lower s.registry false)).map hideNative =
        ((m.params.take keep).map (Parameter.lower s.registry false)).map hideNative := by
    simp only [hideDefaults, ← List.map_take, List.map_map, Function.comp_def, hideNative_lower]
  have passed : ((hideDefaults m).params.take keep).map (fun p => Argument.param p.name) =
      (m.params.take keep).map fun p => Argument.param p.name := by
    simp only [hideDefaults, ← List.map_take, List.map_map]
    rfl
  have filled : (((hideDefaults m).params.drop keep).filterMap
      (Parameter.argument? s.registry)).map hideLiteral =
        ((m.params.drop keep).filterMap (Parameter.argument? s.registry)).map hideLiteral := by
    simp only [hideDefaults, ← List.map_drop, List.filterMap_map, List.map_filterMap,
      Function.comp_def, hideLiteral_argument?]
  simp only [hideOverload, Method.forwarding, hideLiterals, List.map_append, params, passed, filled]
  rfl

theorem hideOverload_overloads (s : Setting) (m : Method) :
    ((hideDefaults m).overloads s).map hideOverload = (m.overloads s).map hideOverload := by
  have length : (hideDefaults m).params.length = m.params.length := List.length_map _
  simp only [Method.overloads, List.map_cons, List.map_map, Function.comp_def, length,
    hideDefaults_optionalCount, hideOverload_canonical, hideOverload_forwarding]

theorem hideOverload_unseen : Unseen hideOverload hideDefaults := by
  refine ⟨fun o => ?_, fun o => ?_, fun _ => rfl, fun _ => rfl⟩
  · simp [Overload.signature, Overload.slots, hideOverload, hideNative, Function.comp_def]
  · cases body : o.body <;> simp [Overload.isCanonical, hideOverload, hideLiterals, body]

theorem hideDefaults_lastRequired? (params : List Parameter) :
    Method.lastRequired? (params.map hideDefault) =
      (Method.lastRequired? params).map hideDefault := by
  rw [Method.lastRequired?, ← List.map_reverse, List.find?_map]
  simp only [Function.comp_def, hideDefault_hasDefault]
  rfl

theorem hideDefaults_ignored (owner : String) (m : Method) (p : Parameter)
    (after : List Parameter) :
    (hideDefaults m).ignoredDiagnostic owner (hideDefault p) (after.map hideDefault) =
      m.ignoredDiagnostic owner p after := by
  simp only [Method.ignoredDiagnostic, hideDefaults_lastRequired?]
  cases given : p.default <;> cases last : Method.lastRequired? after <;>
    simp [hideDefault, given]
  all_goals rfl

/-- No report looks at the value of a default. -/
theorem hideDefaults_diagnostics (r : Registry) (owner : String) (m : Method) :
    (hideDefaults m).diagnostics r owner = m.diagnostics r owner := by
  have params : ∀ params : List Parameter,
      (hideDefaults m).paramDiagnostics r owner (params.map hideDefault) =
        m.paramDiagnostics r owner params := by
    intro params
    induction params with
    | nil => rfl
    | cons p after ih =>
      rw [List.map_cons, Method.paramDiagnostics, ih, hideDefaults_ignored, Method.paramDiagnostics]
      rfl
  exact congrArg (· ++ m.returnDiagnostics r owner) (params m.params)

theorem misfit?_eq_none_iff {r : Registry} {p : Parameter} :
    p.misfit? r = none ↔
      ∀ literal, p.default = some literal → (p.slot r).check literal = .ok () := by
  cases given : p.default with
  | none => simp [Parameter.misfit?, given]
  | some literal =>
    cases admitted : (p.slot r).admits literal <;>
      simp [Parameter.misfit?, SlotType.check, given, admitted]

variable {s : Setting} {t u : TypeDecl}

theorem accepted_iff {r : Registry} :
    Accepted r t ↔ ∀ m ∈ t.methods, m.misfit? r = none := by
  refine forall₂_congr fun m _ => ?_
  rw [Method.misfit?, List.findSome?_eq_none_iff]
  constructor
  · intro accepted p member
    obtain ⟨i, place, omittable⟩ := mem_optional_iff.mp member
    exact misfit?_eq_none_iff.mpr fun literal => accepted i p literal place omittable
  · intro fits i p literal place omittable
    have member := mem_optional_iff.mpr ⟨i, place, omittable⟩
    exact misfit?_eq_none_iff.mp (fits p member) literal

instance (r : Registry) (t : TypeDecl) : Decidable (Accepted r t) :=
  decidable_of_iff _ accepted_iff.symm

/-- With all defaults accepted no method fails. -/
theorem lower_accepted (accepted : Accepted s.registry t) {m : Method} (member : m ∈ t.methods) :
    m.lower s t.name = .ok ⟨m.overloads s, m.diagnostics s.registry t.name⟩ :=
  lower_eq_ok_iff.mpr ⟨accepted_iff.mp accepted m member, rfl⟩

/-- What the type without its values says of the attempts, but for the values in overloads. -/
theorem attempts_hidden (accepted : Accepted s.registry t) :
    (t.attempts s).map (mapAttempt hideOverload hideDefaults) =
      (hideValues t).methods.zipIdx.map fun entry =>
        ⟨entry.2, entry.1, .ok ⟨(entry.1.overloads s).map hideOverload,
          entry.1.diagnostics s.registry t.name⟩⟩ := by
  rw [hideValues, List.zipIdx_map, List.map_map, TypeDecl.attempts, List.map_map]
  refine List.map_congr_left fun entry member => ?_
  obtain ⟨m, index⟩ := entry
  have declared : m ∈ t.methods := List.fst_mem_of_mem_zipIdx member
  simp only [Function.comp_apply, mapAttempt, lower_accepted accepted declared, Except.map,
    mapLowering, Prod.map, id, hideOverload_overloads, hideDefaults_diagnostics]

theorem alike_of_hidden (same : hideValues t = hideValues u) (accepted : Accepted s.registry t)
    (accepted' : Accepted s.registry u) : Alike hideOverload hideDefaults s t u := by
  have name : (hideValues t).name = (hideValues u).name := by rw [same]
  have fields : (hideValues t).fields = (hideValues u).fields := by rw [same]
  change t.name = u.name at name
  exact ⟨name, fields, by rw [attempts_hidden accepted, attempts_hidden accepted', same, name]⟩

/-- Only the nullable mark of a known value type makes a wrapper. -/
theorem isWrapped_iff (r : Registry) (p : Parameter) :
    (p.slot r).isWrapped = true ↔
      p.nullable = true ∧ ∃ name type, p.type = .value name ∧ r.resolve? name = some type := by
  cases declared : p.type with
  | reference name =>
    simp [Parameter.slot, declared, SlotType.ofDeclared, Registry.slot, SlotType.isWrapped]
  | value name =>
    rw [Parameter.slot, declared, SlotType.ofDeclared_value]
    cases known : r.resolve? name with
    | none => simp [SlotType.isWrapped, known]
    | some type =>
      cases p.nullable <;> simp [SlotType.isWrapped, Storage.isWrapped, known]

/-- Types that differ only in the values of their defaults, all of them accepted, are lowered alike:
but for the texts of native defaults and the literals of forwarding calls the emitted methods are
the same, and so are reports and counters. Whether a slot is wrapped depends on no default. -/
theorem values_unseen (s : Setting) (t u : TypeDecl) (same : hideValues t = hideValues u)
    (accepted : Accepted s.registry t) (accepted' : Accepted s.registry u) :
    mapType hideOverload (t.lower s).decl = mapType hideOverload (u.lower s).decl ∧
    (t.lower s).diagnostics = (u.lower s).diagnostics ∧
    (t.lower s).stats = (u.lower s).stats ∧
    ∀ (p : Parameter) (default : Option Literal),
      (Parameter.slot s.registry { p with default }).isWrapped = true ↔ p.nullable = true ∧
        ∃ name type, p.type = .value name ∧ s.registry.resolve? name = some type := by
  have alike := alike_of_hidden same accepted accepted'
  exact ⟨alike.decl hideOverload_unseen, alike.diagnostics hideOverload_unseen,
    alike.stats hideOverload_unseen, fun p default => isWrapped_iff s.registry { p with default }⟩

/-- Defaults that callers may rely on, one that is ignored, and two methods that collide. -/
def sampled (count scale ignored : Literal) : TypeDecl :=
  { name := "T"
    methods := [
      { name := "f"
        params := [
          { name := "count", type := .value "Int", nullable := true, default := some count },
          { name := "scale", type := .value "Single", default := some scale }] },
      { name := "g"
        params := [
          { name := "a", type := .value "Int", default := some ignored },
          { name := "b", type := .value "Vec3" }] },
      { name := "h", params := [{ name := "a", type := .value "Int", default := some (.int 1) }] },
      { name := "h" }] }

theorem sampled_lowered_alike :
    let quiet := (sampled .null (.float ⟨0x3ff0000000000000⟩) (.int 1)).lower ⟨.empty, true⟩
    let loud := (sampled (.int 4) (.int 2) (.string "s")).lower ⟨.empty, true⟩
    quiet.decl ≠ loud.decl ∧ mapType hideOverload quiet.decl = mapType hideOverload loud.decl ∧
      quiet.diagnostics = loud.diagnostics ∧ quiet.diagnostics.length = 3 ∧
      quiet.stats = loud.stats ∧ quiet.stats.overloads = 4 := by
  intro quiet loud
  obtain ⟨decl, diagnostics, stats, _⟩ := values_unseen ⟨.empty, true⟩
    (sampled .null (.float ⟨0x3ff0000000000000⟩) (.int 1))
    (sampled (.int 4) (.int 2) (.string "s")) rfl (by decide) (by decide)
  exact ⟨by decide, decl, diagnostics, by decide, stats, by decide⟩

end Overloads.Proofs.DefaultValues
