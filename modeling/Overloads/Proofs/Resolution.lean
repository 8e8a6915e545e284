import Overloads.Proofs.Constants
import Overloads.Proofs.Emission

/-! Which overload a synthesized call resolves to. Wherever an overload of another method takes
as many arguments, each printed argument has exactly the type of the canonical parameter that
receives it, so the call cannot end up anywhere else. -/

namespace Overloads.Proofs.Resolution
open Constants Emission OverloadSets

/-- An argument as a reader of the target source sees it. -/
inductive PrintedArg
  | passed (name : String)
  | constant (text : String)
  | cast (type : SlotType) (operand : String)

namespace PrintedArg

def text (o : RenderOptions) : PrintedArg → String
  | .passed name => name
  | .constant text => text
  | .cast type operand => o.cast type operand

/-- The ways to print an argument: only literals can be cast. -/
inductive Spells : Argument → PrintedArg → Prop
  | passed {name : String} : Spells (.param name) (.passed name)
  | constant {value : Literal} {wraps : Bool} {slot : Option Primitive} :
      Spells (.literal value wraps slot) (.constant (value.render slot))
  | cast {value : Literal} {wraps : Bool} {slot : Option Primitive} {type : SlotType} :
      Spells (.literal value wraps slot) (.cast type (value.render slot))

/-- The static type of an argument in the body of an overload. A name has to stand for one
parameter only. -/
inductive HasType (caller : Overload) : PrintedArg → SlotType → Prop
  | passed {p : TargetParam} (declared : p ∈ caller.params)
      (alone : ∀ q ∈ caller.params, q.name = p.name → q = p) :
      HasType caller (.passed p.name) p.slot
  | constant {text : String} {constant : Constant} {slot : SlotType}
      (reads : Constant.ofText? text.toList = some constant) (typed : constant.HasType slot) :
      HasType caller (.constant text) slot
  | cast {type : SlotType} {operand : String} : HasType caller (.cast type operand) type

def of (arg : Argument) (receiver : Option TargetParam) : PrintedArg :=
  match arg, receiver with
  | .param name, _ => .passed name
  | .literal value wraps slot, some p =>
    if wraps || !value.isExact p.slot then .cast p.slot (value.render slot)
    else .constant (value.render slot)
  | .literal value _ slot, none => .constant (value.render slot)

theorem text_of (o : RenderOptions) (arg : Argument) (receiver : Option TargetParam) :
    (of arg receiver).text o = o.pinnedArg arg receiver := by
  cases arg with
  | param name => rfl
  | literal value wraps slot =>
    cases receiver with
    | none => rfl
    | some p =>
      simp only [of, RenderOptions.pinnedArg]
      split <;> rfl

theorem spells_of (arg : Argument) (receiver : Option TargetParam) :
    Spells arg (of arg receiver) := by
  cases arg with
  | param name => exact .passed
  | literal value wraps slot =>
    cases receiver with
    | none => exact .constant
    | some p =>
      simp only [of]
      split
      · exact .cast
      · exact .constant

end PrintedArg
open PrintedArg

def printedArgs (call : Call) (pinned : Option Overload) : List PrintedArg :=
  call.args.mapIdx fun i arg => .of arg (pinned.bind fun canonical => canonical.params[i]?)

theorem text_printedArgs (o : RenderOptions) (call : Call) (pinned : Option Overload) :
    ", ".intercalate ((printedArgs call pinned).map (PrintedArg.text o)) = o.args call pinned := by
  simp only [printedArgs, List.mapIdx_eq_zipIdx_map, List.map_map, Function.comp_def, text_of]
  cases pinned with
  | none =>
    have plain : ∀ arg, o.pinnedArg arg none = arg.render := by
      intro arg
      cases arg <;> rfl
    have texts := congrArg (List.map Argument.render) (List.zipIdx_map_fst 0 call.args)
    simp only [List.map_map, Function.comp_def] at texts
    simp only [Option.bind_none, plain, RenderOptions.args, Call.renderArgs, texts]
  | some canonical => rfl

theorem spells_printedArgs (call : Call) (pinned : Option Overload) :
    List.Forall₂ Spells call.args (printedArgs call pinned) := by
  rw [List.forall₂_iff_get]
  refine ⟨List.length_mapIdx.symm, ?_⟩
  intro i inside _
  simp only [printedArgs, List.get_eq_getElem, List.getElem_mapIdx]
  exact spells_of _ _

/-- The argument that takes the place of a parameter: its name where the caller has it too, its
default elsewhere. -/
def Supplies (r : Registry) (kept : List Parameter) (p : Parameter) (arg : Argument) : Prop :=
  (p ∈ kept ∧ arg = .param p.name) ∨ p.argument? r = some arg

theorem forall₂_arguments {r : Registry} {R : Parameter → Argument → Prop}
    {omitted : List Parameter} (defaulted : ∀ p ∈ omitted, p.hasDefault = true)
    (related : ∀ p ∈ omitted, ∀ arg, p.argument? r = some arg → R p arg) :
    List.Forall₂ R omitted (omitted.filterMap (Parameter.argument? r)) := by
  induction omitted with
  | nil => exact .nil
  | cons p omitted ih =>
    have rest := ih (fun q member => defaulted q (List.mem_cons_of_mem p member))
      fun q member => related q (List.mem_cons_of_mem p member)
    obtain ⟨literal, declared⟩ := Option.isSome_iff_exists.mp (defaulted p List.mem_cons_self)
    have given : p.argument? r =
        some (.literal literal ((p.slot r).isWrapped && !literal.isNull) (p.slot r).primitive?) := by
      rw [Parameter.argument?, declared, Option.map_some]
    rw [List.filterMap_cons_some given]
    exact .cons (related p List.mem_cons_self _ given) rest

/-- A synthesized call has one argument for each parameter: the parameters that are kept are passed
on, and the others get their defaults. -/
theorem forwarding_arguments {s : Setting} {m : Method} {keep : Nat} {call : Call}
    {R : Parameter → Argument → Prop} (least : m.optionalStart ≤ keep)
    (forwards : (m.forwarding s keep).call? = some call)
    (passed : ∀ p ∈ m.params.take keep, R p (.param p.name))
    (filled : ∀ p ∈ m.params.drop keep, ∀ arg, p.argument? s.registry = some arg → R p arg) :
    List.Forall₂ R m.params call.args := by
  cases forwards
  have front : List.Forall₂ R (m.params.take keep)
      ((m.params.take keep).map fun p => Argument.param p.name) :=
    List.forall₂_map_right_iff.mpr (List.forall₂_same.mpr passed)
  have defaulted : ∀ p ∈ m.params.drop keep, p.hasDefault = true := by
    intro p member
    exact omitted_hasDefault m (List.drop_subset_drop_left m.params least member)
  have back := forall₂_arguments defaulted filled
  simpa only [List.take_append_drop] using List.rel_append front back

theorem forwarding_supplies {s : Setting} {m : Method} {keep : Nat} {call : Call}
    (least : m.optionalStart ≤ keep) (forwards : (m.forwarding s keep).call? = some call) :
    List.Forall₂ (Supplies s.registry (m.params.take keep)) m.params call.args :=
  forwarding_arguments least forwards (fun _ member => Or.inl ⟨member, rfl⟩)
    fun _ _ _ given => Or.inr given

theorem of_hasType {s : Setting} {m : Method} {keep : Nat} {p : Parameter} {arg : Argument}
    {receiver : TargetParam} (distinct : (m.params.map Parameter.name).Nodup)
    (supplies : Supplies s.registry (m.params.take keep) p arg)
    (same : receiver.slot = p.slot s.registry) :
    HasType (m.forwarding s keep) (of arg (some receiver)) receiver.slot := by
  rcases supplies with ⟨kept, rfl⟩ | literal
  · rw [same]
    refine HasType.passed (p := p.lower s.registry false) (List.mem_map_of_mem kept) ?_
    intro q declared name
    obtain ⟨other, otherKept, rfl⟩ := List.mem_map.mp declared
    rw [List.inj_on_of_nodup_map distinct (List.mem_of_mem_take otherKept)
      (List.mem_of_mem_take kept) name]
  · simp only [Parameter.argument?, Option.map_eq_some_iff] at literal
    obtain ⟨value, _, rfl⟩ := literal
    simp only [of]
    split
    next => exact .cast
    next bare =>
      simp only [Bool.or_eq_true, Bool.not_eq_true', not_or, Bool.not_eq_false] at bare
      rw [← same]
      exact .constant (Constant.ofText?_render _ _) (Constant.exact_hasType bare.2)

theorem printedArgs_hasType {s : Setting} {m : Method} {keep : Nat} {call : Call}
    (distinct : (m.params.map Parameter.name).Nodup) (least : m.optionalStart ≤ keep)
    (forwards : (m.forwarding s keep).call? = some call) :
    List.Forall₂ (HasType (m.forwarding s keep)) (printedArgs call (some (m.canonical s)))
      (m.canonical s).slots := by
  obtain ⟨count, supplied⟩ := List.forall₂_iff_get.mp (forwarding_supplies least forwards)
  have arity : (m.canonical s).params.length = m.params.length := canonical_arity s m
  rw [List.forall₂_iff_get]
  refine ⟨?_, ?_⟩
  · rw [printedArgs, List.length_mapIdx, length_slots, canonical_arity]
    exact count.symm
  · intro i first second
    have inside : i < m.params.length := by simpa [Overload.slots, arity] using second
    have same : (m.canonical s).params[i].slot = m.params[i].slot s.registry := by
      have slots := congrArg (·[i]?) (canonical_slots s m)
      simpa [Overload.slots, inside, arity] using slots
    have typed := of_hasType distinct (supplied i inside (count ▸ inside)) same
    simpa [printedArgs, Overload.slots, arity, inside] using typed

/-- No overload of another method takes as many arguments. -/
def Unrivaled (t : TargetType) (position : Nat) (canonical : Overload) : Prop :=
  ∀ other m, other ≠ position → t.methods[other]? = some m → ∀ v ∈ m.overloads,
    ¬ (v.kind = canonical.kind ∧ v.name = canonical.name ∧ v.arity = canonical.arity)

theorem unrivaled_of_hasRival {t : TargetType} {position : Nat} {method : TargetMethod}
    {canonical : Overload} (found : t.methods[position]? = some method)
    (first : method.canonical? = some canonical) (rivals : t.hasRival position = false) :
    Unrivaled t position canonical := by
  intro other m different present v member competes
  simp only [TargetType.hasRival, found, Option.bind_some, first, List.any_eq_false,
    List.mem_eraseIdx_iff_getElem?] at rivals
  exact rivals m ⟨other, different, present⟩ (List.any_eq_true.mpr
    ⟨v, member, by simp [TargetType.competes, competes.1, competes.2.1, competes.2.2]⟩)

/-- A forwarding overload as it is printed, with the text of the arguments of its call. -/
def forwardingLines (o : RenderOptions) (owner : String) (v : Overload) (call : Call)
    (args : String) : List Line :=
  match v.kind with
  | .constructor =>
    Line.block (o.header owner v ++ " : " ++ call.target ++ "(" ++ args ++ ")") [.blank]
  | .method => Line.block (o.header owner v) [RenderOptions.callStatement v call.target args]

theorem mem_members (o : RenderOptions) {t : TargetType} {position : Nat} {method : TargetMethod}
    {v : Overload} {call : Call} (found : t.methods[position]? = some method)
    (member : v ∈ method.overloads) (forwards : v.call? = some call) :
    forwardingLines o t.name v call
      (o.args call (if t.hasRival position then method.canonical? else none)) ∈ o.members t := by
  have same : o.overload t.name (if t.hasRival position then method.canonical? else none) v =
      forwardingLines o t.name v call
        (o.args call (if t.hasRival position then method.canonical? else none)) := by
    obtain ⟨name, kind, modifiers, params, returnType, body⟩ := v
    cases body with
    | source body => cases forwards
    | forward call =>
      cases forwards
      cases kind <;> rfl
  rw [← same]
  refine List.mem_append_right _ (List.mem_flatMap.mpr ⟨(method, position), ?_, ?_⟩)
  · exact List.mem_zipIdx_iff_getElem?.mpr found
  · exact List.mem_map_of_mem member

/-- A printed call has one argument for each parameter of the canonical overload. If it has
rivals, each argument has exactly the type of its parameter, and nothing else takes these types. -/
structure Resolves (o : RenderOptions) (t : TargetType) (position : Nat) (caller : Overload)
    (call : Call) (canonical : Overload) (printed : List PrintedArg) : Prop where
  lines : forwardingLines o t.name caller call
    (", ".intercalate (printed.map (PrintedArg.text o))) ∈ o.members t
  spells : List.Forall₂ Spells call.args printed
  arity : printed.length = canonical.arity
  typed : Unrivaled t position canonical ∨
    List.Forall₂ (HasType caller) printed canonical.slots ∧
      (t.overloads.map Overload.signature).count canonical.signature = 1

def plainSetting : Setting := ⟨.empty, false⟩

def plainOptions : RenderOptions := ⟨.suffix, "__Unresolved", "    "⟩

/-- A scale by a single and a byte, with defaults for both. -/
def scale : Method :=
  { name := "scale"
    params := [
      { name := "x", type := .value "Single", default := some (.float ⟨0x3ff0000000000000⟩) },
      { name := "n", type := .value "Byte", default := some (.int 2) }] }

/-- Two integers would win the resolution of a call with the literals alone. -/
def scaling : TypeDecl :=
  { name := "T"
    methods := [
      scale,
      { name := "scale"
        params := [{ name := "x", type := .value "Int" }, { name := "n", type := .value "Int" }] }] }

example : (scale.forwarding plainSetting 0).call?.map
    (plainOptions.args · (scale.canonical plainSetting)) = some "1.0f, (byte)2" := by decide

end Overloads.Proofs.Resolution
