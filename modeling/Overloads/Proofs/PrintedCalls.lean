import Overloads.Config.Basic
import Overloads.Proofs.MethodTexts
import Mathlib.Logic.Function.Iterate

/-! How an overload is printed whose body is a single call. A constructor has to call another one
from its header, and a method returns what it calls if it returns anything. Every call that lowering
makes is printed so, and every call that a method makes by hand. A constructor that calls another
one by hand has the call in its body instead. -/

namespace Overloads.Proofs.PrintedCalls
open MethodTexts

/-- The call that is the whole body of an overload, made by lowering or written by hand. -/
def onlyCall? (v : Overload) : Option Call :=
  match v.body with
  | .forward call | .source (.forward call) => some call
  | .source (.block _) => none

/-- The text of lines at a depth. -/
def textAt (o : RenderOptions) (depth : Nat) (lines : List Line) : String :=
  Line.renderAll o.indent (lines.map Line.nest^[depth])

def margin (o : RenderOptions) (depth : Nat) : String := String.join (List.replicate depth o.indent)

/-- The call with its arguments. What was written by hand stays as it is. -/
def callText (o : RenderOptions) (pinned : Option Overload) (v : Overload) (call : Call) : String :=
  call.target ++ "(" ++ (if v.isCanonical then call.renderArgs else o.args call pinned) ++ ")"

/-- A constructor whose header ends with the call, and whose body is empty. -/
def chained (o : RenderOptions) (owner : String) (depth : Nat) (v : Overload) (call : String) :
    String :=
  margin o depth ++ o.header owner v ++ " : " ++ call ++ " \x7b\n" ++ "\n" ++
    margin o depth ++ "\x7d\n"

/-- An overload whose body is one statement. -/
def stated (o : RenderOptions) (owner : String) (depth : Nat) (v : Overload) (statement : String) :
    String :=
  margin o depth ++ o.header owner v ++ " \x7b\n" ++
    margin o (depth + 1) ++ statement ++ ";\n" ++ margin o depth ++ "\x7d\n"

/-- The form in which the kind of an overload has its only call printed. -/
def requiredText (o : RenderOptions) (owner : String) (depth : Nat) (v : Overload) (call : String) :
    String :=
  match v.kind, v.returnType with
  | .constructor, _ => chained o owner depth v call
  | .method, some _ => stated o owner depth v ("return " ++ call)
  | .method, none => stated o owner depth v call

/-- A constructor that calls another one by hand. -/
def HandChained (v : Overload) : Prop := v.kind = .constructor ∧ v.isCanonical = true

theorem nest_text (depth start : Nat) (content : String) :
    Line.nest^[depth] (.text start content) = .text (start + depth) content := by
  induction depth with
  | zero => rfl
  | succ depth ih =>
    rw [Function.iterate_succ_apply', ih]
    rfl

theorem nest_blank (depth : Nat) : Line.nest^[depth] .blank = .blank :=
  Function.iterate_fixed rfl depth

theorem textAt_text (o : RenderOptions) (depth : Nat) (content : String) :
    textAt o depth [.text 0 content] = margin o depth ++ content ++ "\n" := by
  simp [textAt, nest_text, Line.renderAll, Line.render, margin, String.join_cons]

theorem textAt_blank (o : RenderOptions) (depth : Nat) : textAt o depth [.blank] = "\n" := by
  simp [textAt, nest_blank, Line.renderAll, Line.render, String.join_cons]

theorem textAt_block (o : RenderOptions) (depth : Nat) (head : String) (inner : List Line) :
    textAt o depth (Line.block head inner) =
      margin o depth ++ head ++ " \x7b\n" ++ textAt o (depth + 1) inner ++
        margin o depth ++ "\x7d\n" := by
  have first := textAt_text o depth (head ++ " \x7b")
  have last := textAt_text o depth "\x7d"
  have deeper : (inner.map Line.nest).map Line.nest^[depth] = inner.map Line.nest^[depth + 1] := by
    rw [List.map_map]
    rfl
  simp only [textAt] at first last ⊢
  rw [Line.block, List.map_append, List.map_cons, deeper, renderAll_append, ← List.singleton_append,
    renderAll_append, ← List.map_singleton, first, last]
  simp only [String.append_assoc]
  rfl

theorem chained_text (o : RenderOptions) (owner : String) (depth : Nat) (v : Overload)
    (call : String) :
    textAt o depth (Line.block (o.header owner v ++ " : " ++ call) [.blank]) =
      chained o owner depth v call := by
  simp only [textAt_block, textAt_blank, chained, String.append_assoc]

theorem stated_text (o : RenderOptions) (owner : String) (depth : Nat) (v : Overload)
    (statement : String) :
    textAt o depth (Line.block (o.header owner v) [.text 0 (statement ++ ";")]) =
      stated o owner depth v statement := by
  simp only [textAt_block, textAt_text, stated, String.append_assoc]
  rfl

variable {v : Overload}

theorem callStatement_eq (v : Overload) (target args : String) :
    RenderOptions.callStatement v target args =
      .text 0 ((if v.returnType.isSome && v.kind == .method then
        "return " ++ (target ++ "(" ++ args ++ ")") else target ++ "(" ++ args ++ ")") ++ ";") := by
  have ending : ");" = ")" ++ ";" := rfl
  rw [RenderOptions.callStatement, ending]
  split <;> simp only [String.append_assoc]

/-- A method states its call, behind a `return` if it returns anything. -/
theorem method_text (o : RenderOptions) (owner : String) (depth : Nat) (method : v.kind = .method)
    (target args : String) :
    textAt o depth (Line.block (o.header owner v) [RenderOptions.callStatement v target args]) =
      requiredText o owner depth v (target ++ "(" ++ args ++ ")") := by
  rw [callStatement_eq, stated_text]
  cases returned : v.returnType <;> simp [requiredText, method, returned]

/-- A constructor that calls another one by hand states the call. -/
theorem handChained_text (o : RenderOptions) (owner : String) (depth : Nat)
    (pinned : Option Overload) {call : Call} (only : onlyCall? v = some call)
    (hand : HandChained v) :
    textAt o depth (o.overload owner pinned v) =
      stated o owner depth v (call.target ++ "(" ++ call.renderArgs ++ ")") := by
  obtain ⟨constructor, canonical⟩ := hand
  cases body : v.body with
  | forward call => simp [Overload.isCanonical, body] at canonical
  | source body' =>
    cases body' with
    | block lines => simp [onlyCall?, body] at only
    | forward call' =>
      simp only [onlyCall?, body, Option.some.injEq] at only
      subst only
      simp only [RenderOptions.overload, body, callStatement_eq, stated_text]
      simp [constructor]

/-- Every other call has the form that the kind of its overload requires. -/
theorem required_text (o : RenderOptions) (owner : String) (depth : Nat)
    (pinned : Option Overload) {call : Call} (only : onlyCall? v = some call)
    (other : ¬ HandChained v) :
    textAt o depth (o.overload owner pinned v) =
      requiredText o owner depth v (callText o pinned v call) := by
  cases body : v.body with
  | forward made =>
    obtain rfl : made = call := by simpa [onlyCall?, body] using only
    have canonical : v.isCanonical = false := by simp [Overload.isCanonical, body]
    cases kind : v.kind with
    | method =>
      simp only [RenderOptions.overload, body, kind, callText, canonical]
      exact method_text o owner depth kind _ _
    | constructor =>
      simp only [RenderOptions.overload, body, kind, callText, canonical, requiredText]
      rw [← chained_text]
      simp [String.append_assoc]
  | source original =>
    have canonical : v.isCanonical = true := by simp [Overload.isCanonical, body]
    cases original with
    | block lines => simp [onlyCall?, body] at only
    | forward written =>
      obtain rfl : written = call := by simpa [onlyCall?, body] using only
      have method : v.kind = .method := by
        cases kind : v.kind with
        | method => rfl
        | constructor => exact absurd ⟨kind, canonical⟩ other
      simp only [RenderOptions.overload, body, callText, canonical, if_true]
      exact method_text o owner depth method _ _

/-- Behind the parameters one form has a colon where the other has the brace. -/
theorem stated_ne_chained (o : RenderOptions) (owner : String) (depth : Nat) (v : Overload)
    (statement call : String) :
    stated o owner depth v statement ≠ chained o owner depth v call := by
  intro same
  have letters := congrArg String.toList same
  simp only [stated, chained, String.append_assoc, String.toList_append,
    List.append_cancel_left_eq] at letters
  cases letters

/-- An overload whose body is a single call is printed in the form that its kind requires exactly if
it is no constructor that calls another one by hand; such a constructor has the call in its body. -/
theorem printed_as_required_iff (o : RenderOptions) (owner : String) (depth : Nat)
    (pinned : Option Overload) {v : Overload} {call : Call} (only : onlyCall? v = some call) :
    (textAt o depth (o.overload owner pinned v) =
        requiredText o owner depth v (callText o pinned v call) ↔ ¬ HandChained v) ∧
    (HandChained v → textAt o depth (o.overload owner pinned v) =
      stated o owner depth v (call.target ++ "(" ++ call.renderArgs ++ ")")) := by
  refine ⟨⟨fun same hand => ?_, required_text o owner depth pinned only⟩,
    handChained_text o owner depth pinned only⟩
  rw [handChained_text o owner depth pinned only hand, requiredText, hand.1] at same
  exact stated_ne_chained o owner depth v _ _ same

/-- A constructor whose second argument callers may omit. -/
def defaulted : Method :=
  { name := "T"
    kind := .constructor
    params := [
      { name := "x", type := .value "Int" },
      { name := "y", type := .value "Int", default := some (.int 4) }] }

theorem defaulted_chained :
    onlyCall? (defaulted.forwarding ⟨.empty, true⟩ 1) =
        some ⟨"this", [.param "x", .literal (.int 4) false (some .int)]⟩ ∧
      ¬ HandChained (defaulted.forwarding ⟨.empty, true⟩ 1) ∧
      textAt .standard 1 (RenderOptions.standard.overload "T" none
          (defaulted.forwarding ⟨.empty, true⟩ 1)) =
        "\tT(int x) : this(x, 4) \x7b\n\n\t\x7d\n" := by
  have only : onlyCall? (defaulted.forwarding ⟨.empty, true⟩ 1) =
      some ⟨"this", [.param "x", .literal (.int 4) false (some .int)]⟩ := by decide
  have made : ¬ HandChained (defaulted.forwarding ⟨.empty, true⟩ 1) :=
    fun hand => absurd hand.2 (by decide)
  have required := (printed_as_required_iff .standard "T" 1 none only).1.mpr made
  exact ⟨only, made, required.trans (by decide)⟩

/-- A constructor, and a second one that calls it by hand. -/
def delegating : TypeDecl :=
  { name := "T"
    methods := [
      { name := "T", kind := .constructor, modifiers := .publicMember
        params := [{ name := "x", type := .value "Int" }, { name := "y", type := .value "Int" }] },
      { name := "T", kind := .constructor, modifiers := .publicMember
        params := [{ name := "x", type := .value "Int" }]
        body := .forward ⟨"this", [.param "x", .literal (.int 4) false none]⟩ }] }

theorem delegating_states_call :
    (∃ v ∈ (delegating.lower ⟨.empty, true⟩).decl.overloads, ∃ call, onlyCall? v = some call ∧
      v.kind = .constructor ∧
      textAt .standard 1 (RenderOptions.standard.overload "T" none v) =
        "\tpublic T(int x) \x7b\n\t\tthis(x, 4);\n\t\x7d\n" ∧
      requiredText .standard "T" 1 v (callText .standard none v call) =
        "\tpublic T(int x) : this(x, 4) \x7b\n\n\t\x7d\n") ∧
    RenderOptions.standard.typeText (delegating.lower ⟨.empty, true⟩).decl =
      "class T \x7b\n\tpublic T(int x, int y) \x7b\n\n\t\x7d\n\n" ++
        "\tpublic T(int x) \x7b\n\t\tthis(x, 4);\n\t\x7d\n\x7d\n" := by
  refine ⟨⟨delegating.methods[1].canonical ⟨.empty, true⟩, by decide,
    ⟨"this", [.param "x", .literal (.int 4) false none]⟩, rfl, rfl, ?_, ?_⟩, ?_⟩
  all_goals decide

end Overloads.Proofs.PrintedCalls
