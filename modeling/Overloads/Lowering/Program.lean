import Overloads.Diagnostic.Sink
import Overloads.Lowering.Type

/-! Lowering of a whole program. Types are independent of each other: they may be lowered in any
order, and the results and the diagnostics may arrive in two different orders. -/

namespace Overloads

/-- Diagnostics come by type, in declaration order. -/
structure TargetProgram where
  namespaceName : String
  types : List TargetType
  diagnostics : List Diagnostic
  stats : Stats
deriving DecidableEq

namespace TargetProgram

def hasErrors (p : TargetProgram) : Bool := p.diagnostics.any Diagnostic.isError

def errorCount (p : TargetProgram) : Nat := Diagnostic.errorCount p.diagnostics

end TargetProgram

structure Completed where
  order : Nat
  lowering : TypeLowering

namespace Completed

/-- All diagnostics in the order in which the types report them. -/
def sink (reports : List Completed) : Sink :=
  reports.foldl (fun sink c => sink.extend c.order c.lowering.diagnostics) {}

/-- Puts what arrived in any order back into declaration order. -/
def collect (namespaceName : String) (results reports : List Completed) : TargetProgram :=
  let sorted := results.mergeSort fun a b => a.order ≤ b.order
  { namespaceName
    types := sorted.map (·.lowering.decl)
    diagnostics := (sink reports).sorted
    stats := Stats.sum (sorted.map (·.lowering.stats)) }

end Completed

namespace Program

def completed (s : Setting) (p : Program) : List Completed :=
  p.types.zipIdx.map fun (t, order) => ⟨order, t.lower s⟩

/-- Lowers every type; failures show as diagnostics. -/
def lower (s : Setting) (p : Program) : TargetProgram :=
  let completed := p.completed s
  Completed.collect p.namespaceName completed completed

end Program
end Overloads
