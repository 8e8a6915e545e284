import Overloads.Diagnostic.Basic

/-! A buffer that collects diagnostics in any order of their types and gives them back in
declaration order. -/

namespace Overloads

/-- Diagnostics in the order of their arrival, each with the position of its type. -/
structure Sink where
  entries : List (Nat × Diagnostic) := []

namespace Sink

def extend (sink : Sink) (order : Nat) (batch : List Diagnostic) : Sink :=
  ⟨sink.entries ++ batch.map (order, ·)⟩

def push (sink : Sink) (order : Nat) (d : Diagnostic) : Sink := sink.extend order [d]

def size (sink : Sink) : Nat := sink.entries.length

def errorCount (sink : Sink) : Nat := sink.entries.countP (·.2.isError)

/-- All diagnostics by the position of their type; those of one type stay in order. -/
def sorted (sink : Sink) : List Diagnostic :=
  (sink.entries.mergeSort fun a b => a.1 ≤ b.1).map Prod.snd

end Sink
end Overloads
