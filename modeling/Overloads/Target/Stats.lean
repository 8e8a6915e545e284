/-! Counters of a lowering run, kept for each type and added up. They are words of the machine
and wrap around. -/

namespace Overloads

structure Stats where
  types : UInt64 := 0
  fields : UInt64 := 0
  methods : UInt64 := 0
  overloads : UInt64 := 0
  forwarding : UInt64 := 0
  skippedMethods : UInt64 := 0
  collisions : UInt64 := 0
  unsupported : UInt64 := 0
deriving DecidableEq

namespace Stats

def add (a b : Stats) : Stats :=
  { types := a.types + b.types
    fields := a.fields + b.fields
    methods := a.methods + b.methods
    overloads := a.overloads + b.overloads
    forwarding := a.forwarding + b.forwarding
    skippedMethods := a.skippedMethods + b.skippedMethods
    collisions := a.collisions + b.collisions
    unsupported := a.unsupported + b.unsupported }

instance : Add Stats := ⟨add⟩

def sum (all : List Stats) : Stats := all.foldl (· + ·) {}

end Stats
end Overloads
