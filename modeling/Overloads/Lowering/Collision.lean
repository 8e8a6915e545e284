import Overloads.Diagnostic.Basic
import Overloads.Target.Overload

/-! Collisions: two declarations of one type that lower to overloads with the same signature.
Occurrences are grouped by signature while the overloads come in; a group that holds more than
one declaration is a collision. -/

namespace Overloads

/-- An overload that came in: the position of its declaration, whether it is canonical, and
the span of the declaration. -/
structure Occurrence where
  index : Nat
  canonical : Bool
  span : Option Span
deriving DecidableEq

structure SignatureGroup where
  signature : Signature
  occurrences : List Occurrence
deriving DecidableEq

namespace SignatureGroup

def indices (g : SignatureGroup) : List Nat := (g.occurrences.map Occurrence.index).eraseDups

def collides (g : SignatureGroup) : Bool := 2 ≤ g.indices.length

def roleText (o : Occurrence) : String :=
  "declaration #" ++ toString o.index ++ (if o.canonical then " (canonical)" else " (forwarding)")

def detail (g : SignatureGroup) : String :=
  "parameter types (" ++ ", ".intercalate (g.signature.slots.map SlotType.display) ++
    ") are produced by " ++ " and ".intercalate (g.occurrences.map roleText)

/-- The span of the latest occurrence that has one. -/
def span (g : SignatureGroup) : Option Span := g.occurrences.reverse.findSome? Occurrence.span

def diagnostic (owner : String) (g : SignatureGroup) : Diagnostic :=
  .report .signatureCollision owner g.signature.name g.detail g.span

end SignatureGroup

/-- The groups so far, in the order of their first occurrences. -/
structure CollisionDetector where
  groups : List SignatureGroup := []

structure CollisionReport where
  skipped : List Nat
  diagnostics : List Diagnostic

namespace CollisionDetector

/-- Adds an occurrence to the group of its signature, or starts a group behind the others. -/
def insert (signature : Signature) (o : Occurrence) : List SignatureGroup → List SignatureGroup
  | [] => [⟨signature, [o]⟩]
  | g :: rest =>
    if g.signature = signature then { g with occurrences := g.occurrences ++ [o] } :: rest
    else g :: insert signature o rest

def record (d : CollisionDetector) (index : Nat) (span : Option Span) (overloads : List Overload) :
    CollisionDetector :=
  ⟨overloads.foldl (fun groups o => insert o.signature ⟨index, o.isCanonical, span⟩ groups)
    d.groups⟩

/-- The declarations that collide, and one diagnostic for each signature they collide on. -/
def report (d : CollisionDetector) (owner : String) : CollisionReport :=
  let colliding := d.groups.filter SignatureGroup.collides
  { skipped := (colliding.flatMap SignatureGroup.indices).eraseDups
    diagnostics := colliding.map (SignatureGroup.diagnostic owner) }

end CollisionDetector

def CollisionReport.isSkipped (r : CollisionReport) (index : Nat) : Bool := r.skipped.contains index

end Overloads
