/-! TOML values, and the rules by which keys and headers build tables. -/

namespace Overloads

/-- How a table came about: written in braces, opened by a header of its own, needed by a longer
header, or needed by a dotted key. -/
inductive TableOrigin
  | braces
  | header
  | longerHeader
  | dottedKey
deriving DecidableEq

/-- A TOML value. Floats and dates are checked when they are read but not kept. -/
inductive Toml where
  | string (s : String)
  | integer (n : Int)
  | boolean (b : Bool)
  | float
  | date
  | array (items : List Toml)
  | table (origin : TableOrigin) (entries : List (String × Toml))
  | tables (items : List Toml)

namespace Toml

abbrev Entries := List (String × Toml)

/-- Whether a path whose missing tables are `made` may lead through an existing table. Tables in
braces are closed, and a dotted key cannot add to a table that has its own header. -/
def leadsThrough (made existing : TableOrigin) : Bool :=
  match existing with
  | .braces => false
  | .header => made != .dottedKey
  | .longerHeader | .dottedKey => true

def replace (key : String) (value : Toml) (entries : Entries) : Entries :=
  entries.map fun e => if e.1 == key then (key, value) else e

/-- Changes the table at the end of a path, which starts at a table of the given origin, and
makes the tables that are missing on the way. In an array of tables the last one counts. -/
def changeAt (made : TableOrigin) (change : TableOrigin → Entries → Option Entries) :
    List String → TableOrigin → Entries → Option Entries
  | [], origin, entries => change origin entries
  | key :: path, _, entries =>
    match entries.lookup key with
    | none => (changeAt made change path made []).map fun inner =>
        entries ++ [(key, .table made inner)]
    | some (.table origin inner) =>
      if leadsThrough made origin then
        (changeAt made change path origin inner).map fun inner =>
          replace key (.table origin inner) entries
      else none
    | some (.tables items) =>
      match items.getLast? with
      | some (.table origin inner) =>
        (changeAt made change path origin inner).map fun inner =>
          replace key (.tables (items.dropLast ++ [.table origin inner])) entries
      | _ => none
    | some _ => none

def addNew (key : String) (value : Toml) (entries : Entries) : Option Entries :=
  if (entries.lookup key).isSome then none else some (entries ++ [(key, value)])

/-- Adds a value under a key, dotted or not, to a table without origin in a dotted key. A dotted
key adds only to tables that dotted keys made. -/
def insert (path : List String) (key : String) (value : Toml) (entries : Entries) :
    Option Entries :=
  changeAt .dottedKey
    (fun origin inner =>
      if path ≠ [] ∧ origin ≠ .dottedKey then none else addNew key value inner)
    path .header entries

structure Section where
  path : List String
  key : String
  repeated : Bool
  entries : Entries

/-- A document under construction: finished tables, and the one under the latest header. -/
structure Draft where
  root : Entries := []
  current : Option Section := none

namespace Draft

/-- Files a finished section in its parent table. -/
def file (s : Section) : TableOrigin → Entries → Option Entries := fun _ parent =>
  let table := Toml.table .header s.entries
  if s.repeated then
    match parent.lookup s.key with
    | none => some (parent ++ [(s.key, .tables [table])])
    | some (.tables items) => some (replace s.key (.tables (items ++ [table])) parent)
    | some _ => none
  else addNew s.key table parent

def finish? (d : Draft) : Option Entries :=
  match d.current with
  | none => some d.root
  | some s => changeAt .longerHeader (file s) s.path .header d.root

def insert? (d : Draft) (path : List String) (key : String) (value : Toml) : Option Draft :=
  match d.current with
  | none => (Toml.insert path key value d.root).map ({ d with root := · })
  | some s => (Toml.insert path key value s.entries).map fun entries =>
      { d with current := some { s with entries } }

def found? (path : List String) (key : String) (root : Entries) : Option (Option Toml) :=
  match path with
  | [] => some (root.lookup key)
  | first :: path =>
    match root.lookup first with
    | none => some none
    | some (.table origin inner) =>
      if leadsThrough .longerHeader origin then found? path key inner else none
    | some (.tables items) =>
      match items.getLast? with
      | some (.table _ inner) => found? path key inner
      | _ => none
    | some _ => none

def remove (key : String) (entries : Entries) : Entries := entries.filter (·.1 != key)

/-- A header `[path.key]`. A table may be opened once; before that, longer headers may have put
tables into it. -/
def openTable? (d : Draft) (path : List String) (key : String) : Option Draft := do
  let root ← d.finish?
  match ← found? path key root with
  | none => some ⟨root, some ⟨path, key, false, []⟩⟩
  | some (.table .longerHeader entries) =>
    let root ← changeAt .longerHeader (fun _ parent => some (remove key parent)) path .header root
    some ⟨root, some ⟨path, key, false, entries⟩⟩
  | some _ => none

/-- A header `[[path.key]]` adds a table to an array of tables. -/
def openItem? (d : Draft) (path : List String) (key : String) : Option Draft := do
  let root ← d.finish?
  match ← found? path key root with
  | none | some (.tables _) => some ⟨root, some ⟨path, key, true, []⟩⟩
  | some _ => none

end Draft
end Toml
end Overloads
