import Overloads.Toml.Scalar

/-! TOML documents: keys, arrays, tables in braces, headers and lines. -/

namespace Overloads.Toml

def isBareKey (c : Char) : Bool := c.isAlphanum || c == '_' || c == '-'

def simpleKey? : Reader String
  | [] => none
  | c :: rest =>
    if c = '"' ∨ c = '\x27' then
      (lineString? c (c = '"') (rest.length + 1) rest).map fun (s, rest) => (.ofList s, rest)
    else
      let name := (c :: rest).takeWhile isBareKey
      if name = [] then none else some (.ofList name, (c :: rest).dropWhile isBareKey)

def keyParts? : Nat → Reader (List String)
  | 0, _ => none
  | fuel + 1, text => do
    let (first, rest) ← simpleKey? (skipBlanks text)
    match skipBlanks rest with
    | '.' :: rest =>
      let (others, rest) ← keyParts? fuel rest
      some (first :: others, rest)
    | rest => some ([first], rest)

def nestingLimit : Nat := 80

/-- A key: the path before its last part, and that part. -/
def key? : Reader (List String × String) := fun text => do
  let (parts, rest) ← keyParts? (text.length + 1) text
  if nestingLimit ≤ parts.length then none
  else (parts.getLast?).map fun last => ((parts.dropLast, last), rest)

def pair? (value : Reader Toml) : Reader ((List String × String) × Toml) := fun text => do
  let (key, rest) ← key? text
  let (_, rest) ← char? '=' rest
  let (v, rest) ← value (skipBlanks rest)
  some ((key, v), rest)

def skipTrivia (inComment : Bool) : List Char → Option (List Char)
  | [] => some []
  | '\n' :: rest => skipTrivia false rest
  | '\r' :: '\n' :: rest => skipTrivia false rest
  | c :: rest =>
    if inComment then (if isPlain c then skipTrivia true rest else none)
    else if isBlank c then skipTrivia false rest
    else if c = '#' then skipTrivia true rest
    else some (c :: rest)

/-- The items of an array behind its bracket; a comma may stand after the last. -/
def items? (value : Reader Toml) : Nat → Reader (List Toml)
  | 0, _ => none
  | fuel + 1, text => do
    let text ← skipTrivia false text
    if text.head? = some ']' then some ([], text.drop 1)
    else
      let (first, rest) ← value text
      match ← skipTrivia false rest with
      | ']' :: rest => some ([first], rest)
      | ',' :: rest =>
        let (others, rest) ← items? value fuel rest
        some (first :: others, rest)
      | _ => none

/-- The pairs of a table in braces, on one line and without a comma at the end. -/
def pairs? (value : Reader Toml) : Nat → Reader (List ((List String × String) × Toml))
  | 0, _ => none
  | fuel + 1, text => do
    let (first, rest) ← pair? value text
    match skipBlanks rest with
    | '\x7d' :: rest => some ([first], rest)
    | ',' :: rest =>
      let (others, rest) ← pairs? value fuel rest
      some (first :: others, rest)
    | _ => none

def bracedTable? (value : Reader Toml) : Reader Toml := fun text =>
  match skipBlanks text with
  | '\x7d' :: rest => some (.table .braces [], rest)
  | inner => do
    let (pairs, rest) ← pairs? value (inner.length + 1) inner
    let entries ← pairs.foldlM (fun entries p => insert p.1.1 p.1.2 p.2 entries) []
    some (.table .braces entries, rest)

/-- A value with containers nested less than `depth` deep. -/
def value? : Nat → Reader Toml
  | 0, text => scalar? text
  | depth + 1, text =>
    match text with
    | '[' :: rest =>
      if depth = 0 then none
      else (items? (value? depth) (rest.length + 1) rest).map fun (items, r) => (.array items, r)
    | '\x7b' :: rest => if depth = 0 then none else bracedTable? (value? depth) rest
    | text => scalar? text

/-- The end of a line: blanks, perhaps a comment, and a line end or nothing more. -/
def endLine? (text : List Char) : Option (List Char) :=
  let rest :=
    match skipBlanks text with
    | '#' :: comment => comment.dropWhile isPlain
    | rest => rest
  match rest with
  | [] => some []
  | rest => lineFeed? rest

def header? (draft : Draft) (text : List Char) : Option (Draft × List Char) := do
  match text with
  | '[' :: rest =>
    let ((path, key), rest) ← key? rest
    let (_, rest) ← char? ']' rest
    let (_, rest) ← char? ']' rest
    some (← draft.openItem? path key, rest)
  | rest =>
    let ((path, key), rest) ← key? rest
    let (_, rest) ← char? ']' rest
    some (← draft.openTable? path key, rest)

def line? (draft : Draft) (text : List Char) : Option (Draft × List Char) :=
  match text with
  | '[' :: rest => header? draft rest
  | '#' :: _ | '\n' :: _ | '\r' :: _ => some (draft, text)
  | text => do
    let (((path, key), value), rest) ← pair? (value? nestingLimit) text
    some (← draft.insert? path key value, rest)

/-- Line after line; the fuel bounds their number. -/
def lines? : Nat → Draft → List Char → Option Draft
  | 0, _, _ => none
  | fuel + 1, draft, text =>
    match skipBlanks text with
    | [] => some draft
    | text => do
      let (draft, rest) ← line? draft text
      lines? fuel draft (← endLine? rest)

/-- The entries of a document; a byte order mark in front of it is dropped. -/
def parse? (text : String) : Option Entries :=
  let chars := text.toList
  let chars := if chars.head? = some (Char.ofNat 0xfeff) then chars.drop 1 else chars
  (lines? (chars.length + 1) {} chars).bind Draft.finish?

end Overloads.Toml
