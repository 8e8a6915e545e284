import Overloads.Json.Basic
import Overloads.Number.Shortest
import Overloads.Text.Category

/-! JSON text of a value, on one line or indented by two spaces. -/

namespace Overloads.Json

/-- Positional notation from 1e-5 up to 1e16, else an exponent with its sign; a tie goes to the
even digit. -/
def numberFormat : DoubleFormat := ⟨.even, -4, 16, true⟩

def escape (c : Char) : List Char :=
  if c = '"' then ['\\', '"']
  else if c = '\\' then ['\\', '\\']
  else if c = '\x08' then ['\\', 'b']
  else if c = '\x0c' then ['\\', 'f']
  else if c = '\n' then ['\\', 'n']
  else if c = '\r' then ['\\', 'r']
  else if c = '\t' then ['\\', 't']
  else if c.toNat < 0x20 then '\\' :: 'u' :: Text.hex4 c.toNat
  else [c]

def quote (s : String) : String := .ofList ('"' :: s.toList.flatMap escape ++ ['"'])

def leafText : Json → String
  | .bool true => "true"
  | .bool false => "false"
  | .int n => toString n
  | .float x => numberFormat.write x
  | .string s => quote s
  | _ => "null"

mutual

def compact : Json → String
  | .array items => "[" ++ ",".intercalate (compactItems items) ++ "]"
  | .object members => "\x7b" ++ ",".intercalate (compactMembers members) ++ "\x7d"
  | leaf => leaf.leafText

def compactItems : List Json → List String
  | [] => []
  | item :: rest => item.compact :: compactItems rest

def compactMembers : List (String × Json) → List String
  | [] => []
  | (name, value) :: rest => (quote name ++ ":" ++ value.compact) :: compactMembers rest

end

/-- The parts of a container, one to a line, between its brackets. -/
def bracketed (first last : String) (depth : Nat) (parts : List String) : String :=
  let indent (n : Nat) : String := .ofList (List.replicate (2 * n) ' ')
  match parts with
  | [] => first ++ last
  | parts =>
    let lines := parts.map (indent (depth + 1) ++ ·)
    first ++ "\n" ++ ",\n".intercalate lines ++ "\n" ++ indent depth ++ last

mutual

def prettyAt (depth : Nat) : Json → String
  | .array items => bracketed "[" "]" depth (prettyItems depth items)
  | .object members => bracketed "\x7b" "\x7d" depth (prettyMembers depth members)
  | leaf => leaf.leafText

def prettyItems (depth : Nat) : List Json → List String
  | [] => []
  | item :: rest => item.prettyAt (depth + 1) :: prettyItems depth rest

def prettyMembers (depth : Nat) : List (String × Json) → List String
  | [] => []
  | (name, value) :: rest =>
    (quote name ++ ": " ++ value.prettyAt (depth + 1)) :: prettyMembers depth rest

end

/-- One part to a line, two spaces to a level, empty containers closed at once. -/
def pretty (value : Json) : String := value.prettyAt 0

end Overloads.Json
