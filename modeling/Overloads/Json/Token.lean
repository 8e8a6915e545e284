import Overloads.Json.Number

/-! The tokens of JSON text, found by a scanner that looks at one character at a time. -/

namespace Overloads.Json

inductive Token
  | openArray
  | closeArray
  | openObject
  | closeObject
  | comma
  | colon
  /-- A string, or nothing for one that holds a lone surrogate. -/
  | quoted (text : Option String)
  | leaf (value : Json)

/-- A piece of a string: a character as it stands or as a short escape, or the UTF-16 unit of a
`u` escape. -/
inductive Piece
  | char (c : Char)
  | unit (n : Nat)

/-- The text of the pieces; nothing when a surrogate lacks its partner. -/
def Piece.text? : List Piece → Option (List Char)
  | [] => some []
  | .char c :: rest => (text? rest).map (c :: ·)
  | .unit high :: rest =>
    if 0xd800 ≤ high ∧ high < 0xdc00 then
      match rest with
      | .unit low :: rest =>
        if 0xdc00 ≤ low ∧ low < 0xe000 then
          (text? rest).map (Char.ofNat (0x10000 + (high - 0xd800) * 0x400 + (low - 0xdc00)) :: ·)
        else none
      | _ => none
    else if 0xdc00 ≤ high ∧ high < 0xe000 then none
    else (text? rest).map (Char.ofNat high :: ·)

inductive Escape
  | none
  | begun
  | hex (left value : Nat)

/-- The token under way, its characters or pieces in reverse. -/
inductive Pending
  | none
  | word (seen : List Char)
  | numeral (seen : List Char)
  | quoted (seen : List Piece) (escape : Escape)

/-- What is found so far, the last token first. -/
structure Scanner where
  tokens : List Token
  pending : Pending

namespace Scanner

def isSpace (c : Char) : Bool := c == ' ' || c == '\t' || c == '\n' || c == '\r'

def isNumeral (c : Char) : Bool :=
  c.isDigit || c == '-' || c == '+' || c == '.' || c == 'e' || c == 'E'

def emit (s : Scanner) (token : Token) : Scanner := ⟨token :: s.tokens, .none⟩

def wordToken? (word : String) : Option Token :=
  if word = "true" then some (.leaf (.bool true))
  else if word = "false" then some (.leaf (.bool false))
  else if word = "null" then some (.leaf .null)
  else none

/-- The character that begins a token, or white space between two. -/
def begin? (s : Scanner) (c : Char) : Option Scanner :=
  if isSpace c then some s
  else if c = '[' then some (s.emit .openArray)
  else if c = ']' then some (s.emit .closeArray)
  else if c = '\x7b' then some (s.emit .openObject)
  else if c = '\x7d' then some (s.emit .closeObject)
  else if c = ',' then some (s.emit .comma)
  else if c = ':' then some (s.emit .colon)
  else if c = '"' then some { s with pending := .quoted [] .none }
  else if c = '-' ∨ c.isDigit then some { s with pending := .numeral [c] }
  else if c.isLower then some { s with pending := .word [c] }
  else none

def shortEscape? (c : Char) : Option Char :=
  if c = '"' ∨ c = '\\' ∨ c = '/' then some c
  else if c = 'b' then some '\x08'
  else if c = 'f' then some '\x0c'
  else if c = 'n' then some '\n'
  else if c = 'r' then some '\r'
  else if c = 't' then some '\t'
  else none

def quoted? (s : Scanner) (seen : List Piece) (escape : Escape) (c : Char) : Option Scanner :=
  match escape with
  | .none =>
    if c = '"' then
      some (s.emit (.quoted ((Piece.text? seen.reverse).map String.ofList)))
    else if c = '\\' then some { s with pending := .quoted seen .begun }
    else if c.toNat < 0x20 then none
    else some { s with pending := .quoted (.char c :: seen) .none }
  | .begun =>
    if c = 'u' then some { s with pending := .quoted seen (.hex 4 0) }
    else (shortEscape? c).map fun e => { s with pending := .quoted (.char e :: seen) .none }
  | .hex left value =>
    (Text.hexValue? c).map fun digit =>
      let value := 16 * value + digit
      if left ≤ 1 then { s with pending := .quoted (.unit value :: seen) .none }
      else { s with pending := .quoted seen (.hex (left - 1) value) }

/-- Ends a word or a numeral; a string cannot end this way. -/
def close? (s : Scanner) : Option Scanner :=
  match s.pending with
  | .none => some s
  | .word seen => (wordToken? (.ofList seen.reverse)).map s.emit
  | .numeral seen => (Numeral.ofChars? seen.reverse).map fun n => s.emit (.leaf n.toJson)
  | .quoted _ _ => none

def step? (s : Scanner) (c : Char) : Option Scanner :=
  match s.pending with
  | .none => s.begin? c
  | .word seen =>
    if c.isLower then some { s with pending := .word (c :: seen) }
    else s.close?.bind (·.begin? c)
  | .numeral seen =>
    if isNumeral c then some { s with pending := .numeral (c :: seen) }
    else s.close?.bind (·.begin? c)
  | .quoted seen escape => s.quoted? seen escape c

end Scanner

def tokens? (text : List Char) : Option (List Token) :=
  (text.foldlM Scanner.step? ⟨[], .none⟩).bind fun s => s.close?.map (·.tokens.reverse)

end Overloads.Json
