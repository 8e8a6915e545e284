import Overloads.Text.Category
import Overloads.Toml.Basic

/-! Scalars of TOML text: the four kinds of strings, numbers, booleans and dates. A reader takes
what it can from the front of the text and leaves the rest. -/

namespace Overloads.Toml

abbrev Reader (α : Type) := List Char → Option (α × List Char)

def isBlank (c : Char) : Bool := c == ' ' || c == '\t'

def skipBlanks (text : List Char) : List Char := text.dropWhile isBlank

/-- Characters of comments and strings: everything but controls, of which the tab passes. -/
def isPlain (c : Char) : Bool := c == '\t' || (0x20 ≤ c.toNat && c.toNat != 0x7f)

def lineFeed? : List Char → Option (List Char)
  | '\n' :: rest => some rest
  | '\r' :: '\n' :: rest => some rest
  | _ => none

def codePoint? (size : Nat) : Reader Char := fun text =>
  let digits := text.take size
  if digits.length < size then none
  else
    (digits.mapM Text.hexValue?).bind fun values =>
      let code := values.foldl (fun n d => 16 * n + d) 0
      if code.isValidChar then some (Char.ofNat code, text.drop size) else none

def escape? : Reader Char
  | 'b' :: rest => some ('\x08', rest)
  | 't' :: rest => some ('\t', rest)
  | 'n' :: rest => some ('\n', rest)
  | 'f' :: rest => some ('\x0c', rest)
  | 'r' :: rest => some ('\r', rest)
  | '"' :: rest => some ('"', rest)
  | '\\' :: rest => some ('\\', rest)
  | 'u' :: rest => codePoint? 4 rest
  | 'U' :: rest => codePoint? 8 rest
  | _ => none

/-- The rest of a string on one line, up to its closing quote. The fuel bounds the number of
characters. -/
def lineString? (quote : Char) (escapes : Bool) : Nat → Reader (List Char)
  | 0, _ => none
  | _ + 1, [] => none
  | fuel + 1, c :: rest =>
    if c = quote then some ([], rest)
    else do
      let (c, rest) ←
        if escapes ∧ c = '\\' then escape? rest
        else if isPlain c then some (c, rest)
        else none
      let (s, rest) ← lineString? quote escapes fuel rest
      some (c :: s, rest)

/-- White space and line ends, behind a backslash at the end of a line. -/
def skipLines (text : List Char) : List Char :=
  text.dropWhile fun c => isBlank c || c == '\n' || c == '\r'

def endsLine (text : List Char) : Bool := (lineFeed? (skipBlanks text)).isSome

/-- Carriage returns are part of line ends only. -/
def hasLoneReturn : List Char → Bool
  | '\r' :: '\n' :: rest => hasLoneReturn rest
  | '\r' :: _ => true
  | _ :: rest => hasLoneReturn rest
  | [] => false

/-- The rest of a string over several lines, up to three closing quotes; one or two more quotes
before them belong to the string. -/
def blockString? (quote : Char) (escapes : Bool) : Nat → Reader (List Char)
  | 0, _ => none
  | _ + 1, [] => none
  | fuel + 1, c :: rest =>
    if c = quote then
      let run := (c :: rest).takeWhile (· == quote)
      let rest := (c :: rest).dropWhile (· == quote)
      if 5 < run.length then none
      else if 3 ≤ run.length then some (run.drop 3, rest)
      else (blockString? quote escapes fuel rest).map fun (s, rest) => (run ++ s, rest)
    else if escapes ∧ c = '\\' ∧ endsLine rest then
      let skipped := rest.takeWhile fun c => isBlank c || c == '\n' || c == '\r'
      if hasLoneReturn skipped then none
      else blockString? quote escapes fuel (skipLines rest)
    else do
      let (c, rest) ←
        if escapes ∧ c = '\\' then escape? rest
        else if isPlain c then some (c, rest)
        else (lineFeed? (c :: rest)).map ('\n', ·)
      let (s, rest) ← blockString? quote escapes fuel rest
      some (c :: s, rest)

/-- A string of any kind. A line end right behind three opening quotes is dropped. -/
def string? : Reader String
  | first :: rest =>
    let escapes := first = '"'
    if first = '"' ∨ first = '\x27' then
      match rest with
      | second :: third :: inner =>
        if second = first ∧ third = first then
          let inner := (lineFeed? inner).getD inner
          (blockString? first escapes (inner.length + 1) inner).map fun (s, r) => (.ofList s, r)
        else (lineString? first escapes (rest.length + 1) rest).map fun (s, r) => (.ofList s, r)
      | _ => (lineString? first escapes (rest.length + 1) rest).map fun (s, r) => (.ofList s, r)
    else none
  | [] => none

/-- Digits with single underscores between them; the underscores are dropped. -/
def digits? (isDigit : Char → Bool) : Reader (List Char) := fun text =>
  let run := text.takeWhile fun c => isDigit c || c == '_'
  let pieces := run.splitOn '_'
  if pieces.all (· ≠ []) then
    some (pieces.flatten, text.dropWhile fun c => isDigit c || c == '_')
  else none

def sign : List Char → Bool × List Char
  | '-' :: rest => (true, rest)
  | '+' :: rest => (false, rest)
  | rest => (false, rest)

/-- A decimal integer without leading zeros: its sign and its digits. -/
def decimal? : Reader (Bool × List Char) := fun text =>
  let (negative, unsigned) := sign text
  (digits? Char.isDigit unsigned).bind fun (digits, rest) =>
    if digits.head? = some '0' ∧ digits.length ≠ 1 then none else some ((negative, digits), rest)

def exponentPart? : Reader Int
  | mark :: rest =>
    if mark = 'e' ∨ mark = 'E' then
      let (negative, unsigned) := sign rest
      (digits? Char.isDigit unsigned).map fun (digits, rest) =>
        let n : Int := Text.decimalValue digits
        (if negative then -n else n, rest)
    else none
  | [] => none

/-- Whether a decimal rounds to infinity in 64-bit floating point. -/
def isInfinite (significand : List Char) (exponent : Int) : Bool :=
  let significant := significand.dropWhile (· == '0')
  let point : Int := significant.length + exponent
  if significant = [] ∨ point < 300 then false
  else if 320 < point then true
  else
    let limit := Nat.pow 2 1024 - Nat.pow 2 970
    limit * Nat.pow 10 (-exponent).toNat ≤
      Text.decimalValue significant * Nat.pow 10 exponent.toNat

/-- A floating point number with a fraction or an exponent. It may be too small, and it may be
below the least number, but not above the greatest. -/
def fractional? : Reader Unit := fun text => do
  let ((negative, whole), rest) ← decimal? text
  let (fraction, rest) ←
    match rest with
    | '.' :: rest => digits? Char.isDigit rest
    | rest => if (exponentPart? rest).isSome then some ([], rest) else none
  let (exponent, rest) ←
    match rest with
    | 'e' :: _ | 'E' :: _ => exponentPart? rest
    | _ => some (0, rest)
  if !negative && isInfinite (whole ++ fraction) (exponent - fraction.length) then none
  else some ((), rest)

def word? (word : String) : Reader Unit := fun text =>
  if word.toList.isPrefixOf text then some ((), text.drop word.length) else none

def specialFloat? : Reader Unit := fun text =>
  let (_, unsigned) := sign text
  (word? "inf" unsigned).or (word? "nan" unsigned)

def isBetween (least greatest n : Nat) : Bool := least ≤ n && n ≤ greatest

def fixed? (size least greatest : Nat) : Reader Nat := fun text =>
  let digits := text.take size
  let n := Text.decimalValue digits
  if digits.length = size && digits.all Char.isDigit && isBetween least greatest n then
    some (n, text.drop size)
  else none

def char? (c : Char) : Reader Unit
  | first :: rest => if first = c then some ((), rest) else none
  | [] => none

def daysIn (year month : Nat) : Nat :=
  if month = 2 then
    if year % 4 = 0 ∧ (year % 100 ≠ 0 ∨ year % 400 = 0) then 29 else 28
  else if month = 4 ∨ month = 6 ∨ month = 9 ∨ month = 11 then 30
  else 31

def day? : Reader Unit := fun text => do
  let (year, rest) ← fixed? 4 0 9999 text
  let (_, rest) ← char? '-' rest
  let (month, rest) ← fixed? 2 1 12 rest
  let (_, rest) ← char? '-' rest
  let (_, rest) ← fixed? 2 1 (daysIn year month) rest
  some ((), rest)

/-- A time of day, to the second or finer. -/
def time? : Reader Unit := fun text => do
  let (_, rest) ← fixed? 2 0 23 text
  let (_, rest) ← char? ':' rest
  let (_, rest) ← fixed? 2 0 59 rest
  let (_, rest) ← char? ':' rest
  let (_, rest) ← fixed? 2 0 60 rest
  match rest with
  | '.' :: d :: rest => if d.isDigit then some ((), rest.dropWhile Char.isDigit) else none
  | '.' :: _ => none
  | rest => some ((), rest)

def offset? : Reader Unit
  | 'Z' :: rest | 'z' :: rest => some ((), rest)
  | '+' :: rest | '-' :: rest => do
    let (_, rest) ← fixed? 2 0 23 rest
    let (_, rest) ← char? ':' rest
    let (_, rest) ← fixed? 2 0 59 rest
    some ((), rest)
  | _ => none

/-- A day, a day with a time, a day with a time and an offset, or a time. -/
def date? : Reader Unit := fun text =>
  match day? text with
  | none => time? text
  | some (_, rest) =>
    let timed :=
      match rest with
      | c :: later => if c = 'T' ∨ c = 't' ∨ c = ' ' then time? later else none
      | [] => none
    match timed with
    | none => some ((), rest)
    | some (_, rest) =>
      match rest with
      | '+' :: _ | '-' :: _ => offset? rest
      | _ => some ((), ((offset? rest).map Prod.snd).getD rest)

def inRange (n : Int) : Bool := -0x8000000000000000 ≤ n && n < 0x8000000000000000

def based? (base : Nat) : Reader Int := fun text =>
  (digits? (fun c => (Text.hexValue? c).any (· < base)) text).bind fun (digits, rest) =>
    let n : Nat := digits.foldl (fun n d => base * n + (Text.hexValue? d).getD 0) 0
    if inRange n then some ((n : Int), rest) else none

/-- An integer of 64 bits; the bases other than ten have no sign. -/
def integer? : Reader Int
  | '0' :: 'x' :: rest => based? 16 rest
  | '0' :: 'o' :: rest => based? 8 rest
  | '0' :: 'b' :: rest => based? 2 rest
  | text =>
    (decimal? text).bind fun ((negative, digits), rest) =>
      let n : Int := Text.decimalValue digits
      let n := if negative then -n else n
      if inRange n then some (n, rest) else none

def numeric? : Reader Toml := fun text =>
  ((date? text).map fun (_, rest) => (.date, rest)).or <|
    ((fractional? text).map fun (_, rest) => (.float, rest)).or <|
      ((specialFloat? text).map fun (_, rest) => (.float, rest)).or <|
        (integer? text).map fun (n, rest) => (.integer n, rest)

def scalar? : Reader Toml
  | [] => none
  | c :: rest =>
    let text := c :: rest
    if c = '"' ∨ c = '\x27' then (string? text).map fun (s, rest) => (.string s, rest)
    else if c = '+' ∨ c = '-' ∨ c.isDigit then numeric? text
    else if c = 't' then (word? "true" text).map fun (_, rest) => (.boolean true, rest)
    else if c = 'f' then (word? "false" text).map fun (_, rest) => (.boolean false, rest)
    else if c = 'i' ∨ c = 'n' then (specialFloat? text).map fun (_, rest) => (.float, rest)
    else none

end Overloads.Toml
