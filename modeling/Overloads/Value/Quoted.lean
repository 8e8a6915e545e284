import Overloads.Text.Category

/-! Quoted text in target source. Backslash, quote and control characters are escaped, so a
reader finds the closing quote. All other characters stand for themselves. -/

namespace Overloads.Quoted

def escape (quote c : Char) : List Char :=
  if c = '\\' then ['\\', '\\']
  else if c = '\n' then ['\\', 'n']
  else if c = '\r' then ['\\', 'r']
  else if c = '\t' then ['\\', 't']
  else if c = Char.ofNat 0 then ['\\', '0']
  else if c = quote then ['\\', quote]
  else if Text.isControl c then '\\' :: 'u' :: Text.hex4 c.toNat
  else [c]

def encode (quote : Char) (text : List Char) : List Char :=
  quote :: text.flatMap (escape quote) ++ [quote]

/-- The text up to the first quote that is not escaped, and what follows that quote. -/
def body? (quote : Char) : List Char → Option (List Char × List Char)
  | [] => none
  | '\\' :: 'u' :: a :: b :: c :: d :: rest => do
    let code := 4096 * (← Text.hexValue? a) + 256 * (← Text.hexValue? b) +
      16 * (← Text.hexValue? c) + (← Text.hexValue? d)
    let (text, after) ← body? quote rest
    some (Char.ofNat code :: text, after)
  | '\\' :: e :: rest => do
    let c ←
      if e = '\\' ∨ e = quote then some e
      else if e = 'n' then some '\n'
      else if e = 'r' then some '\r'
      else if e = 't' then some '\t'
      else if e = '0' then some (Char.ofNat 0)
      else none
    let (text, after) ← body? quote rest
    some (c :: text, after)
  | c :: rest =>
    if c = quote then some ([], rest)
    else if c = '\\' then none
    else (body? quote rest).map fun (text, after) => (c :: text, after)

/-- Reads one quoted text from the front. -/
def decode? (quote : Char) : List Char → Option (List Char × List Char)
  | first :: rest => if first = quote then body? quote rest else none
  | [] => none

end Overloads.Quoted
