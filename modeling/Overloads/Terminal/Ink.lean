/-! Terminal text with styles. The same text can be shown plainly or with colour sequences. -/

namespace Overloads

inductive Colour
  | red
  | green
  | yellow
  | blue
  | brightRed
  | brightYellow
deriving DecidableEq

structure Style where
  bold : Bool := false
  colour : Option Colour := none
deriving DecidableEq

/-- A piece of terminal output: text, a change to a style, or the end of all styles. -/
inductive Ink
  | text (s : String)
  | paint (style : Style)
  | reset
deriving DecidableEq

namespace Colour

/-- The sequence that selects the colour; the bright ones come from the larger palette. -/
def sequence : Colour → String
  | .red => "\x1b[31m"
  | .green => "\x1b[32m"
  | .yellow => "\x1b[33m"
  | .blue => "\x1b[34m"
  | .brightRed => "\x1b[38;5;9m"
  | .brightYellow => "\x1b[38;5;11m"

end Colour

namespace Ink

def resetSequence : String := "\x1b[0m"

def styleSequence (style : Style) : String :=
  resetSequence ++ (if style.bold then "\x1b[1m" else "") ++
    (match style.colour with
      | some colour => colour.sequence
      | none => "")

def render (coloured : Bool) : Ink → String
  | .text s => s
  | .paint style => if coloured then styleSequence style else ""
  | .reset => if coloured then resetSequence else ""

def renderAll (coloured : Bool) (inks : List Ink) : String :=
  String.join (inks.map (render coloured))

def styled (style : Style) (s : String) : List Ink := [.paint style, .text s, .reset]

end Ink
end Overloads
