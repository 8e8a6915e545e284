import Overloads.Diagnostic.Basic
import Overloads.Terminal.Ink
import Overloads.Terminal.SourceFile

/-! The part of a report that shows marked source text, with line numbers on the left. -/

namespace Overloads

structure Label where
  file : Nat
  start : Nat
  stop : Nat
  message : String
deriving DecidableEq

/-- What a range over several lines does on one of them: it starts there, runs through, or ends
there, at an offset into the line. -/
inductive Mark
  | top (offset : Nat)
  | through
  | bottom (offset : Nat)
deriving DecidableEq

namespace Snippet

def borderStyle : Style := { colour := some .blue }

def labelStyle : Severity → Style
  | .error => { colour := some .red }
  | .warning => { colour := some .yellow }

def spaces (n : Nat) : String := .ofList (List.replicate n ' ')

def repeated (n : Nat) (c : Char) : String := .ofList (List.replicate n c)

def newline : Ink := .text "\n"

def margin (padding : Nat) : List Ink := [.text (spaces padding ++ " ")]

def border (symbol : String) : List Ink := Ink.styled borderStyle symbol

def numbered (padding number : Nat) : List Ink :=
  let digits := toString number
  Ink.styled borderStyle (spaces (padding - digits.length) ++ digits) ++ [.text " "]

/-- The column of the bracket that joins the lines of a range. -/
def bracket (severity : Severity) (symbol : String) : List Ink :=
  .text " " :: Ink.styled (labelStyle severity) symbol

/-- Whether a range starts in front of all text of its line, so that no caret is needed. -/
def startsLine (l : SourceLine) (offset : Nat) : Bool := offset ≤ l.leadingSpace

def lineBracket (severity : Severity) (l : SourceLine) : Option Mark → List Ink
  | some (.top offset) =>
    if startsLine l offset then bracket severity "╭" else [.text "  "]
  | some .through | some (.bottom _) => bracket severity "│"
  | none => [.text "  "]

def breakBracket (severity : Severity) : Option Mark → List Ink
  | some .through | some (.bottom _) => bracket severity "│"
  | _ => [.text "  "]

def cellText (c : Cell) : Ink := .text (if c.char = '\t' then spaces c.width else c.char.toString)

def painted (style : Style) (marked : Cell → Bool) (inside : Bool) : List Cell → List Ink
  | [] => if inside then [.reset] else []
  | c :: rest =>
    match marked c, inside with
    | true, false => .paint style :: cellText c :: painted style marked true rest
    | false, true => .reset :: cellText c :: painted style marked false rest
    | _, _ => cellText c :: painted style marked inside rest

def sourceRow (severity : Severity) (padding : Nat) (l : SourceLine) (brackets : List Ink)
    (marked : Cell → Bool) : List Ink :=
  numbered padding l.number ++ border "│" ++ brackets ++ [.text " "] ++
    painted (labelStyle severity) marked false l.cells ++ [newline]

/-- Carets below the cells that overlap the range, and blanks before them. -/
def carets (style : Style) (start stop : Nat) (inside : Bool) : List Cell → List Ink
  | [] => if inside then [.reset] else []
  | c :: rest =>
    let here := c.overlaps start stop
    let change : List Ink :=
      match here, inside with
      | true, false => [.paint style]
      | false, true => [.reset]
      | _, _ => []
    let symbol :=
      if here then repeated c.width '^'
      else if c.offset < stop then spaces c.width
      else ""
    change ++ .text symbol :: carets style start stop here rest

/-- The rows of a range within one line. One position past the end of the line can be marked,
and an empty range is marked as if it held a byte. -/
def single (severity : Severity) (padding : Nat) (l : SourceLine) (label : Label) : List Ink :=
  let style := labelStyle severity
  let start := label.start - l.start
  let stop := max (label.stop - l.start) (start + 1)
  let pastEnd : Cell := ⟨SourceLine.byteSize l.trimmed, 1, Char.ofNat 0⟩
  let message := if label.message = "" then [] else .text " " :: Ink.styled style label.message
  sourceRow severity padding l [] (Cell.overlaps start stop) ++
    margin padding ++ border "│" ++ [.text " "] ++
    carets style start stop false (l.cells ++ [pastEnd]) ++ message ++ [newline]

def columnsBefore (l : SourceLine) (offset : Nat) : Nat :=
  (l.cells.takeWhile (·.offset < offset)).foldl (fun columns c => columns + c.width) 0

/-- The row below a line that points at the first or at the last character of a range. -/
def cornerRow (severity : Severity) (padding : Nat) (corner : String) (dashes : Nat)
    (message : String) : List Ink :=
  margin padding ++ border "│" ++ bracket severity corner ++
    [.paint (labelStyle severity),
      .text (repeated dashes '─' ++ "^" ++ (if message = "" then "" else " " ++ message)),
      .reset, newline]

def covers : Option Mark → Cell → Bool
  | some (.top offset), c => offset ≤ c.offset
  | some .through, _ => true
  | some (.bottom offset), c => c.stop ≤ offset
  | none, _ => false

/-- A line of a range over several lines, with the row that points at an end of the range. -/
def markedLine (severity : Severity) (padding : Nat) (message : String) (l : SourceLine)
    (mark : Option Mark) : List Ink :=
  sourceRow severity padding l (lineBracket severity l mark) (covers mark) ++
    (match mark with
      | some (.top offset) =>
        if startsLine l offset then []
        else cornerRow severity padding "╭" (columnsBefore l (offset + 1)) ""
      | some (.bottom offset) =>
        cornerRow severity padding "╰" (columnsBefore l offset) message
      | _ => [])

/-- How much of a long range is shown: lines after its first and before its last. -/
def linesAfterFirst : Nat := 3

def linesBeforeLast : Nat := 1

def markOn? (first last : SourceLine) (label : Label) (l : SourceLine) : Option Mark :=
  if l.index = first.index then some (.top (label.start - first.start))
  else if l.index = last.index then some (.bottom (label.stop - last.start))
  else if first.index < l.index ∧ l.index < last.index then some .through
  else none

def isShown (first last l : SourceLine) : Bool :=
  l.index == first.index || l.index == last.index ||
    (first.index < l.index && l.index < last.index &&
      (l.index ≤ first.index + linesAfterFirst || last.index ≤ l.index + linesBeforeLast))

/-- The shown lines in order. One hidden line between two of them is shown as well; in place of
more there is a break. -/
def joined (severity : Severity) (padding : Nat) (message : String) (all : List SourceLine)
    (mark : SourceLine → Option Mark) : List SourceLine → List Ink
  | [] => []
  | l :: rest =>
    let gap : List Ink :=
      match rest with
      | [] => []
      | next :: _ =>
        if next.index = l.index + 1 then []
        else if next.index = l.index + 2 then
          (match all[l.index + 1]? with
            | some hidden =>
              sourceRow severity padding hidden (lineBracket severity hidden (mark hidden))
                (covers (mark hidden))
            | none => [])
        else margin padding ++ border "·" ++ breakBracket severity (mark l) ++ [newline]
    markedLine severity padding message l (mark l) ++ gap ++
      joined severity padding message all mark rest

def paddingOf (first last : SourceLine) : Nat := (toString (max first.number last.number)).length

/-- The whole snippet: where the range is, the marked lines, and a border if notes follow. -/
def render (severity : Severity) (file : SourceFile) (first last : SourceLine) (label : Label)
    (hasNotes : Bool) : List Ink :=
  let padding := paddingOf first last
  let place := " " ++ file.name ++ ":" ++ toString first.number ++ ":" ++
    toString (SourceFile.columnAt first label.start)
  let isSingle := first.index = last.index
  let empty := margin padding ++ border "│" ++ (if isSingle then [] else [.text "  "]) ++ [newline]
  let rows :=
    if isSingle then single severity padding first label
    else
      let all := file.lines
      joined severity padding label.message all (markOn? first last label)
        (all.filter (isShown first last))
  margin padding ++ border "┌─" ++ [.text place, newline] ++ empty ++ rows ++
    (if hasNotes then empty else [])

end Snippet
end Overloads
