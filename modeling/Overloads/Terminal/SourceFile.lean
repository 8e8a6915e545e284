import Overloads.Text.Category
import Overloads.Text.Width

/-! Source files as reports show them: lines, byte offsets and terminal columns. -/

namespace Overloads

structure SourceFile where
  name : String
  text : String

/-- A line: its position in the file counted from zero, the offset of its first byte, and its
characters without the line feed. -/
structure SourceLine where
  index : Nat
  start : Nat
  content : List Char

/-- A character in its line: the offset of its first byte, and the columns it takes. -/
structure Cell where
  offset : Nat
  width : Nat
  char : Char

namespace Cell

def stop (c : Cell) : Nat := c.offset + c.char.utf8Size

/-- Whether the cell and a range of bytes have a byte in common. -/
def overlaps (start stop : Nat) (c : Cell) : Bool := max start c.offset < min stop c.stop

end Cell

namespace SourceLine

def byteSize (chars : List Char) : Nat := chars.foldl (fun size c => size + c.utf8Size) 0

def number (l : SourceLine) : Nat := l.index + 1

/-- The line without carriage returns and NUL characters at its end. -/
def trimmed (l : SourceLine) : List Char :=
  (l.content.reverse.dropWhile fun c => c == '\n' || c == '\r' || c == Char.ofNat 0).reverse

/-- Tabs reach to the next multiple of four columns. -/
def cellsFrom (offset column : Nat) : List Char → List Cell
  | [] => []
  | c :: rest =>
    let width := if c = '\t' then 4 - column % 4 else Text.columns c
    ⟨offset, width, c⟩ :: cellsFrom (offset + c.utf8Size) (column + width) rest

def cells (l : SourceLine) : List Cell := cellsFrom 0 0 l.trimmed

def leadingSpace (l : SourceLine) : Nat := byteSize (l.trimmed.takeWhile Text.isSpace)

end SourceLine

namespace SourceFile

def linesFrom (index start : Nat) : List (List Char) → List SourceLine
  | [] => []
  | content :: rest =>
    ⟨index, start, content⟩ ::
      linesFrom (index + 1) (start + SourceLine.byteSize content + 1) rest

/-- All lines; there is always a last one, perhaps empty, that no line feed ends. -/
def lines (f : SourceFile) : List SourceLine := linesFrom 0 0 (Text.splitLines f.text.toList)

/-- The line of a byte; bytes past the end belong to the last line. -/
def lineAt? (f : SourceFile) (byte : Nat) : Option SourceLine :=
  (f.lines.takeWhile (·.start ≤ byte)).getLast?

/-- The column of a byte, counted from one: one more than the characters that end before it. -/
def columnAt (l : SourceLine) (byte : Nat) : Nat :=
  ((SourceLine.cellsFrom l.start 0 l.content).filter (·.stop ≤ byte)).length + 1

end SourceFile
end Overloads
