/-! Printed source as lines. A line is indented by its depth; a blank one is empty at every
depth. -/

namespace Overloads

inductive Line
  | blank
  | text (depth : Nat) (content : String)
deriving DecidableEq

namespace Line

def nest : Line → Line
  | .blank => .blank
  | .text depth content => .text (depth + 1) content

def render (indent : String) : Line → String
  | .blank => "\n"
  | .text depth content => String.join (List.replicate depth indent) ++ content ++ "\n"

def renderAll (indent : String) (lines : List Line) : String :=
  String.join (lines.map (render indent))

/-- A head line, the inner lines one level deeper, and a closing brace. -/
def block (head : String) (inner : List Line) : List Line :=
  .text 0 (head ++ " \x7b") :: inner.map nest ++ [.text 0 "\x7d"]

end Line
end Overloads
