import Overloads.Terminal.Snippet

/-! Diagnostics as terminal reports: a header line, marked source text if there is any, notes,
and a blank line. -/

namespace Overloads

structure Report where
  severity : Severity
  code : String
  message : String
  label : Option Label
  notes : List String

inductive FilesError
  | missing

def FilesError.message : FilesError → String
  | .missing => "file missing"

/-- The detail marks the source where both a file and a span are known, and is a note otherwise. -/
def Diagnostic.toReport (file : Option Nat) (d : Diagnostic) : Report :=
  let label :=
    match file, d.span with
    | some file, some span => some ⟨file, span.start.toNat, span.stop.toNat, d.detail⟩
    | _, _ => none
  { severity := d.severity
    code := d.code
    message := d.kind.title ++ " in " ++ d.owner ++ "." ++ d.member
    label
    notes := (if label.isSome then [] else [d.detail]) ++
      (if d.kind = .signatureCollision then
        ["help: rename one declaration or remove a default value"]
      else []) }

namespace Report

def headerStyle : Severity → Style
  | .error => { bold := true, colour := some .brightRed }
  | .warning => { bold := true, colour := some .brightYellow }

def header (r : Report) : List Ink :=
  let code := if r.code = "" then "" else "[" ++ r.code ++ "]"
  [.paint (headerStyle r.severity), .text (r.severity.word ++ code), .paint { bold := true },
    .text (": " ++ r.message), .reset, Snippet.newline]

/-- A note; its lines after the first are indented as far as the first. -/
def note (padding : Nat) (text : String) : List Ink :=
  (Text.lines text.toList).zipIdx.flatMap fun (line, i) =>
    let bullet := if i = 0 then Ink.styled Snippet.borderStyle "=" else [.text " "]
    Snippet.margin padding ++ bullet ++ [.text (" " ++ String.ofList line), Snippet.newline]

def snippet (r : Report) (files : List SourceFile) : Except FilesError (List Ink × Nat) :=
  match r.label with
  | none => .ok ([], 0)
  | some label =>
    match files[label.file]? with
    | none => .error .missing
    | some file =>
      match file.lineAt? label.start, file.lineAt? label.stop with
      | some first, some last =>
        .ok (Snippet.render r.severity file first last label (!r.notes.isEmpty),
          Snippet.paddingOf first last)
      | _, _ => .error .missing

def render (r : Report) (files : List SourceFile) : Except FilesError (List Ink) := do
  let (snippet, padding) ← r.snippet files
  .ok (r.header ++ snippet ++ r.notes.flatMap (note padding) ++ [Snippet.newline])

end Report
end Overloads
