import Overloads.Source.Declaration

/-! Diagnostics: what a lowering run reports about a member of a type. -/

namespace Overloads

inductive DiagnosticKind
  | signatureCollision
  | unsupportedType
  | incompatibleDefault
  | nonTrailingDefault
deriving DecidableEq

inductive Severity
  | error
  | warning
deriving DecidableEq

namespace DiagnosticKind

def code : DiagnosticKind → String
  | .signatureCollision => "L0001"
  | .unsupportedType => "L0002"
  | .incompatibleDefault => "L0003"
  | .nonTrailingDefault => "L0004"

/-- Everything but an ignored default is an error. -/
def severity : DiagnosticKind → Severity
  | .nonTrailingDefault => .warning
  | _ => .error

def title : DiagnosticKind → String
  | .signatureCollision => "signature collision"
  | .unsupportedType => "unsupported type"
  | .incompatibleDefault => "incompatible default"
  | .nonTrailingDefault => "non-trailing default"

end DiagnosticKind

def Severity.word : Severity → String
  | .error => "error"
  | .warning => "warning"

/-- A diagnostic about a member of the owner. Code and severity follow from the kind in
everything that a run reports, but not in everything that can be read. -/
structure Diagnostic where
  kind : DiagnosticKind
  code : String
  severity : Severity
  owner : String
  member : String
  detail : String
  span : Option Span := none
deriving DecidableEq

namespace Diagnostic

def report (kind : DiagnosticKind) (owner member detail : String) (span : Option Span) :
    Diagnostic :=
  { kind, code := kind.code, severity := kind.severity, owner, member, detail, span }

def isError (d : Diagnostic) : Bool := d.severity == .error

theorem isError_report {kind : DiagnosticKind} {owner member detail : String}
    {span : Option Span} :
    (report kind owner member detail span).isError = false ↔ kind = .nonTrailingDefault := by
  cases kind <;> simp [isError, report, DiagnosticKind.severity]

def message (d : Diagnostic) : String := d.owner ++ "." ++ d.member ++ ": " ++ d.detail

def display (d : Diagnostic) : String := d.severity.word ++ "[" ++ d.code ++ "]: " ++ d.message

def errorCount (ds : List Diagnostic) : Nat := ds.countP isError

end Diagnostic
end Overloads
