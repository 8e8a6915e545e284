import Overloads.Codec.Target
import Overloads.Command.Arguments
import Overloads.Command.Files
import Overloads.Config.Toml
import Overloads.Json.Parser
import Overloads.Json.Printer
import Overloads.Terminal.Report

/-! A run of the command: reads a program and its configuration, lowers it, and writes the result
and the report. The file system is a parameter. -/

namespace Overloads.Command

structure Outcome where
  exit : UInt32
  stdout : String := ""
  stderr : String := ""
deriving DecidableEq

inductive ConfigFailure
  | unread (cause : FileFailure)
  | rejected (cause : ConfigError)
deriving DecidableEq

inductive Failure
  | modelUnread (path : String) (cause : FileFailure)
  | modelMalformed (path : String)
  | configUnusable (path : String) (cause : ConfigFailure)
  | sourceUnread (path : String) (cause : FileFailure)
  | outputUnwritten (path : String) (cause : FileFailure)
deriving DecidableEq

def Failure.message : Failure → String
  | .modelUnread path cause => "failed to read model " ++ path ++ ": " ++ cause.message
  | .modelMalformed path => "failed to parse model " ++ path
  | .configUnusable path (.unread cause) =>
    "invalid config " ++ path ++ ": Failed to read config file: " ++ cause.message ++ ": " ++
      cause.message
  | .configUnusable path (.rejected cause) => "invalid config " ++ path ++ ": " ++ cause.message
  | .sourceUnread path cause => "failed to read source " ++ path ++ ": " ++ cause.message
  | .outputUnwritten path cause => "failed to write " ++ path ++ ": " ++ cause.message

def configName : String := "siglow.toml"

def versionText : String := "siglow 0.2.0\n"

structure Session where
  config : Config
  program : TargetProgram
  source : Option SourceFile

section
variable {m : Type → Type} [Monad m] (files : FileAccess m)

/-- The configuration of an explicit file, else of the one beside the model, else none. -/
def loadConfig (model : String) (explicit : Option String) : ExceptT Failure m Config := do
  let path ←
    match explicit with
    | some path => pure (some path)
    | none =>
      let path := beside model configName
      pure (if ← ExceptT.lift (files.isFile path) then some path else none)
  match path with
  | none => return {}
  | some path =>
    match ← ExceptT.lift (files.read path) with
    | .error cause => throw (.configUnusable path (.unread cause))
    | .ok text =>
      match Config.ofToml text with
      | .error cause => throw (.configUnusable path (.rejected cause))
      | .ok config => return config

def load (i : Invocation) : ExceptT Failure m Session := do
  match ← ExceptT.lift (files.read i.model) with
  | .error cause => throw (.modelUnread i.model cause)
  | .ok text =>
    match (Json.parse? text).bind (Program.decode .direct) with
    | none => throw (.modelMalformed i.model)
    | some program =>
      let config ← loadConfig files i.model i.config
      match i.source.or program.source with
      | none => return ⟨config, program.run config, none⟩
      | some path =>
        match ← ExceptT.lift (files.read path) with
        | .error cause => throw (.sourceUnread path cause)
        | .ok text => return ⟨config, program.run config, some ⟨path, text⟩⟩

end

def summary (errors warnings : Nat) (overloads : UInt64) : List Ink :=
  let (label, colour) :=
    if errors ≠ 0 then ("failed", Colour.red)
    else if warnings ≠ 0 then ("finished with warnings", .yellow)
    else ("ok", .green)
  Ink.styled { bold := true, colour := some colour } label ++
    [.text (": " ++ toString overloads.toNat ++ " overload(s), " ++ toString errors ++
      " error(s), " ++ toString warnings ++ " warning(s)\n")]

namespace Session

def report (s : Session) : List Ink :=
  let file := s.source.map fun _ => 0
  let errors := s.program.errorCount
  s.program.diagnostics.flatMap (fun d =>
    match (d.toReport file).render s.source.toList with
    | .ok ink => ink
    | .error _ => []) ++
    summary errors (s.program.diagnostics.length - errors) s.program.stats.overloads

def exit (s : Session) : UInt32 := if s.program.hasErrors then 1 else 0

/-- What the subcommand prints or writes; the check prints for tools only. -/
def output (s : Session) : Format → String
  | .text => s.config.renderOptions.programText s.program
  | .json => s.program.encode.pretty
  | .pretty => ""

def diagnosticsText (s : Session) : String :=
  (Json.array (s.program.diagnostics.map Diagnostic.encode)).pretty ++ "\n"

end Session

/-- Whether to colour: an option decides, unless the environment forbids colours; else the
terminal has to be a capable one. -/
def isColoured (option : Option String) (env : String → Option String) : Bool :=
  if (env "NO_COLOR").isSome then false
  else if option = some "always" then true
  else if option = some "never" then false
  else
    match env "TERM" with
    | none => false
    | some term => term != "dumb"

def errorLine (failure : Failure) : List Ink :=
  Ink.styled { bold := true, colour := some .red } "error" ++
    [.text (": " ++ failure.message ++ "\n")]

section
variable {m : Type → Type} [Monad m] (files : FileAccess m)

def perform (i : Invocation) (coloured : Bool) : ExceptT Failure m Outcome := do
  let session ← load files i
  let report := Ink.renderAll coloured session.report
  match i.subcommand, i.format, i.out with
  | .check, .json, _ => return { exit := session.exit, stdout := session.diagnosticsText }
  | .check, _, _ => return { exit := session.exit, stderr := report }
  | .lower, format, none =>
    return { exit := session.exit, stdout := session.output format, stderr := report }
  | .lower, format, some path =>
    match ← ExceptT.lift (files.write path (session.output format)) with
    | .error cause => throw (.outputUnwritten path cause)
    | .ok () => return { exit := session.exit, stderr := report }

/-- Runs the command on its arguments. The cause of a failure comes with its outcome. -/
def run (args : List String) (env : String → Option String) : m (Outcome × Option Failure) := do
  match parse args with
  | .error .version => return ({ exit := 0, stdout := versionText }, none)
  | .error .help => return ({ exit := 0 }, none)
  | .error .misuse => return ({ exit := 2 }, none)
  | .ok i =>
    let coloured := isColoured i.color env
    match ← (perform files i coloured).run with
    | .ok outcome => return (outcome, none)
    | .error failure =>
      return ({ exit := 1, stderr := Ink.renderAll coloured (errorLine failure) }, some failure)

end
end Overloads.Command
