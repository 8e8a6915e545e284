import Overloads.Command.Run

/-! The program: the command on the real file system and environment. -/

namespace Overloads.Command

/-- The number of an error, which some calls give negated. -/
def errorNumber (code : UInt32) : Nat :=
  if code.toNat < 0x80000000 then code.toNat else 0x100000000 - code.toNat

def failureOf : IO.Error → FileFailure
  | .noFileOrDirectory .. => .notFound
  | .noSuchThing .. => .notFound
  | .inappropriateType _ code _ =>
    if errorNumber code = 20 then .notDirectory else .isDirectory
  | .invalidArgument _ code _ => if errorNumber code = 36 then .nameTooLong else .nameWithNull
  | .resourceExhausted _ code details =>
    if errorNumber code = 28 then .noSpace else .other details
  | .permissionDenied .. => .other "Permission denied (os error 13)"
  | e => .other (toString e)

def readText (path : String) : IO (Except FileFailure String) := do
  try
    let bytes ← IO.FS.readBinFile path
    match String.fromUTF8? bytes with
    | some text => return .ok text
    | none => return .error .notText
  catch e => return .error (failureOf e)

def canRead (path : String) : IO Bool := do
  try
    let _ ← IO.FS.readBinFile path
    return true
  catch _ => return false

def writeText (path content : String) : IO (Except FileFailure Unit) := do
  try
    IO.FS.withFile path .write fun file => do
      file.putStr content
      file.flush
    return .ok ()
  catch e => return .error (failureOf e)

def fileSystem : FileAccess IO := ⟨readText, canRead, writeText⟩

end Overloads.Command

open Overloads.Command in
def main (args : List String) : IO UInt32 := do
  let noColor ← IO.getEnv "NO_COLOR"
  let term ← IO.getEnv "TERM"
  let env (name : String) : Option String :=
    if name = "NO_COLOR" then noColor else if name = "TERM" then term else none
  let (outcome, _) ← run fileSystem args env
  IO.print outcome.stdout
  IO.eprint outcome.stderr
  return outcome.exit
