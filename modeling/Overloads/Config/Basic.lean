import Overloads.Lowering.Method
import Overloads.Printing.Source
import Overloads.Text.Category

/-! Configuration of a run, and the conditions that a usable one meets. -/

namespace Overloads

/-- Options of lowering and printing; zero threads stands for one to each processor. -/
structure LoweringOptions where
  style : NullableStyle := .suffix
  nativeDefaults : Bool := true
  placeholder : String := "__Unresolved"
  threads : UInt64 := 0
deriving DecidableEq

structure Config where
  lowering : LoweringOptions := {}
  valueTypes : List String := []
deriving DecidableEq

inductive ConfigError
  | malformed
  | emptyPlaceholder
  | brokenPlaceholder (placeholder : String)
  | blankValueType (name : String)
deriving DecidableEq

namespace ConfigError

def showSpace (c : Char) : String :=
  if c = '\t' then "\\t"
  else if c = '\n' then "\\n"
  else if c = '\r' then "\\r"
  else if c = ' ' then " "
  else "\\u\x7b" ++ String.ofList (Text.hex c.toNat) ++ "\x7d"

def showBlank (s : String) : String := "\"" ++ String.join (s.toList.map showSpace) ++ "\""

def message : ConfigError → String
  | .malformed => "Failed to parse config"
  | .emptyPlaceholder => "Invalid config: lowering.placeholder must not be empty"
  | .brokenPlaceholder placeholder =>
    "Invalid config: lowering.placeholder '" ++ placeholder ++ "' must be a single identifier"
  | .blankValueType name =>
    "Invalid config: types.value-types contains an empty name (" ++ showBlank name ++ ")"

end ConfigError

namespace Config

/-- White space may surround the placeholder but not split it, and no value type is blank. -/
def validate (c : Config) : Except ConfigError Config :=
  let placeholder := Text.trim c.lowering.placeholder.toList
  if placeholder = [] then .error .emptyPlaceholder
  else if placeholder.any Text.isSpace then .error (.brokenPlaceholder c.lowering.placeholder)
  else
    match c.valueTypes.find? Text.isBlank with
    | some name => .error (.blankValueType name)
    | none => .ok c

def registry (c : Config) : Registry := .ofNames c.valueTypes

def setting (c : Config) : Setting := ⟨c.registry, c.lowering.nativeDefaults⟩

def workers? (c : Config) : Option UInt64 :=
  if c.lowering.threads = 0 then none else some c.lowering.threads

/-- Printing indents by tabs. -/
def renderOptions (c : Config) : RenderOptions := ⟨c.lowering.style, c.lowering.placeholder, "\t"⟩

end Config

def RenderOptions.standard : RenderOptions := ({} : Config).renderOptions

def Program.run (c : Config) (p : Program) : TargetProgram := p.lower c.setting

end Overloads
