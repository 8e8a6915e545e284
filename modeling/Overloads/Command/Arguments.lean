/-! The command line: options that may stand before or after the subcommand, and the options of
each subcommand. -/

namespace Overloads.Command

inductive OptionKey
  | verbose
  | color
  | config
  | source
  | format
  | out
  | help
  | version
deriving DecidableEq

structure OptionSpec where
  key : OptionKey
  long : String
  short : Option Char
  takesValue : Bool

/-- Why arguments do not lead to a run: a request for the version or for help, or misuse. -/
inductive Stop
  | version
  | help
  | misuse
deriving DecidableEq

inductive Format
  | text
  | json
  | pretty
deriving DecidableEq

inductive Subcommand
  | lower
  | check
deriving DecidableEq

structure Invocation where
  subcommand : Subcommand
  model : String
  config : Option String
  source : Option String
  format : Format
  out : Option String
  color : Option String
deriving DecidableEq

def globalOptions : List OptionSpec :=
  [⟨.verbose, "verbose", some 'v', false⟩, ⟨.color, "color", none, true⟩,
    ⟨.help, "help", some 'h', false⟩]

def inputOptions : List OptionSpec :=
  [⟨.config, "config", some 'c', true⟩, ⟨.source, "source", some 's', true⟩,
    ⟨.format, "format", some 'f', true⟩]

def outerOptions : List OptionSpec := ⟨.version, "version", some 'V', false⟩ :: globalOptions

namespace Subcommand

def ofName? (name : String) : Option Subcommand :=
  if name = "lower" then some .lower
  else if name = "check" then some .check
  else none

def options : Subcommand → List OptionSpec
  | .lower => ⟨.out, "out", some 'o', true⟩ :: inputOptions ++ globalOptions
  | .check => inputOptions ++ globalOptions

/-- The formats of a subcommand, its default first. -/
def formats : Subcommand → List (String × Format)
  | .lower => [("text", .text), ("json", .json)]
  | .check => [("pretty", .pretty), ("json", .json)]

end Subcommand

structure Collected where
  settings : List (OptionKey × String) := []
  operands : List String := []

namespace Collected

def get? (c : Collected) (key : OptionKey) : Option String := c.settings.lookup key

/-- Whether a value is acceptable at all; paths are not empty. -/
def accepts (formats : List (String × Format)) (key : OptionKey) (value : String) : Bool :=
  match key with
  | .config | .source | .out => value != ""
  | .format => (formats.lookup value).isSome
  | _ => true

/-- An option may be given once. Help and version end the reading at once. -/
def set (formats : List (String × Format)) (c : Collected) (key : OptionKey) (value : String) :
    Except Stop Collected :=
  match key with
  | .help => .error .help
  | .version => .error .version
  | key =>
    if (c.get? key).isNone && accepts formats key value then
      .ok { c with settings := c.settings ++ [(key, value)] }
    else .error .misuse

end Collected

/-- Whether an argument can be the value of an option that stands before it. -/
def isValue (arg : String) : Bool := arg == "-" || arg.toList.head? != some '-'

/-- The characters behind an equals sign, if there is one in front. -/
def dropEquals : List Char → List Char
  | '=' :: rest => rest
  | rest => rest

/-- Short options behind one dash. The last may need the next argument as its value. -/
def cluster (specs : List OptionSpec) (formats : List (String × Format)) (c : Collected) :
    List Char → Except Stop (Collected × Option OptionKey)
  | [] => .ok (c, none)
  | letter :: rest =>
    match specs.find? (·.short == some letter) with
    | none => .error .misuse
    | some spec =>
      if spec.takesValue then
        if rest = [] then .ok (c, some spec.key)
        else (c.set formats spec.key (.ofList (dropEquals rest))).map (·, none)
      else
        match c.set formats spec.key "" with
        | .error stop => .error stop
        | .ok c => cluster specs formats c rest

/-- A long option, its value perhaps behind an equals sign, or the next argument. -/
def long (specs : List OptionSpec) (formats : List (String × Format)) (c : Collected)
    (text : List Char) : Except Stop (Collected × Option OptionKey) :=
  let name := text.takeWhile (· != '=')
  match specs.find? (·.long == String.ofList name), text.drop name.length with
  | none, _ => .error .misuse
  | some spec, [] =>
    if spec.takesValue then .ok (c, some spec.key) else (c.set formats spec.key "").map (·, none)
  | some spec, _ :: value =>
    if spec.takesValue then (c.set formats spec.key (.ofList value)).map (·, none)
    else .error .misuse

/-- One argument: the options it sets, and the option that waits for a value. Operands are
none. -/
def option? (specs : List OptionSpec) (formats : List (String × Format)) (c : Collected)
    (arg : String) : Option (Except Stop (Collected × Option OptionKey)) :=
  match arg.toList with
  | '-' :: '-' :: name => some (long specs formats c name)
  | '-' :: letter :: rest => some (cluster specs formats c (letter :: rest))
  | _ => none

/-- The arguments behind a subcommand: options and one operand, in any order. -/
def inner (specs : List OptionSpec) (formats : List (String × Format)) (c : Collected) :
    List String → Except Stop Collected
  | [] => .ok c
  | "--" :: operands =>
    if c.operands.length + operands.length ≤ 1 && !operands.contains "" then
      .ok { c with operands := c.operands ++ operands }
    else .error .misuse
  | arg :: rest =>
    match option? specs formats c arg with
    | none =>
      if c.operands = [] ∧ arg ≠ "" then inner specs formats { c with operands := [arg] } rest
      else .error .misuse
    | some (.error stop) => .error stop
    | some (.ok (c, none)) => inner specs formats c rest
    | some (.ok (c, some key)) =>
      match rest with
      | [] => .error .misuse
      | value :: rest =>
        if isValue value then
          match c.set formats key value with
          | .error stop => .error stop
          | .ok c => inner specs formats c rest
        else .error .misuse

def invocation (subcommand : Subcommand) (outerColor : Option String) (c : Collected) :
    Except Stop Invocation :=
  match c.operands with
  | [model] =>
    let default := subcommand.formats.head?.map Prod.snd
    let format := match c.get? .format with
      | some name => subcommand.formats.lookup name
      | none => default
    match format with
    | some format =>
      .ok { subcommand, model, config := c.get? .config, source := c.get? .source, format,
            out := c.get? .out, color := (c.get? .color).or outerColor }
    | none => .error .misuse
  | _ => .error .misuse

/-- What may follow the word that asks for help: nothing, or one word that can stand in its
place. -/
def isHelpTopic : List String → Bool
  | [] => true
  | [topic] => topic == "help" || (Subcommand.ofName? topic).isSome
  | _ => false

/-- The arguments up to the subcommand, which is the first operand. A colour option behind the
subcommand counts more than one before it. -/
def outer (c : Collected) : List String → Except Stop Invocation
  | [] => .error .misuse
  | "--" :: _ => .error .misuse
  | arg :: rest =>
    match option? outerOptions [] c arg with
    | none =>
      match Subcommand.ofName? arg with
      | some sub =>
        (inner sub.options sub.formats {} rest).bind (invocation sub (c.get? .color))
      | none => .error (if arg = "help" && isHelpTopic rest then .help else .misuse)
    | some (.error stop) => .error stop
    | some (.ok (c, none)) => outer c rest
    | some (.ok (c, some key)) =>
      match rest with
      | [] => .error .misuse
      | value :: rest =>
        if isValue value then
          match c.set [] key value with
          | .error stop => .error stop
          | .ok c => outer c rest
        else .error .misuse

def parse (args : List String) : Except Stop Invocation := outer {} args

end Overloads.Command
