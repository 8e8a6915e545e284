import Overloads.Command.Run

/-! Files held in memory, which serve a run as its file system. Around the working directory lie
the directories that a root usually has, and a few devices. -/

namespace Overloads.Command

/-- What is neither a file nor a directory. Nothing can be read from a device. -/
inductive Device
  | null
  | full
  | output
  | errors
deriving DecidableEq

/-- Files with their contents, each under the names that lead to it from the root, and the texts
that came to the devices of the two outputs. -/
structure FileTree where
  files : List (List String × String)
  output : String := ""
  errors : String := ""

namespace FileTree

def workingDirectory : List String := ["tmp", "work"]

def rootNames : List String :=
  ["bin", "boot", "dev", "etc", "home", "lib", "media", "mnt", "opt", "proc", "root", "run", "sbin",
    "srv", "sys", "tmp", "usr", "var"]

/-- The devices. A run has nothing to read on its standard input. -/
def devices : List (List String × Device) :=
  [(["dev", "null"], .null), (["dev", "full"], .full), (["dev", "stdin"], .null),
    (["dev", "stdout"], .output), (["dev", "stderr"], .errors)]

/-- A working directory with the given files, the files of its subdirectories included. -/
def ofFiles (files : List (String × String)) : FileTree :=
  { files := files.map fun (path, content) =>
      (workingDirectory ++ (namesOf path).filter (!isIdle ·), content) }

def isDirectory (t : FileTree) (place : List String) : Bool :=
  place.isPrefixOf workingDirectory || rootNames.any (place == [·]) ||
    t.files.any fun f => place.isPrefixOf f.1 && place != f.1

def content? (t : FileTree) (place : List String) : Option String :=
  if (devices.lookup place).isSome then some "" else t.files.lookup place

def longestName : Nat := 255

def longestPath : Nat := 4095

/-- Follows names through existing directories. The root is above itself. -/
def enter (t : FileTree) (here : List String) : List String → Except FileFailure (List String)
  | [] => .ok here
  | name :: rest =>
    if isIdle name then enter t here rest
    else if name = ".." then enter t here.dropLast rest
    else if longestName < name.utf8ByteSize then .error .nameTooLong
    else
      let next := here ++ [name]
      if t.isDirectory next then enter t next rest
      else .error (if (t.content? next).isSome then .notDirectory else .notFound)

/-- The place that names lead to. The last name may be free, unless it is one of a directory. -/
def locate (t : FileTree) (here names : List String) : Except FileFailure (List String) :=
  let name := names.getLast?.getD ""
  if isIdle name || name == ".." then t.enter here names
  else do
    let parent ← t.enter here names.dropLast
    if longestName < name.utf8ByteSize then .error .nameTooLong else .ok (parent ++ [name])

def start (path : String) : Except FileFailure (List String) :=
  if path.toList.contains (Char.ofNat 0) then .error .nameWithNull
  else if longestPath < path.utf8ByteSize then .error .nameTooLong
  else if path = "" then .error .notFound
  else .ok (if path.toList.head? = some '/' then [] else workingDirectory)

def read (t : FileTree) (path : String) : Except FileFailure String := do
  let place ← t.locate (← start path) (namesOf path)
  if t.isDirectory place then .error .isDirectory
  else
    match t.content? place with
    | some content => .ok content
    | none => .error .notFound

def isFile (t : FileTree) (path : String) : Bool :=
  match t.read path with
  | .ok _ => true
  | .error _ => false

def put (t : FileTree) (place : List String) (content : String) : Except FileFailure FileTree :=
  match devices.lookup place with
  | some .null => .ok t
  | some .full => if content = "" then .ok t else .error .noSpace
  | some .output => .ok { t with output := t.output ++ content }
  | some .errors => .ok { t with errors := t.errors ++ content }
  | none => .ok { t with files := (place, content) :: t.files.filter (·.1 != place) }

/-- Replaces or creates a file in an existing directory. A slash at the end of the path asks for a
directory. -/
def write (t : FileTree) (path content : String) : Except FileFailure FileTree := do
  let here ← start path
  match (namesOf path).reverse with
  | "" :: names =>
    let _ ← t.enter here ((names.dropWhile (· == "")).drop 1).reverse
    .error .isDirectory
  | names =>
    let place ← t.locate here names.reverse
    if t.isDirectory place then .error .isDirectory else t.put place content

/-- The tree as the file system of a run that may change it. -/
def access : FileAccess (StateM FileTree) where
  read path := do return (← get).read path
  isFile path := do return (← get).isFile path
  write path content := do
    match (← get).write path content with
    | .error e => return .error e
    | .ok t =>
      set t
      return .ok ()

/-- Runs the command on the tree. The texts that came to the devices of the outputs stand there
before the rest, for a run writes its file first. -/
def run (t : FileTree) (args : List String) (env : String → Option String) :
    (Outcome × Option Failure) × FileTree :=
  let ((outcome, failure), after) := (Command.run access args env).run t
  (({ outcome with
      stdout := after.output ++ outcome.stdout
      stderr := after.errors ++ outcome.stderr }, failure), after)

end FileTree
end Overloads.Command
