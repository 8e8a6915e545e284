/-! What the command needs of a file system, and what it does with paths. -/

namespace Overloads.Command

inductive FileFailure
  | notFound
  | notDirectory
  | isDirectory
  | noSpace
  | nameTooLong
  | nameWithNull
  | notText
  | other (text : String)
deriving DecidableEq

def FileFailure.message : FileFailure → String
  | .notFound => "No such file or directory (os error 2)"
  | .notDirectory => "Not a directory (os error 20)"
  | .isDirectory => "Is a directory (os error 21)"
  | .noSpace => "No space left on device (os error 28)"
  | .nameTooLong => "File name too long (os error 36)"
  | .nameWithNull => "file name contained an unexpected NUL byte"
  | .notText => "stream did not contain valid UTF-8"
  | .other text => text

structure FileAccess (m : Type → Type) where
  read : String → m (Except FileFailure String)
  isFile : String → m Bool
  write : String → String → m (Except FileFailure Unit)

def namesOf (path : String) : List String := (path.toList.splitOn '/').map String.ofList

/-- Empty names and single dots lead nowhere. -/
def isIdle (name : String) : Bool := name == "" || name == "."

/-- The path before the last name, without idle names at its end; an idle name in front stays,
for it makes the path absolute or begins it at the working directory. -/
def parentOf (path : String) : String :=
  let before := ((namesOf path).reverse.dropWhile isIdle).drop 1
  match before.dropWhile isIdle, before.getLast? with
  | [], some "" => "/"
  | [], first => first.getD ""
  | names, _ => "/".intercalate names.reverse

def beside (path name : String) : String :=
  match parentOf path with
  | "" => name
  | "/" => "/" ++ name
  | parent => parent ++ "/" ++ name

end Overloads.Command
