import Dialogue.Files.Path

/-!
# What can go wrong with files

The causes for which an operation on files fails, each with the wording and the number that the
system gives it. Two of them come from the library rather than the system and carry no number: a
path that holds a NUL character names nothing, and a file that is not UTF-8 holds no text.
-/

namespace Dialogue

/-- Why an operation on files failed. -/
inductive FileError
  | notFound
  | alreadyExists
  | notADirectory
  | isADirectory
  | nameTooLong
  | tooManyLinks
  | nulInPath
  | notText
  deriving DecidableEq

/-- The wording of a file error. -/
def FileError.message : FileError → String
  | notFound => "No such file or directory (os error 2)"
  | alreadyExists => "File exists (os error 17)"
  | notADirectory => "Not a directory (os error 20)"
  | isADirectory => "Is a directory (os error 21)"
  | nameTooLong => "File name too long (os error 36)"
  | tooManyLinks => "Too many levels of symbolic links (os error 40)"
  | nulInPath => "file name contained an unexpected NUL byte"
  | notText => "stream did not contain valid UTF-8"

/-- Why a walk through a directory passed over something in it. -/
inductive WalkError
  /-- What the path names cannot be looked at. -/
  | unreadable (path : Path) (error : FileError)
  /-- The names in a directory cannot be read on. The system does not say which directory it is. -/
  | unlisted (error : FileError)
  /-- The path is a link to a directory that the walk is already in. -/
  | loop (path ancestor : Path)
  deriving DecidableEq

/-- The path that a walk error names, if it names one. -/
def WalkError.path? : WalkError → Option Path
  | unreadable path _ => some path
  | unlisted _ => none
  | loop path _ => some path

/-- The path that a walk through a directory passed over: the directory itself, if the error names
none. -/
def WalkError.path (e : WalkError) (directory : Path := ⟨""⟩) : Path :=
  e.path?.getD directory

/-- The wording of a walk error. -/
def WalkError.message : WalkError → String
  | unreadable path error => "IO error for operation on " ++ path.text ++ ": " ++ error.message
  | unlisted error => error.message
  | loop path ancestor =>
    "File system loop found: " ++ path.text ++ " points to an ancestor " ++ ancestor.text

end Dialogue
