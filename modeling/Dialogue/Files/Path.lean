import Dialogue.Text.Pattern

/-!
# Paths

A path is kept as it was written and is shown that way. Operations on it work on its **parts**,
the pieces between slashes: empty parts count for nothing, and neither does a part `.` unless the
path starts with it.

* `join` puts one path under another, adding a slash only where there is none; an absolute path
  stands for itself wherever it is put.
* `parent?` is the text before the last part, without the slashes and dots at its end. A path of
  one part has the empty path as its parent, and the empty path and the root have none.
* `extension?` is what follows the last dot of the last part, unless that dot is its first
  character.
-/

namespace Dialogue

/-- A path, as it was written. -/
structure Path where
  text : String
  deriving DecidableEq

namespace Path

/-- Whether the path starts at the root. -/
def isAbsolute (p : Path) : Bool :=
  p.text.toList.head? = some '/'

/-- The path under which nothing stands. -/
def isEmpty (p : Path) : Bool :=
  p.text.toList.isEmpty

/-- The second path, read from the first. -/
def join (base p : Path) : Path :=
  if p.isAbsolute then p
  else if base.isEmpty || base.text.toList.getLast? = some '/' then ⟨base.text ++ p.text⟩
  else ⟨base.text ++ "/" ++ p.text⟩

/-- The pieces between the slashes of a path. -/
def pieces (p : Path) : List String :=
  (p.text.toList.splitOn '/').map String.ofList

/-- How much of a reversed path is no part of it: slashes, and dots that stand between a slash and
the end. A dot that starts the path is kept. -/
def dropSlack : List Char → List Char
  | '/' :: s => if s.isEmpty then ['/'] else dropSlack s
  | '.' :: '/' :: s => if s.isEmpty then ['/'] else dropSlack s
  | s => s

/-- The reversed text of a path, without what stands after its last part. -/
def reversedBody (p : Path) : List Char :=
  dropSlack p.text.toList.reverse

/-- The last part of a path, unless the path is empty or the root. -/
def lastPart? (p : Path) : Option (List Char) :=
  match (p.reversedBody).takeWhile (· ≠ '/') with
  | [] => none
  | part => some part.reverse

/-- The path without its last part. -/
def parent? (p : Path) : Option Path :=
  if p.lastPart?.isNone then none
  else some ⟨String.ofList (dropSlack (p.reversedBody.dropWhile (· ≠ '/'))).reverse⟩

/-- The directory that the last part of a path is in: the empty path if the path names none. -/
def directory (p : Path) : Path :=
  p.parent?.getD ⟨""⟩

/-- The path and at most so many of the paths above it, from the longest to the shortest. -/
def ancestorsWithin : Nat → Path → List Path
  | 0, p => [p]
  | n + 1, p =>
    match p.parent? with
    | none => [p]
    | some q => p :: ancestorsWithin n q

/-- The path and the paths above it, from the longest to the shortest. There are no more of these
than the path has characters. -/
def ancestors (p : Path) : List Path :=
  ancestorsWithin p.text.length p

/-- What follows the last dot in the name of the last part. -/
def extension? (p : Path) : Option String :=
  match p.lastPart? with
  | none => none
  | some part =>
    if part = ['.', '.'] then none
    else
      match part.reverse.dropWhile (· ≠ '.') with
      | [] | [_] => none
      | _ => some (String.ofList (part.reverse.takeWhile (· ≠ '.')).reverse)

end Path

end Dialogue
