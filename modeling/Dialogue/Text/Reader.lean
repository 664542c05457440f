/-!
# Readers

A reader takes something from the start of a text and leaves the rest. The readers of this library
are built from one another: each gives what it read together with what follows it, so that the next
one can go on from there.
-/

namespace Dialogue.Text

/-- Takes something from the start of a text, or nothing if the text does not start with it. -/
abbrev Reader (α : Type) := List Char → Option (α × List Char)

/-- The longest run of such characters at the start of a text, if there are any. -/
def readRun (p : Char → Bool) : Reader (List Char) := fun s =>
  if (s.takeWhile p).isEmpty then none else some (s.takeWhile p, s.dropWhile p)

end Dialogue.Text
