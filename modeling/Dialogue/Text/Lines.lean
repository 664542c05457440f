/-!
# Lines

A line feed ends a line, and one carriage return just before it belongs to the line end. What
follows the last line feed is a line of its own unless it is empty; a carriage return there has no
line feed after it and stays.
-/

namespace Dialogue.Text

/-- The text without one carriage return at its end. -/
def dropReturn (s : List Char) : List Char :=
  if s.getLast? = some '\r' then s.dropLast else s

/-- The lines of a text, without their line ends. -/
def lines (s : List Char) : List (List Char) :=
  let rows := s.splitOn '\n'
  rows.dropLast.map dropReturn ++ (rows.getLast?.toList.filter (· ≠ []))

/-- A text without the byte order mark that may stand at its start. -/
def dropByteOrderMark : List Char → List Char
  | [] => []
  | c :: s => if c = '\ufeff' then s else c :: s

end Dialogue.Text
