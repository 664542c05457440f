/-!
# Blank characters and trimming

A character is blank when it has the Unicode property `White_Space`: the five ASCII controls from
tab to carriage return, the space, and the wider spaces and separators of other scripts. Everything
that trims or skips in this library means this set and no other, so a line that holds only an
ideographic space is as empty as one that holds nothing.

Texts are read as lists of characters; `String` is kept for the values that leave the readers.
-/

namespace Dialogue.Text

/-- The characters with the Unicode property `White_Space`. -/
def isBlank (c : Char) : Bool :=
  let n := c.toNat
  (0x09 ≤ n && n ≤ 0x0D) || n == 0x20 || n == 0x85 || n == 0xA0 || n == 0x1680 ||
    (0x2000 ≤ n && n ≤ 0x200A) || n == 0x2028 || n == 0x2029 || n == 0x202F || n == 0x205F ||
    n == 0x3000

/-- The text without the blanks at its start. -/
def trimStart (s : List Char) : List Char :=
  s.dropWhile isBlank

/-- The text without the blanks at its end. -/
def trimEnd (s : List Char) : List Char :=
  (s.reverse.dropWhile isBlank).reverse

/-- The text without the blanks at either end. -/
def trim (s : List Char) : List Char :=
  trimEnd (trimStart s)

/-- A string without the blanks at either end. -/
def trimmed (s : String) : String :=
  String.ofList (trim s.toList)

/-- Nothing but blanks, if anything at all. -/
def isAllBlank (s : List Char) : Bool :=
  s.all isBlank

/-- The maximal runs of characters that are not blank, in order. -/
def words (s : List Char) : List (List Char) :=
  (s.splitOnP isBlank).filter (· ≠ [])

end Dialogue.Text
