import Dialogue.Text.Reader

/-!
# Lines and gaps of a settings file

A settings file is read line by line. Spaces and tabs count for nothing around the pieces of a line,
and a comment runs from `#` to the end of its line. A line ends with a line feed, which may have a
carriage return before it, or with the text.

Control characters other than the tab stand nowhere, not even in a comment.
-/

namespace Dialogue.Settings

open Dialogue.Text

/-- What may stand between the pieces of a line. -/
def isSpace (c : Char) : Bool :=
  c = ' ' || c = '\t'

/-- What may stand in a comment or between quotes as itself. -/
def isPlain (c : Char) : Bool :=
  c = '\t' || (' ' ≤ c && c ≠ '\x7f')

/-- The text without the spaces at its start. -/
def skipSpaces (s : List Char) : List Char :=
  s.dropWhile isSpace

/-- The text after a line end. -/
def skipLineEnd? : List Char → Option (List Char)
  | '\n' :: s => some s
  | '\r' :: '\n' :: s => some s
  | _ => none

/-- The text after what may follow the last piece of a line: spaces, a comment, and the line end. -/
def endLine? (s : List Char) : Option (List Char) :=
  let s := skipSpaces s
  let s := if s.head? = some '#' then s.dropWhile isPlain else s
  if s.isEmpty then some [] else skipLineEnd? s

/-- The text without the spaces and line ends at its start. -/
def skipBreaks : List Char → List Char
  | [] => []
  | '\r' :: '\n' :: s => skipBreaks s
  | c :: s => if c = '\n' || isSpace c then skipBreaks s else c :: s

/-- The text after a gap that may go over several lines, from inside a comment or from outside. -/
def skipGapFrom (comment : Bool) : List Char → List Char
  | [] => []
  | '\r' :: '\n' :: s => skipGapFrom false s
  | c :: s =>
    if c = '\n' then skipGapFrom false s
    else if comment then if isPlain c then skipGapFrom true s else c :: s
    else if isSpace c then skipGapFrom false s
    else if c = '#' then skipGapFrom true s
    else c :: s

/-- The text after a gap that may go over several lines. -/
def skipGap (s : List Char) : List Char :=
  skipGapFrom false s

end Dialogue.Settings
