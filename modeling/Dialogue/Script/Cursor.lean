import Dialogue.Script.Lexer

/-!
# Reading a script item by item

`lex` gives the items of a script all at once. A `Lexer` gives them one at a time, each when the
next one is asked for. In between it keeps the lines of the script and a cursor.

The cursor is shared with the block reader. A block that is closed leaves it on the line that closes
it, a block that is not leaves it past the last line, and either way `next` goes on by one line. A
lexer that has nothing left gives nothing and stays where it is.
-/

namespace Dialogue.Script

open Dialogue.Text

/-- A script that is being read. -/
structure Lexer where
  lines : List Line
  /-- The place of the line to look at next. -/
  cursor : Nat

namespace Lexer

/-- The lexer at the start of a script. -/
def start (source : String) : Lexer := ⟨sourceLines source.toList, 0⟩

/-- The lexer one line further. -/
def advance (x : Lexer) : Lexer := { x with cursor := x.cursor + 1 }

theorem cursor_lt_of_getElem? {x : Lexer} {l : Line} (h : x.lines[x.cursor]? = some l) :
    x.lines.length - x.advance.cursor < x.lines.length - x.cursor := by
  have hlt := (List.getElem?_eq_some_iff.1 h).1
  simp only [advance]
  omega

/-- The lines from the cursor through the first one that closes a block, behind those already read,
and the lexer on that line. If no line closes the block there are none. -/
def readBlock (x : Lexer) (read : List Line) : Option (List Line) × Lexer :=
  match _h : x.lines[x.cursor]? with
  | none => (none, x)
  | some l =>
    if occursIn closeMarker.toList l.text then (some (read ++ [l]), x)
    else x.advance.readBlock (read ++ [l])
termination_by x.lines.length - x.cursor
decreasing_by exact cursor_lt_of_getElem? ‹_›

/-- The next item, if there is one, and the lexer behind it. -/
def next (x : Lexer) : Option (Except LexError Element) × Lexer :=
  match _h : x.lines[x.cursor]? with
  | none => (none, x)
  | some l =>
    if isSeparator l.text then x.advance.next
    else
      match classify l.text with
      | .whole kind => (some (.ok ⟨l.number, depthOf l.text, kind⟩), x.advance)
      | .malformed error => (some (.error (.directive l.number error)), x.advance)
      | .unrecognized =>
        (some (.error (.unrecognized l.number (String.ofList (trim l.text)))), x.advance)
      | .opens block =>
        match x.readBlock [] with
        | (none, x) => (some (.error (.directive l.number (.unterminated block.marker))), x.advance)
        | (some body, x) =>
          (some (.ok ⟨l.number, depthOf l.text, block.kind (blockBody block.marker body)⟩),
            x.advance)
termination_by x.lines.length - x.cursor
decreasing_by exact cursor_lt_of_getElem? ‹_›

/-- The lexer after so many items were asked for. -/
def skip (x : Lexer) : Nat → Lexer
  | 0 => x
  | n + 1 => x.next.2.skip n

end Lexer

end Dialogue.Script
