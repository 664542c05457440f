import Dialogue.Settings.Moment
import Dialogue.Settings.Number
import Dialogue.Settings.Quoted
import Dialogue.Settings.Table
import Dialogue.Text.Lines

/-!
# Reading a settings file

The notation is TOML. A line is empty, or puts a value under a key, or
is a heading `[name]`: the entries after it go into the table of that name. Keys of several names
have dots between them. Lists stand in square brackets and may go over several lines, with a comma
after the last item or not; tables that are written as values stand in braces, on one line and with
no comma after the last entry.
-/

namespace Dialogue.Settings

open Dialogue.Text

/-- How far lists and tables may stand inside one another, and how many names a key may have. -/
def nestingLimit : Nat := 79

/-- A key of at most so many names, with the spaces around it. -/
def readKeyWithin : Nat → Reader (List String)
  | 0, _ => none
  | n + 1, s => do
    let (name, s) ← readName (skipSpaces s)
    match skipSpaces s with
    | '.' :: s => (readKeyWithin n s).map fun (names, s) => (name :: names, s)
    | s => some ([name], s)

/-- A key, with the spaces around it. -/
def readKey : Reader (List String) :=
  readKeyWithin nestingLimit

/-- A key and the value under it. -/
def readPair (value : Reader Value) : Reader (List String × Value) := fun s => do
  let (key, s) ← readKey s
  match s with
  | '=' :: s => (value (skipSpaces s)).map fun (v, s) => ((key, v), s)
  | _ => none

/-- At most so many items of a list, up to its closing bracket and past it. -/
def readItems (value : Reader Value) : Nat → Reader (List Value)
  | 0, _ => none
  | n + 1, s =>
    match skipGap s with
    | ']' :: s => some ([], s)
    | s => do
      let (v, s) ← value s
      match skipGap s with
      | ',' :: s => (readItems value n s).map fun (vs, s) => (v :: vs, s)
      | ']' :: s => some ([v], s)
      | _ => none

/-- At most so many entries of a table in braces, one or more, up to its closing brace and past
it. -/
def readPairs (value : Reader Value) : Nat → Reader (List (List String × Value))
  | 0, _ => none
  | n + 1, s => do
    let (pair, s) ← readPair value s
    match skipSpaces s with
    | ',' :: s => (readPairs value n s).map fun (pairs, s) => (pair :: pairs, s)
    | '}' :: s => some ([pair], s)
    | _ => none

/-- A table in braces, after the opening one. -/
def readBraces (value : Reader Value) : Reader Value := fun s => do
  let (pairs, s) ←
    match skipSpaces s with
    | '}' :: s => some ([], s)
    | s => readPairs value s.length s
  let entries ← Entries.ofPairs? pairs
  some (.table false entries, s)

/-- The text after a truth value. -/
def skipTruth? (s : List Char) : Option (List Char) :=
  dropPiece? "true".toList s <|> dropPiece? "false".toList s

/-- A value that is no list or table. -/
def readLeaf : Reader Value := fun s =>
  match readText s with
  | some (text, s) => some (.text text, s)
  | none => (skipTruth? s <|> skipMoment? s <|> skipNumber? s).map (.other, ·)

/-- A value in which lists and tables stand inside one another so far at most. -/
def readValueWithin : Nat → Reader Value
  | 0 => readLeaf
  | n + 1 => fun s =>
    match s with
    | '[' :: s =>
      (readItems (readValueWithin n) (s.length + 1) s).map fun (vs, s) => (.list vs, s)
    | '{' :: s => readBraces (readValueWithin n) s
    | s => readLeaf s

/-- A line of a settings file. -/
inductive Line
  | blank
  | heading (name : String)
  | entry (key : List String) (value : Value)

/-- A line, with its line end. -/
def readLine : Reader Line := fun s =>
  match endLine? s with
  | some s => some (.blank, s)
  | none =>
    match skipSpaces s with
    | '[' :: s => do
      match ← readKey s with
      | ([name], ']' :: s) => (endLine? s).map (.heading name, ·)
      | _ => none
    | s => do
      let ((key, v), s) ← readPair (readValueWithin nestingLimit) s
      (endLine? s).map (.entry key v, ·)

/-- The lines of a text, which are at most so many. -/
def readLinesWithin : Nat → List Char → Option (List Line)
  | _, [] => some []
  | 0, _ => none
  | n + 1, s => do
    let (line, s) ← readLine s
    let lines ← readLinesWithin n s
    some (line :: lines)

/-- The entries before the first heading, and those under each heading. -/
def sections : List Line →
    List (List String × Value) × List (String × List (List String × Value))
  | [] => ([], [])
  | .blank :: lines => sections lines
  | .entry key v :: lines => ((key, v) :: (sections lines).1, (sections lines).2)
  | .heading name :: lines => ([], (name, (sections lines).1) :: (sections lines).2)

/-- The table that a settings file holds. -/
def readTable? (s : List Char) : Option Entries := do
  let s := dropByteOrderMark s
  let lines ← readLinesWithin s.length s
  let (top, headed) := sections lines
  headed.foldlM (fun es (name, pairs) => do
    Entries.insertAt? [name] (.table false (← Entries.ofPairs? pairs)) es) (← Entries.ofPairs? top)

end Dialogue.Settings
