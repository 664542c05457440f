import Dialogue.Settings.Layout
import Dialogue.Text.Numeral

/-!
# Quoted text in a settings file

A text stands between double quotes, where a backslash starts an escape, or between single quotes,
where every character stands for itself. One quote on either side keeps the text on its line. With
three quotes on either side the text goes over several lines:

* a line end right after the opening quotes does not belong to it, and every other one is a line
  feed in it;
* one or two quotes of the same kind belong to it, also right before the closing ones;
* between double quotes, a backslash at the end of a line takes away the line end with all spaces
  and line ends after it.
-/

namespace Dialogue.Settings

open Dialogue.Text

/-- A character by its number in so many hexadecimal digits. -/
def unescapeNumber? (size : Nat) : Reader Char := fun s =>
  if s.length < size then none
  else do
    let c ← charOfNumber? (← hexNumber? (s.take size))
    some (c, s.drop size)

/-- The character that an escape stands for, after its backslash. -/
def unescape? : Reader Char
  | 'b' :: s => some ('\x08', s)
  | 't' :: s => some ('\t', s)
  | 'n' :: s => some ('\n', s)
  | 'f' :: s => some ('\x0c', s)
  | 'r' :: s => some ('\r', s)
  | '"' :: s => some ('"', s)
  | '\\' :: s => some ('\\', s)
  | 'u' :: s => unescapeNumber? 4 s
  | 'U' :: s => unescapeNumber? 8 s
  | _ => none

/-- The text after a line end that a backslash takes away, with all that goes with it. -/
def skipJoint? (s : List Char) : Option (List Char) :=
  (skipLineEnd? (skipSpaces s)).map skipBreaks

/-- One character of a text between such quotes. -/
def readQuotedChar (quote : Char) : Reader Char
  | [] => none
  | c :: s =>
    if c = '\\' && quote = '"' then unescape? s
    else if isPlain c then some (c, s)
    else none

/-- A text on one line, after its opening quote, of at most so many characters. -/
def readOnLine (quote : Char) : Nat → Reader (List Char)
  | 0, _ => none
  | n + 1, s =>
    if s.head? = some quote then some ([], s.drop 1)
    else do
      let (c, s) ← readQuotedChar quote s
      let (text, s) ← readOnLine quote n s
      some (c :: text, s)

/-- A text over several lines, after its opening quotes, of at most so many pieces. -/
def readOverLines (quote : Char) : Nat → Reader (List Char)
  | 0, _ => none
  | n + 1, s =>
    let quotes := s.takeWhile (· = quote)
    if 3 ≤ quotes.length then some ((quotes.take 5).drop 3, s.drop (quotes.take 5).length)
    else if !quotes.isEmpty then
      (readOverLines quote n (s.drop quotes.length)).map fun (text, s) => (quotes ++ text, s)
    else
      match skipLineEnd? s with
      | some s => (readOverLines quote n s).map fun (text, s) => ('\n' :: text, s)
      | none =>
        match if s.head? = some '\\' && quote = '"' then skipJoint? (s.drop 1) else none with
        | some s => readOverLines quote n s
        | none => do
          let (c, s) ← readQuotedChar quote s
          let (text, s) ← readOverLines quote n s
          some (c :: text, s)

/-- A quoted text. -/
def readText : Reader String := fun s => do
  let quote ← s.head?
  let (text, s) ←
    if quote ≠ '"' && quote ≠ '\'' then none
    else if (s.take 3).all (· = quote) && 3 ≤ s.length then
      readOverLines quote s.length ((skipLineEnd? (s.drop 3)).getD (s.drop 3))
    else readOnLine quote s.length (s.drop 1)
  some (String.ofList text, s)

/-- A name: letters, digits, `_` and `-`, or a quoted text on one line. -/
def readName : Reader String := fun s => do
  let (name, s) ←
    match s with
    | '"' :: s => readOnLine '"' (s.length + 1) s
    | '\'' :: s => readOnLine '\'' (s.length + 1) s
    | s => readRun (fun c => c.isAlphanum || c = '_' || c = '-') s
  some (String.ofList name, s)

end Dialogue.Settings
