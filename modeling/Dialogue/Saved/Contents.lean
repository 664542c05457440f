import Dialogue.Saved.Token

/-!
# What the brackets of an optional value hold

Where the rule `unwrap_variant_newtypes` is on, `Some(a: 1)` holds a record and `Some(1, 2)` a
tuple, neither with brackets of its own. `contents?` says which of the two it is, or whether a value
of the usual kind stands in the brackets, from the text after the opening one.

Fields are known by the colon after the first word. Otherwise the text is searched for a comma
between two values, past quoted texts, gaps and whatever stands in further brackets. The search does
not ask whether the values are well formed, and takes any closing bracket for any other. It takes
the character after a quoted text as it stands, even where a gap starts with it, so it can come upon
the quotes in a comment; a quoted text that is never closed makes the whole text invalid.
-/

namespace Dialogue.Saved

open Dialogue.Text

/-- What the brackets of an optional value hold. -/
inductive Contents
  | nothing
  | fields
  | items
  /-- One value, written as everywhere else. -/
  | single

/-- What follows a piece, or the whole text if it does not start with one. -/
def skipIf {α : Type} (piece : Reader α) (s : List Char) : List Char :=
  match piece s with
  | some (_, rest) => rest
  | none => s

/-- Whether the comma before this text stands between two values. -/
def startsAnother (s : List Char) : Option Bool :=
  (skipGap s).map fun s => s.head? ≠ some ')'

/-- The text after the quoted texts that it starts with, at most one of each kind. -/
def skipQuoted? (limit : Nat) (s : List Char) : Option (List Char) :=
  let s := skipIf readCharacter s
  if startsUnclosedText limit s then none
  else
    let s := skipIf (readText limit) s
    if startsUnclosedBytes limit s then none else some (skipIf (readBytes limit) s)

/-- Whether a comma stands between two values in brackets, from inside so many further ones. It is
found within so many steps, or not at all. -/
def commaAhead? (limit : Nat) : Nat → Nat → List Char → Option Bool
  | 0, _, _ => none
  | n + 1, depth, s => do
    let s ← skipGap s
    match ← skipQuoted? limit s with
    | [] => none
    | c :: s =>
      if c = '(' ∨ c = '[' ∨ c = '{' then commaAhead? limit n (depth + 1) s
      else if c = ')' ∨ c = ']' ∨ c = '}' then
        if depth = 0 then some false else commaAhead? limit n (depth - 1) s
      else if c = ',' ∧ depth = 0 then startsAnother s
      else commaAhead? limit n depth s

/-- What the brackets of an optional value hold, after the opening one and the gap after it. -/
def contents? (limit : Nat) (s : List Char) : Option Contents := do
  let ofComma (several : Bool) : Contents := if several then .items else .single
  if s.head? = some ')' then some .nothing
  else
    match readWord s with
    | none => (commaAhead? limit limit 0 s).map ofComma
    | some (_, s) =>
      match ← skipGap s with
      | ':' :: _ => some .fields
      | ')' :: _ => some .single
      | ',' :: s => (startsAnother s).map ofComma
      | s => (commaAhead? limit limit 0 s).map ofComma

end Dialogue.Saved
