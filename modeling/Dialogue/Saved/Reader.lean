import Dialogue.Saved.Contents
import Dialogue.Saved.Rules

/-!
# Reading saved texts

`readDocument?` reads the value that a saved text holds. It takes every way of writing a value that
the notation has, and not only the one that `Value.render` writes: gaps anywhere between words, no
comma after the last item, a name before the brackets of a record, and the other spellings of
numbers and quoted texts. Values that no part of a database is saved as (tuples, maps, fractions and
bare words among them) are read and come out as `Value.other`.

Values stand inside one another up to `nestingLimit`. Brackets count twice, once for themselves and
once for what is in them, except that `()` counts for nothing; an optional value counts once.
-/

namespace Dialogue.Saved

open Dialogue.Text

/-- How far values may stand inside one another. -/
def nestingLimit : Nat := 128

/-- What a saved text holds. -/
structure Document where
  rules : Rules
  value : Value

/-- Items with commas between them, up to the closing bracket and past it. There are at most `n`
items; `more` says whether one more may follow. -/
def readItems {α : Type} (item : Reader α) (close : Char) : Nat → Bool → Reader (List α)
  | n, more, s => do
    let s ← skipGap s
    match s with
    | [] => none
    | c :: rest =>
      if c = close then some ([], rest)
      else
        match n, more with
        | n + 1, true => do
          let (a, s) ← item s
          let (more, s) ← skipComma s
          let (as, s) ← readItems item close n more s
          some (a :: as, s)
        | _, _ => none

/-- A field of a record. -/
def readField (value : Reader Value) : Reader (String × Value) := fun s => do
  let (name, s) ← readWord s
  let s ← skipGap s
  let s ← skipSign ':' s
  let (v, s) ← value s
  some ((name, v), s)

/-- An entry of a map. -/
def readMapEntry (value : Reader Value) : Reader Unit := fun s => do
  let (_, s) ← value s
  let s ← skipGap s
  let s ← skipSign ':' s
  let (_, s) ← value s
  some ((), s)

/-- Whether the text inside round brackets starts with a field. -/
def startsField (s : List Char) : Bool :=
  match readWord s with
  | none => false
  | some (_, s) =>
    match skipGap s with
    | some (':' :: _) => true
    | _ => false

/-- What stands in round brackets, after the opening one: a record, or a tuple. -/
def readRound (limit : Nat) (name : Option String) (value : Reader Value) : Reader Value :=
    fun s => do
  let inside ← skipGap s
  if inside.head? = some ')' then some (.record name [], inside.drop 1)
  else if startsField inside then
    (readItems (readField value) ')' limit true inside).map fun (fields, s) =>
      (.record name fields, s)
  else (readItems value ')' limit true inside).map fun (_, s) => (.other, s)

/-- The readers of what stands further inside a value, as far as the levels go. -/
structure Inner where
  /-- What stands in brackets, if there may be brackets at all. -/
  inBrackets : Option (Reader Value)
  /-- What an optional value holds. -/
  inOptional : Option (Reader Value)
  /-- What stands in a record or a tuple that an optional value holds. -/
  inUnwrapped : Option (Reader Value)

/-- One value in the brackets of an optional one, after the opening one. -/
def readSingle (inner : Inner) : Reader Value := fun s => do
  let (v, s) ← (← inner.inOptional) s
  let (_, s) ← skipComma s
  match s with
  | ')' :: s => some (.present v, s)
  | _ => none

/-- An optional value, after its word `Some`. -/
def readPresent (rules : Rules) (limit : Nat) (inner : Inner) : Reader Value := fun s => do
  match ← skipGap s with
  | '(' :: s => do
    let s ← skipGap s
    if rules.unwrapVariants then
      match ← contents? limit s with
      | .nothing => inner.inOptional.map fun _ => (.present .other, s.drop 1)
      | .fields | .items =>
        (readRound limit none (← inner.inUnwrapped) s).map fun (v, s) => (.present v, s)
      | .single => readSingle inner s
    else readSingle inner s
  | s =>
    if rules.implicitSome then ((← inner.inOptional) s).map fun (v, s) => (.present v, s)
    else none

/-- A value that starts with no word. -/
def readUnnamed (limit : Nat) (inner : Inner) : Reader Value := fun s =>
  match s with
  | [] => none
  | '(' :: ')' :: r => some (.record none [], r)
  | '(' :: r => do readRound limit none (← inner.inBrackets) r
  | '[' :: r => do
    (readItems (← inner.inBrackets) ']' limit true r).map fun (items, s) => (.list items, s)
  | '{' :: r => do
    (readItems (readMapEntry (← inner.inBrackets)) '}' limit true r).map fun (_, s) => (.other, s)
  | '\'' :: _ => (readCharacter s).map fun (_, s) => (.other, s)
  | 'b' :: '\'' :: _ => readNumber s
  | 'b' :: _ => (readBytes limit s).map fun (_, s) => (.other, s)
  | c :: _ =>
    if c = '"' ∨ c = 'r' then
      (readText limit s).map fun (text, s) => (.text (String.ofList text), s)
    else if c.isDigit ∨ c = '+' ∨ c = '-' ∨ c = '.' then readNumber s
    else none

/-- A value, given the readers for what stands inside it. No list and no text in it is as long as
the limit. -/
def readValueWith (rules : Rules) (limit : Nat) (inner : Inner) : Reader Value := fun s =>
  let word := leadingWord s
  let rest := s.drop word.length
  if word = "true".toList then some (.flag true, rest)
  else if word = "false".toList then some (.flag false, rest)
  else if word = "Some".toList then readPresent rules limit inner rest
  else if word = "None".toList then some (.absent, rest)
  else if numberWords.contains word then some (.other, rest)
  else
    match readWord s with
    | none => readUnnamed limit inner s
    | some (name, s) => do
      match ← skipGap s with
      | '(' :: s => readRound limit (some name) (← inner.inBrackets) s
      | s => some (.other, s)

/-- A value inside so few others that this many levels are left. -/
def readValueWithin (rules : Rules) (limit : Nat) : Nat → Reader Value
  | 0, s => readValueWith rules limit ⟨none, none, none⟩ s
  | 1, s =>
    let inner : Inner := ⟨some fun _ => none, some (readValueWithin rules limit 0), none⟩
    readValueWith rules limit inner s
  | 2, s =>
    let inner : Inner :=
      ⟨some (readValueWithin rules limit 0), some (readValueWithin rules limit 1),
        some fun _ => none⟩
    readValueWith rules limit inner s
  | n + 3, s =>
    let inner : Inner :=
      ⟨some (readValueWithin rules limit (n + 1)), some (readValueWithin rules limit (n + 2)),
        some (readValueWithin rules limit n)⟩
    readValueWith rules limit inner s

/-- What a saved text holds. -/
def readDocument? (s : List Char) : Option Document := do
  let limit := s.length + 1
  let s ← skipGap s
  let (rules, s) ← readAttributes limit .standard s
  let (value, s) ← readValueWithin rules limit nestingLimit s
  match ← skipGap s with
  | [] => some ⟨rules, value⟩
  | _ => none

end Dialogue.Saved
