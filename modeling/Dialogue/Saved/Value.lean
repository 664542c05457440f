import Dialogue.Saved.Quoted

/-!
# Values of a saved text

A database is saved as a value of a small notation: records with named fields in round brackets,
lists in square ones, optional values as `Some(…)` or `None`, numbers, flags and quoted texts. A
number may name the machine type that it is of.

`Value.render` writes a value over several lines, one field or item a line, each four spaces deeper
than the brackets around it and followed by a comma.
-/

namespace Dialogue.Saved

/-- A machine type of integers. -/
structure IntegerType where
  signed : Bool
  bits : Nat
  deriving DecidableEq

namespace IntegerType

/-- The machine types that a number can name. -/
def all : List IntegerType :=
  [8, 16, 32, 64].flatMap fun bits => [⟨false, bits⟩, ⟨true, bits⟩]

/-- The name of a type, such as `u32`. -/
def name (t : IntegerType) : List Char :=
  (if t.signed then 'i' else 'u') :: Text.numeral t.bits

/-- How many numbers of one sign a type has. -/
def size (t : IntegerType) : Nat :=
  Nat.pow 2 (if t.signed then t.bits - 1 else t.bits)

/-- Whether a number is one of a type. -/
def holds (t : IntegerType) (n : Int) : Bool :=
  (if t.signed then -(t.size : Int) else 0) ≤ n && n < t.size

end IntegerType

/-- A value. -/
inductive Value
  | flag (value : Bool)
  /-- A number, with the type that it names. -/
  | number (value : Int) (type : Option IntegerType)
  | text (value : String)
  | absent
  | present (value : Value)
  | list (items : List Value)
  /-- A record, with the name that may stand before its brackets. -/
  | record (name : Option String) (fields : List (String × Value))
  /-- Anything that no part of a database is saved as. -/
  | other

/-- The start of a line at this depth. -/
def indent (depth : Nat) : List Char :=
  List.replicate (4 * depth) ' '

/-- A number with its sign. -/
def renderNumber : Int → List Char
  | .ofNat n => Text.numeral n
  | .negSucc n => '-' :: Text.numeral (n + 1)

mutual

/-- The text of a value whose first line stands at this depth. -/
def Value.render (depth : Nat) : Value → List Char
  | .flag true => "true".toList
  | .flag false => "false".toList
  | .number n type => renderNumber n ++ (type.map IntegerType.name).getD []
  | .text s => quote s.toList
  | .absent => "None".toList
  | .present v => "Some(".toList ++ v.render depth ++ [')']
  | .list [] => ['[', ']']
  | .list (v :: vs) => ['[', '\n'] ++ renderItems depth (v :: vs) ++ indent depth ++ [']']
  | .record name [] => (name.getD "").toList ++ ['(', ')']
  | .record name (f :: fs) =>
    (name.getD "").toList ++ ['(', '\n'] ++ renderFields depth (f :: fs) ++ indent depth ++ [')']
  | .other => []

/-- The lines of the items of a list whose brackets stand at this depth. -/
def renderItems (depth : Nat) : List Value → List Char
  | [] => []
  | v :: vs =>
    indent (depth + 1) ++ v.render (depth + 1) ++ [',', '\n'] ++ renderItems depth vs

/-- The lines of the fields of a record whose brackets stand at this depth. -/
def renderFields (depth : Nat) : List (String × Value) → List Char
  | [] => []
  | (name, v) :: fs =>
    indent (depth + 1) ++ name.toList ++ [':', ' '] ++ v.render (depth + 1) ++ [',', '\n'] ++
      renderFields depth fs

end

end Dialogue.Saved
