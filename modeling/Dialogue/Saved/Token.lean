import Dialogue.Saved.Value
import Dialogue.Text.Identifier
import Dialogue.Text.Pattern

/-!
# Words, numbers and gaps of a saved text

What stands between the brackets of a saved text, one piece at a time. Each reader takes a text and
gives what it read with what follows it, or nothing if the text does not start with such a piece.

* A **gap** is any run of blanks, `//` comments to the end of the line, and `/* */` comments, which
  nest.
* A **word** is an identifier. One with characters of its own kind, such as a minus sign, must start
  with `r#`.
* A **number** is an integer in base 2, 8, 10 or 16 with underscores between its digits, a byte in
  single quotes, or a number with a fraction or an exponent. The name of a machine type may follow
  an integer in base 2 or 10; it must then be one of that type, and otherwise of 64 bits. Only
  integers have a value here: no part of a database is a fraction.
-/

namespace Dialogue.Saved

open Dialogue.Text

/-- The blanks of a saved text. -/
def isGapBlank (c : Char) : Bool :=
  let n := c.toNat
  (0x09 ≤ n && n ≤ 0x0D) || n == 0x20 || n == 0x85 || n == 0x200E || n == 0x200F || n == 0x2028 ||
    n == 0x2029

/-- Where in a gap a reader is. -/
inductive Gap
  | between
  | lineComment
  /-- Inside so many comments, one within another, besides the outermost. -/
  | blockComment (nested : Nat)

/-- The text after a gap. -/
def skipGapFrom : Gap → List Char → Option (List Char)
  | .between, [] => some []
  | .between, '/' :: '/' :: s => skipGapFrom .lineComment s
  | .between, '/' :: '*' :: s => skipGapFrom (.blockComment 0) s
  | .between, c :: s =>
    if c = '/' then none else if isGapBlank c then skipGapFrom .between s else some (c :: s)
  | .lineComment, [] => some []
  | .lineComment, c :: s => skipGapFrom (if c = '\n' then .between else .lineComment) s
  | .blockComment _, [] => none
  | .blockComment nested, '/' :: '*' :: s => skipGapFrom (.blockComment (nested + 1)) s
  | .blockComment (nested + 1), '*' :: '/' :: s => skipGapFrom (.blockComment nested) s
  | .blockComment 0, '*' :: '/' :: s => skipGapFrom .between s
  | .blockComment nested, _ :: s => skipGapFrom (.blockComment nested) s

/-- The text after the gap that it may start with. -/
def skipGap (s : List Char) : Option (List Char) :=
  skipGapFrom .between s

/-- The text after this character and the gap after it. -/
def skipSign (sign : Char) : List Char → Option (List Char)
  | [] => none
  | c :: s => if c = sign then skipGap s else none

/-- The text after a comma and the gap after it, if there is one, and whether there was one. -/
def skipComma (s : List Char) : Option (Bool × List Char) := do
  let s ← skipGap s
  match s with
  | ',' :: s => (skipGap s).map (true, ·)
  | s => some (false, s)

/-- The run of identifier characters at the start of a text. -/
def leadingWord (s : List Char) : List Char :=
  s.takeWhile isIdentifierPart

/-- The characters of a word that is marked with `r#`. -/
def isMarkedPart (c : Char) : Bool :=
  isIdentifierPart c || c = '.' || c = '+' || c = '-'

/-- What starts a quoted text that an identifier could start like. -/
def quotedStarts : List (List Char) :=
  ["b\"", "b'", "br#", "br\"", "r\"", "r#\"", "r##"].map String.toList

/-- An identifier. -/
def readWord : Reader String := fun s =>
  if !(s.head?.any isIdentifierStart) || quotedStarts.any (startsWith · s) then none
  else
    match dropPiece? ['r', '#'] s with
    | some s =>
      let word := s.takeWhile isMarkedPart
      if word.isEmpty then none else some (String.ofList word, s.drop word.length)
    | none =>
      let word := leadingWord s
      if s.takeWhile isMarkedPart = word then some (String.ofList word, s.drop word.length)
      else none

/-! ## Numbers -/

/-- The characters of an integer, in any base. -/
def isIntegerPart (c : Char) : Bool :=
  (hexDigit? c).isSome || c = '_'

/-- The characters of a number with a fraction or an exponent. -/
def isFractionPart (c : Char) : Bool :=
  c.isDigit || c = 'e' || c = 'E' || c = '.' || c = '+' || c = '-' || c = '_'

/-- The base that the start of an integer names, and the text after it. -/
def readBase (s : List Char) : Nat × List Char :=
  match s with
  | '0' :: 'b' :: s => (2, s)
  | '0' :: 'o' :: s => (8, s)
  | '0' :: 'x' :: s => (16, s)
  | s => (10, s)

/-- The number that digits of a base write, underscores left out. -/
def digitsValue? (base : Nat) (s : List Char) : Option Nat :=
  if s.isEmpty || s.head? = some '_' then none
  else
    (s.filter (· ≠ '_')).foldlM
      (fun n c => ((hexDigit? c).filter (· < base)).map (base * n + ·)) 0

/-- The machine type that the run of integer characters at the start of a text is followed by. An
integer in base 8 or 16 has its second character outside of that run, so it names none. -/
def namedType? (s : List Char) : Option IntegerType :=
  let word := leadingWord (s.dropWhile isIntegerPart)
  IntegerType.all.find? (·.name = word)

/-- An integer, after its sign, and the type that it names. -/
def readUnsigned (negative : Bool) : Reader (Int × Option IntegerType) := fun s => do
  let type := namedType? s
  let (base, s) := readBase s
  let digits := s.takeWhile isIntegerPart
  let n ← digitsValue? base digits
  let value : Int := if negative then -n else n
  let rest := s.drop (digits.length + (type.map (·.name.length)).getD 0)
  if (type.getD ⟨negative, 64⟩).holds value then some ((value, type), rest) else none

/-- An integer and the type that it names. A byte is of the type of eight bits without a sign. -/
def readInteger : Reader (Int × Option IntegerType) := fun s =>
  match s with
  | '+' :: s => readUnsigned false s
  | '-' :: s => readUnsigned true s
  | 'b' :: '\'' :: s => (unquoteByte? s).map fun (n, s) => ((n, some ⟨false, 8⟩), s)
  | s => readUnsigned false s

/-- The text after a run of digits, which may have to hold one. -/
def skipDigits (needed : Bool) (s : List Char) : Option (List Char) :=
  let rest := s.dropWhile Char.isDigit
  if needed && rest.length = s.length then none else some rest

/-- The text without a sign at its start. -/
def dropSign (s : List Char) : List Char :=
  if s.head? = some '+' ∨ s.head? = some '-' then s.drop 1 else s

/-- Whether the text is a decimal number, perhaps with a fraction and an exponent. -/
def isDecimalNumber (s : List Char) : Bool :=
  let s := dropSign s
  let whole := s.takeWhile Char.isDigit
  let s := s.drop whole.length
  let fraction := s.head? = some '.'
  let s := if fraction then s.drop 1 else s
  let parts := if fraction then s.takeWhile Char.isDigit else []
  let s := s.drop parts.length
  (!whole.isEmpty || !parts.isEmpty) &&
    match s with
    | [] => true
    | c :: s => (c = 'e' || c = 'E') && skipDigits true (dropSign s) = some []

/-- Whether every underscore stands after a digit or an exponent mark, and not after a point. -/
def underscoresFit : Bool → List Char → Bool
  | _, [] => true
  | allowed, c :: s =>
    if c = '_' then allowed && underscoresFit allowed s
    else underscoresFit
      (if c.isDigit || c = 'e' || c = 'E' then true else if c = '.' then false else allowed) s

/-- The words for numbers that no digits write. -/
def numberWords : List (List Char) :=
  ["inf", "inff32", "inff64", "NaN", "NaNf32", "NaNf64"].map String.toList

/-- A number with a fraction or an exponent, or a word for one. -/
def skipFraction (s : List Char) : Option (List Char) :=
  if numberWords.contains (leadingWord (dropSign s)) then
    some ((dropSign s).dropWhile isIdentifierPart)
  else
    let number := s.takeWhile isFractionPart
    let rest := s.drop number.length
    if underscoresFit false number && isDecimalNumber (number.filter (· ≠ '_')) then
      if leadingWord rest = ['f', '3', '2'] ∨ leadingWord rest = ['f', '6', '4'] then
        some (rest.drop 3)
      else some rest
    else none

/-- A number. It has a value if it is an integer. -/
def readNumber : Reader Value := fun s =>
  let unsigned := dropSign s
  let isFraction :=
    (unsigned.takeWhile isIntegerPart).length < (unsigned.takeWhile isFractionPart).length
  match if isFraction then none else readInteger s with
  | some ((n, type), rest) => some (.number n type, rest)
  | none => (skipFraction s).map (.other, ·)

end Dialogue.Saved
