import Dialogue.Text.Numeral
import Dialogue.Text.Pattern
import Dialogue.Text.Reader

/-!
# Numbers in a settings file

An integer is decimal, with a sign or not, or starts with `0x`, `0o` or `0b` and has no sign. It
must fit into 64 bits with the sign. Single underscores may stand between digits, and a decimal
integer of several digits does not start with a zero.

A number with a fraction or an exponent may be as small as it likes, and a negative one as large,
but a positive one must be less than what rounds up to infinity in 64 bits. `inf` and `nan`, with a
sign or not, are numbers too.

No setting is a number, so `skipNumber?` only says where one ends.
-/

namespace Dialogue.Settings

open Dialogue.Text

/-- The digits that follow a digit, with single underscores before them or not. -/
def readDigitsAfter (digit : Char → Bool) : Reader (List Char)
  | [] => some ([], [])
  | ['_'] => none
  | '_' :: c :: s =>
    if digit c then (readDigitsAfter digit s).map fun (cs, s) => (c :: cs, s) else none
  | c :: s =>
    if digit c then (readDigitsAfter digit s).map fun (cs, s) => (c :: cs, s)
    else some ([], c :: s)

/-- One digit or more, with single underscores between them or not. -/
def readDigits (digit : Char → Bool) : Reader (List Char)
  | [] => none
  | c :: s =>
    if digit c then (readDigitsAfter digit s).map fun (cs, s) => (c :: cs, s) else none

/-- The number that digits of a base write. -/
def numberOfDigits (base : Nat) (digits : List Char) : Nat :=
  digits.foldl (fun n c => base * n + (hexDigit? c).getD 0) 0

/-- How many integers of one sign fit into 64 bits. -/
def integerCount : Nat := Nat.pow 2 63

/-- The text after an integer of a base other than ten, after what names the base. -/
def skipBased? (base : Nat) (s : List Char) : Option (List Char) := do
  let (digits, s) ← readDigits (fun c => (hexDigit? c).any (· < base)) s
  if numberOfDigits base digits < integerCount then some s else none

/-- The digits of a decimal number before its point. -/
def readWhole : Reader (List Char)
  | '0' :: s => some (['0'], s)
  | s => readDigits Char.isDigit s

/-- The digits after the point of a decimal number, if it has one. -/
def readFraction : Reader (Option (List Char))
  | '.' :: s => (readDigits Char.isDigit s).map fun (digits, s) => (some digits, s)
  | s => some (none, s)

/-- The text without its sign, and whether that was a minus sign. -/
def readSign : List Char → Bool × List Char
  | '-' :: s => (true, s)
  | '+' :: s => (false, s)
  | s => (false, s)

/-- The exponent of a decimal number, if it has one. -/
def readExponent : Reader (Option Int)
  | [] => some (none, [])
  | c :: s =>
    if c = 'e' ∨ c = 'E' then do
      let (negative, s) := readSign s
      let (digits, s) ← readDigits Char.isDigit s
      let n : Int := numberOfDigits 10 digits
      some (some (if negative then -n else n), s)
    else some (none, c :: s)

/-- The least number that rounds up to infinity in 64 bits. -/
def infiniteFrom : Nat := Nat.pow 2 1024 - Nat.pow 2 970

/-- Whether digits times a power of ten round up to infinity. By the number of digits before the
point, most powers need no computing. -/
def isInfinite (digits : List Char) (exponent : Int) : Bool :=
  let digits := digits.dropWhile (· = '0')
  let size := digits.length + exponent
  let n := numberOfDigits 10 digits
  if digits.isEmpty || size < 309 then false
  else if 310 < size then true
  else infiniteFrom * Nat.pow 10 (-exponent).toNat ≤ n * Nat.pow 10 exponent.toNat

/-- The text after a decimal number, after its sign. -/
def skipDecimal? (negative : Bool) (s : List Char) : Option (List Char) := do
  let (whole, s) ← readWhole s
  let (fraction, s) ← readFraction s
  let (exponent, s) ← readExponent s
  let fits :=
    if fraction.isNone && exponent.isNone then
      let n := numberOfDigits 10 whole
      n < integerCount || negative && n = integerCount
    else
      let digits := fraction.getD []
      negative || !isInfinite (whole ++ digits) (exponent.getD 0 - digits.length)
  if fits then some s else none

/-- The text after a number. -/
def skipNumber? (s : List Char) : Option (List Char) :=
  match s with
  | '0' :: 'x' :: s => skipBased? 16 s
  | '0' :: 'o' :: s => skipBased? 8 s
  | '0' :: 'b' :: s => skipBased? 2 s
  | s =>
    let (negative, s) := readSign s
    dropPiece? "inf".toList s <|> dropPiece? "nan".toList s <|> skipDecimal? negative s

end Dialogue.Settings
