import Dialogue.Ids

/-!
# Numbers as text

Ids are written in decimal. A reader takes an optional plus sign, leading zeros, and nothing beyond
`maxId`.

A character can be given by its number, in hexadecimal; not every number is that of a character.
-/

namespace Dialogue.Text

/-- The decimal digits of a number. -/
def numeral (n : Nat) : List Char :=
  Nat.toDigits 10 n

/-- The number that a run of decimal digits writes; an empty run writes none. -/
def readDecimal? (s : List Char) : Option Nat :=
  if s ≠ [] ∧ s.all Char.isDigit then some (Nat.ofDigitChars 10 s 0) else none

/-- The id that a word writes: decimal digits after an optional plus sign, up to `maxId`. -/
def readId? (s : List Char) : Option Nat :=
  (readDecimal? (if s.head? = some '+' then s.drop 1 else s)).filter (· ≤ maxId)

/-- The value of a hexadecimal digit. -/
def hexDigit? (c : Char) : Option Nat :=
  if c.isDigit then some (c.toNat - '0'.toNat)
  else if 'a' ≤ c ∧ c ≤ 'f' then some (c.toNat - 'a'.toNat + 10)
  else if 'A' ≤ c ∧ c ≤ 'F' then some (c.toNat - 'A'.toNat + 10)
  else none

/-- The number that hexadecimal digits write. -/
def hexNumber? (s : List Char) : Option Nat :=
  s.foldlM (fun n c => (hexDigit? c).map (16 * n + ·)) 0

/-- The character with this number, if there is one. -/
def charOfNumber? (n : Nat) : Option Char :=
  if h : n.isValidChar then some (Char.ofNatAux n h) else none

end Dialogue.Text
