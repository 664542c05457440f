import Dialogue.Text.Reader

/-!
# Dates and times in a settings file

A date is written `1979-05-27`, a time `07:32:00` with perhaps a fraction of a second after a point.
Both may stand together with a `T` or a space between them, and then the distance from universal
time may follow: `Z`, or hours and minutes with their sign. The day must be one of its month, and a
minute may have a leap second.

No setting is a date or a time, so `skipMoment?` only says where one ends.
-/

namespace Dialogue.Settings

open Dialogue.Text

/-- The number that just so many decimal digits write, if it is not below the least nor above the
greatest one. -/
def readFixed (size least greatest : Nat) : Reader Nat := fun s =>
  let digits := s.take size
  let n := Nat.ofDigitChars 10 digits 0
  if digits.length = size && digits.all Char.isDigit && least ≤ n && n ≤ greatest then
    some (n, s.drop size)
  else none

/-- The text after this character. -/
def skipMark (mark : Char) : List Char → Option (List Char)
  | [] => none
  | c :: s => if c = mark then some s else none

/-- The number of days of a month. -/
def daysOfMonth (year month : Nat) : Nat :=
  if month = 2 then if year % 4 = 0 ∧ (year % 100 ≠ 0 ∨ year % 400 = 0) then 29 else 28
  else if month = 4 ∨ month = 6 ∨ month = 9 ∨ month = 11 then 30
  else 31

/-- The text after a date. -/
def skipDate? (s : List Char) : Option (List Char) := do
  let (year, s) ← readFixed 4 0 9999 s
  let s ← skipMark '-' s
  let (month, s) ← readFixed 2 1 12 s
  let s ← skipMark '-' s
  let (_, s) ← readFixed 2 1 (daysOfMonth year month) s
  some s

/-- The text after hours and minutes. -/
def skipHoursAndMinutes? (s : List Char) : Option (List Char) := do
  let (_, s) ← readFixed 2 0 23 s
  let s ← skipMark ':' s
  let (_, s) ← readFixed 2 0 59 s
  some s

/-- The text after a fraction of a second, if there is one. -/
def skipSecondFraction (s : List Char) : List Char :=
  match skipMark '.' s with
  | none => s
  | some rest => if rest.head?.any Char.isDigit then rest.dropWhile Char.isDigit else s

/-- The text after a time. -/
def skipTime? (s : List Char) : Option (List Char) := do
  let s ← skipHoursAndMinutes? s
  let s ← skipMark ':' s
  let (_, s) ← readFixed 2 0 60 s
  some (skipSecondFraction s)

/-- The text after the distance from universal time, if it is given. -/
def skipZone : List Char → List Char
  | [] => []
  | c :: s =>
    if c = 'Z' ∨ c = 'z' then s
    else if c = '+' ∨ c = '-' then (skipHoursAndMinutes? s).getD (c :: s)
    else c :: s

/-- The text after the time of a day, if it is given. -/
def skipTimeOfDay : List Char → List Char
  | [] => []
  | c :: s =>
    if c = 'T' ∨ c = 't' ∨ c = ' ' then ((skipTime? s).map skipZone).getD (c :: s) else c :: s

/-- The text after a date, a time, or both. -/
def skipMoment? (s : List Char) : Option (List Char) :=
  match skipDate? s with
  | some s => some (skipTimeOfDay s)
  | none => skipTime? s

end Dialogue.Settings
