import Dialogue.Text.Numeral
import Dialogue.Text.Reader
import Dialogue.Text.SpelledOut

/-!
# Quoted text

The text of a database is saved between double quotes. Inside, a backslash starts an escape:

* both quotes and the backslash stand after one, and so do the letters `n`, `r`, `t` and the digit
  `0` for line feed, carriage return, tab and NUL;
* `\u{…}` gives a character by its number, in one to six hexadecimal digits;
* `\x` gives a byte in two digits. A byte below 128 is a character; otherwise up to three more such
  bytes must follow that make one character of UTF-8 with it. Between the quotes of a single
  character no more bytes may follow, and in a text of bytes each byte stands for itself.

`quote` writes every character in one way; `unquote?` also takes the ways that it does not write.
-/

namespace Dialogue.Saved

open Dialogue.Text

/-- How one character is written between quotes. -/
def escape (c : Char) : List Char :=
  if c = '\x00' then ['\\', '0']
  else if c = '\t' then ['\\', 't']
  else if c = '\r' then ['\\', 'r']
  else if c = '\n' then ['\\', 'n']
  else if c = '\\' ∨ c = '"' ∨ c = '\'' then ['\\', c]
  else if isSpelledOut c then ['\\', 'u', '{'] ++ Nat.toDigits 16 c.toNat ++ ['}']
  else [c]

/-- A text between quotes. -/
def quote (s : List Char) : List Char :=
  '"' :: s.flatMap escape ++ ['"']

/-- A character by its number in braces, after `\u`. -/
def unescapeNumber? : Reader Char
  | '{' :: s => do
    let digits := (s.take 6).takeWhile (· ≠ '}')
    let n ← if digits.isEmpty then none else hexNumber? digits
    match s.drop digits.length with
    | '}' :: rest => (charOfNumber? n).map (·, rest)
    | _ => none
  | _ => none

/-- The byte that two hexadecimal digits write. -/
def byte? : Reader UInt8
  | a :: b :: s => (hexNumber? [a, b]).map (·.toUInt8, s)
  | _ => none

/-- The character that bytes of UTF-8 write, if they write just one. -/
def charOfBytes? (bytes : List UInt8) : Option Char :=
  match (String.fromUTF8? (ByteArray.mk bytes.toArray)).map String.toList with
  | some [c] => some c
  | _ => none

/-- A character by its bytes, after the `\x` of the next one. `before` holds the bytes so far, and
the number says how many more may follow. -/
def unescapeBytes? : Nat → List UInt8 → Reader Char
  | more, before, s => do
    let (b, rest) ← byte? s
    match charOfBytes? (before ++ [b]) with
    | some c => some (c, rest)
    | none =>
      match more, rest with
      | more + 1, '\\' :: 'x' :: rest => unescapeBytes? more (before ++ [b]) rest
      | _, _ => none

/-- How bytes are read after their `\x` in a text. -/
def bytesOfText : Reader Char :=
  unescapeBytes? 3 []

/-- How a byte is read after its `\x` where just one may stand for a character. -/
def byteOfCharacter : Reader Char :=
  unescapeBytes? 0 []

/-- How a byte is read after its `\x` where it stands for itself. -/
def byteOfBytes : Reader Char := fun s =>
  (byte? s).map fun (b, s) => (Char.ofNat b.toNat, s)

/-- The character that an escape stands for, after its backslash, with this way to read bytes. -/
def unescape? (bytes : Reader Char) : Reader Char
  | '\'' :: s => some ('\'', s)
  | '"' :: s => some ('"', s)
  | '\\' :: s => some ('\\', s)
  | 'n' :: s => some ('\n', s)
  | 'r' :: s => some ('\r', s)
  | 't' :: s => some ('\t', s)
  | '0' :: s => some ('\x00', s)
  | 'x' :: s => bytes s
  | 'u' :: s => unescapeNumber? s
  | _ => none

/-- A quoted text, after its opening quote, and what follows it. The text has fewer characters than
the number says. -/
def unquote? (bytes : Reader Char) : Nat → Reader (List Char)
  | 0, _ => none
  | _ + 1, [] => none
  | n + 1, c :: s =>
    if c = '"' then some ([], s)
    else if c = '\\' then do
      let (c, s) ← unescape? bytes s
      let (text, rest) ← unquote? bytes n s
      some (c :: text, rest)
    else do
      let (text, rest) ← unquote? bytes n s
      some (c :: text, rest)

/-- A character in single quotes, after the opening one. -/
def unquoteCharacter? : Reader Char := fun s => do
  let (c, s) ←
    match s with
    | '\\' :: s => unescape? byteOfCharacter s
    | c :: s => some (c, s)
    | [] => none
  match s with
  | '\'' :: s => some (c, s)
  | _ => none

/-- A byte in single quotes, after the opening one: an ASCII character, or an escape that gives no
character by its number. -/
def unquoteByte? : Reader Nat := fun s => do
  let (c, s) ←
    match s with
    | '\\' :: 'u' :: _ => none
    | '\\' :: s => unescape? byteOfBytes s
    | c :: s => if c.toNat < 128 then some (c, s) else none
    | [] => none
  match s with
  | '\'' :: s => some (c.toNat, s)
  | _ => none

/-- What stands before the first place of a piece, and what follows that place. -/
def splitAtPiece? (piece : List Char) : List Char → Option (List Char × List Char)
  | [] => if piece.isEmpty then some ([], []) else none
  | c :: s =>
    if piece.isPrefixOf (c :: s) then some ([], (c :: s).drop piece.length)
    else (splitAtPiece? piece s).map fun (text, rest) => (c :: text, rest)

/-- What closes a raw text, and the text itself with what follows it, after its opening `r`: a quote
with as many `#` after it as the opening quote has before it. -/
def openRaw? : Reader (List Char) := fun s =>
  let hashes := s.takeWhile (· = '#')
  match s.drop hashes.length with
  | '"' :: s => some ('"' :: hashes, s)
  | _ => none

/-- A raw text, after its opening `r`: nothing in it is escaped. -/
def unquoteRaw? : Reader (List Char) := fun s => do
  let (close, s) ← openRaw? s
  splitAtPiece? close s

/-- Whether a quoted text, after its opening quote, is never closed: no quote follows, or none
follows an escape in it. An escape that stands for nothing decides before what comes after it. -/
def isUnclosed (bytes : Reader Char) : Nat → List Char → Bool
  | 0, _ => false
  | n + 1, s =>
    if s.contains '"' then
      match s.dropWhile fun c => c ≠ '"' ∧ c ≠ '\\' with
      | '\\' :: s =>
        match unescape? bytes s with
        | some (_, s) => isUnclosed bytes n s
        | none => false
      | _ => false
    else true

/-- Whether a raw text, after its opening `r`, is never closed. -/
def isUnclosedRaw (s : List Char) : Bool :=
  (openRaw? s).any fun (close, s) => (splitAtPiece? close s).isNone

/-! ## With the opening marks -/

/-- A character in single quotes. -/
def readCharacter : Reader Char
  | '\'' :: s => unquoteCharacter? s
  | _ => none

/-- A text between quotes or raw. It has fewer characters than the limit. -/
def readText (limit : Nat) : Reader (List Char)
  | '"' :: s => unquote? bytesOfText limit s
  | 'r' :: s => unquoteRaw? s
  | _ => none

/-- Whether the text starts with a quoted or raw one that is never closed. -/
def startsUnclosedText (limit : Nat) : List Char → Bool
  | '"' :: s => isUnclosed bytesOfText limit s
  | 'r' :: s => isUnclosedRaw s
  | _ => false

/-- A text of bytes between quotes or raw. It has fewer characters than the limit. -/
def readBytes (limit : Nat) : Reader (List Char)
  | 'b' :: '"' :: s => unquote? byteOfBytes limit s
  | 'b' :: 'r' :: s => unquoteRaw? s
  | _ => none

/-- Whether the text starts with a text of bytes that is never closed. -/
def startsUnclosedBytes (limit : Nat) : List Char → Bool
  | 'b' :: '"' :: s => isUnclosed byteOfBytes limit s
  | 'b' :: 'r' :: s => isUnclosedRaw s
  | _ => false

end Dialogue.Saved
