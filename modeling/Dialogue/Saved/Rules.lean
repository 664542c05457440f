import Dialogue.Saved.Token

/-!
# Rules that a saved text can switch on

Before its value, a saved text may have attributes: `#![enable(…)]` with the names of rules, which
hold for the whole value. A name that is no rule makes the text invalid.

* `implicit_some`: a value may stand for itself where an optional one is asked for, and the brackets
  after `Some` may be left out.
* `explicit_struct_names`: a record must have its name before its brackets.
* `unwrap_variant_newtypes`: a record or a tuple that an optional value holds may go without
  brackets of its own.
* `unwrap_newtypes` is a rule for values that no part of a database is saved as, and changes nothing
  here.
-/

namespace Dialogue.Saved

open Dialogue.Text

/-- The rules that are switched on. -/
structure Rules where
  /-- An optional value may go without `Some` or without the brackets after it. -/
  implicitSome : Bool
  /-- Every record must have its name. -/
  explicitNames : Bool
  /-- What an optional value holds may go without brackets of its own. -/
  unwrapVariants : Bool

namespace Rules

/-- The rules of a text without attributes. -/
def standard : Rules := ⟨false, false, false⟩

/-- A rule by its name, switched on. -/
def enable? (r : Rules) : String → Option Rules
  | "implicit_some" => some { r with implicitSome := true }
  | "explicit_struct_names" => some { r with explicitNames := true }
  | "unwrap_variant_newtypes" => some { r with unwrapVariants := true }
  | "unwrap_newtypes" => some r
  | _ => none

end Rules

/-- The text after these pieces, each with the gap after it. -/
def skipPieces : List (List Char) → List Char → Option (List Char)
  | [], s => some s
  | piece :: pieces, s => do
    let s ← dropPiece? piece s
    skipPieces pieces (← skipGap s)

/-- The names of rules, with commas between them, and the rules with them switched on. There are at
most so many. -/
def readRuleNames : Nat → Rules → Reader Rules
  | 0, _, _ => none
  | n + 1, r, s => do
    let (name, s) ← readWord s
    let r ← r.enable? name
    let (comma, s) ← skipComma s
    if comma && s.head?.any isIdentifierStart then readRuleNames n r s else some (r, s)

/-- The attributes before the value, at most so many, and the rules that they switch on. -/
def readAttributes : Nat → Rules → Reader Rules
  | 0, r, s => some (r, s)
  | n + 1, r, s =>
    if s.head? = some '#' then do
      let s ← skipPieces (["#", "!", "[", "enable", "("].map String.toList) s
      let (r, s) ← readRuleNames s.length r s
      let s ← skipPieces [[')'], [']']] s
      readAttributes n r s
    else some (r, s)

end Dialogue.Saved
