/-!
# Finding and removing a fixed piece of text

Removal goes from left to right and never looks back: the text that closes over a removed piece is
not searched again, so removing every `ab` from `aabb` leaves `ab`.
-/

namespace Dialogue.Text

/-- Whether the text starts with the piece. -/
def startsWith (piece s : List Char) : Bool :=
  piece.isPrefixOf s

/-- What follows the piece at the start of the text, if it stands there. -/
def dropPiece? (piece s : List Char) : Option (List Char) :=
  if startsWith piece s then some (s.drop piece.length) else none

theorem startsWith_iff {piece s : List Char} : startsWith piece s = true ↔ ∃ r, s = piece ++ r := by
  rw [startsWith, List.isPrefixOf_iff_prefix]
  exact ⟨fun ⟨r, h⟩ => ⟨r, h.symm⟩, fun ⟨r, h⟩ => ⟨r, h.symm⟩⟩

/-- The piece and what follows it make up the text. -/
theorem dropPiece?_eq_some_iff {piece s r : List Char} :
    dropPiece? piece s = some r ↔ s = piece ++ r := by
  rw [dropPiece?]
  split
  · next h =>
    obtain ⟨r', rfl⟩ := startsWith_iff.1 h
    simp
  · next h =>
    have hne : s ≠ piece ++ r := fun hs => h (startsWith_iff.2 ⟨r, hs⟩)
    simp [hne]

/-- Whether the piece stands anywhere in the text. -/
def occursIn (piece : List Char) : List Char → Bool
  | [] => piece.isEmpty
  | c :: s => startsWith piece (c :: s) || occursIn piece s

/-- The piece stands between some beginning of the text and some end. -/
theorem occursIn_iff {piece s : List Char} :
    occursIn piece s = true ↔ ∃ before after, s = before ++ piece ++ after := by
  induction s with
  | nil => cases piece <;> simp [occursIn]
  | cons c s ih =>
    rw [occursIn, Bool.or_eq_true, startsWith_iff, ih]
    constructor
    · rintro (⟨r, h⟩ | ⟨before, after, rfl⟩)
      · exact ⟨[], r, h⟩
      · exact ⟨c :: before, after, by simp⟩
    · rintro ⟨before, after, h⟩
      cases before with
      | nil => exact .inl ⟨after, h⟩
      | cons b before =>
        simp only [List.cons_append, List.cons.injEq] at h
        exact .inr ⟨before, after, h.2⟩

/-- Removal of every piece, with `skip` characters of the last one found still to go. -/
def eraseAllFrom (piece : List Char) : Nat → List Char → List Char
  | _, [] => []
  | skip + 1, _ :: s => eraseAllFrom piece skip s
  | 0, c :: s =>
    if startsWith piece (c :: s) then eraseAllFrom piece (piece.length - 1) s
    else c :: eraseAllFrom piece 0 s

/-- The text without the piece, wherever it stands. -/
def eraseAll (piece s : List Char) : List Char :=
  eraseAllFrom piece 0 s

/-- The text without the first place where the piece stands. -/
def eraseFirst (piece : List Char) : List Char → List Char
  | [] => []
  | c :: s =>
    if startsWith piece (c :: s) then (c :: s).drop piece.length
    else c :: eraseFirst piece s

end Dialogue.Text
