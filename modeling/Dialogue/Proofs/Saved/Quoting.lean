import Dialogue.Saved.Quoted
import Dialogue.Proofs.Text.Numerals

/-!
# Quoted texts are read back

Every character is written in one way (`escape`), and each of these ways is read as the character
whatever follows it (`unquote?_escape`). So a quoted text is read back as it was (`readText_quote`).
Which characters are spelled out by number does not matter for this: one that is not can only stand
for itself, since the quotes and the backslash always have an escape of their own.
-/

namespace Dialogue.Saved

open Dialogue.Text

/-! ## One character -/

theorem charOfNumber?_toNat (c : Char) : charOfNumber? c.toNat = some c := by
  have hself := Char.ofNat_toNat c
  have hvalid : c.toNat.isValidChar := c.valid
  unfold Char.ofNat at hself
  rw [dif_pos hvalid] at hself
  rw [charOfNumber?, dif_pos hvalid, hself]

/-- No character has a number of more than six digits. -/
theorem length_toDigits_le (c : Char) : (Nat.toDigits 16 c.toNat).length ≤ 6 := by
  rw [Nat.length_toDigits_le_iff (by decide) (by decide)]
  have hvalid : c.toNat.isValidChar := c.valid
  unfold Nat.isValidChar at hvalid
  omega

/-- A character by its number is read back. -/
theorem unescapeNumber?_toDigits (c : Char) (s : List Char) :
    unescapeNumber? ('{' :: (Nat.toDigits 16 c.toNat ++ '}' :: s)) = some (c, s) := by
  have hnumber := hexNumber?_toDigits c.toNat
  have hlength := length_toDigits_le c
  have hne : (Nat.toDigits 16 c.toNat).isEmpty = false := by simp
  have hall : ∀ d ∈ Nat.toDigits 16 c.toNat, d ≠ '}' := by
    rintro d hd rfl
    cases isSome_hexDigit?_of_mem hd
  generalize Nat.toDigits 16 c.toNat = digits at hnumber hlength hne hall ⊢
  have hrun : ((digits ++ '}' :: s).take 6).takeWhile (· ≠ '}') = digits := by
    rw [List.take_append, List.take_of_length_le hlength,
      List.takeWhile_append_of_pos (by simpa using hall)]
    cases 6 - digits.length <;> simp
  simp only [unescapeNumber?, hrun, hne, hnumber, Bool.false_eq_true, if_false,
    List.drop_left, charOfNumber?_toNat, Option.bind_eq_bind, Option.bind_some, Option.map_some]

/-- What a character is written as is read as the character. -/
theorem unquote?_escape (n : Nat) (c : Char) (s : List Char) :
    unquote? bytesOfText (n + 1) (escape c ++ s) =
      (unquote? bytesOfText n s).map fun (text, rest) => (c :: text, rest) := by
  -- behind a backslash stands an escape that is read as the character
  have hescape : ∀ {e : List Char}, unescape? bytesOfText (e ++ s) = some (c, s) →
      unquote? bytesOfText (n + 1) ('\\' :: e ++ s) =
        (unquote? bytesOfText n s).map fun (text, rest) => (c :: text, rest) := by
    intro e he
    rw [List.cons_append, unquote?, if_neg (by decide), if_pos rfl, he]
    simp only [Option.bind_eq_bind, Option.bind_some]
    cases unquote? bytesOfText n s <;> rfl
  unfold escape
  split_ifs with hnul htab hreturn hfeed hsign hnumber
  · exact hescape (e := ['0']) (by rw [hnul]; rfl)
  · exact hescape (e := ['t']) (by rw [htab]; rfl)
  · exact hescape (e := ['r']) (by rw [hreturn]; rfl)
  · exact hescape (e := ['n']) (by rw [hfeed]; rfl)
  · refine hescape (e := [c]) ?_
    obtain rfl | rfl | rfl := hsign <;> rfl
  · refine hescape (e := ['u', '{'] ++ Nat.toDigits 16 c.toNat ++ ['}']) ?_
    simpa [unescape?] using unescapeNumber?_toDigits c s
  · rw [not_or, not_or] at hsign
    rw [List.singleton_append, unquote?, if_neg hsign.2.1, if_neg hsign.1]
    cases unquote? bytesOfText n s <;> rfl

/-! ## Whole texts -/

/-- A quoted text is read back, if it is not too long. -/
theorem readText_quote {limit : Nat} {s : List Char} (h : s.length < limit) (rest : List Char) :
    readText limit (quote s ++ rest) = some (s, rest) := by
  show unquote? bytesOfText limit ((s.flatMap escape ++ ['"']) ++ rest) = some (s, rest)
  rw [List.append_assoc, List.singleton_append]
  induction s generalizing limit with
  | nil =>
    obtain ⟨n, rfl⟩ := Nat.exists_eq_succ_of_ne_zero (Nat.ne_of_gt h)
    rfl
  | cons c s ih =>
    obtain ⟨n, rfl⟩ := Nat.exists_eq_succ_of_ne_zero (Nat.ne_zero_of_lt h)
    have htail := ih (Nat.lt_of_succ_lt_succ h)
    rw [List.flatMap_cons, List.append_assoc, unquote?_escape, htail, Option.map_some]

/-- A quoted text is longer than the text. -/
theorem length_lt_quote (s : List Char) : s.length < (quote s).length := by
  have hone : ∀ c, 1 ≤ (escape c).length := by
    intro c
    unfold escape
    split_ifs <;> simp
  have hall : s.length ≤ (s.flatMap escape).length := by
    induction s with
    | nil => exact Nat.le_refl _
    | cons c s ih =>
      have hc := hone c
      rw [List.flatMap_cons, List.length_append, List.length_cons]
      omega
  rw [quote, List.length_append, List.length_cons]
  omega

end Dialogue.Saved
