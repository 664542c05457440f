import Mathlib.Data.List.Basic
import Dialogue.Proofs.Text.Trimming
import Dialogue.Text.Numeral

/-!
# Numerals

A numeral is read back as the number that it writes (`readDecimal?_numeral`, and `readId?_numeral`
up to the largest id). It is a run of digits, so it is one word of a text.
-/

namespace Dialogue.Text

variable {n : Nat} {c : Char} {s t : List Char}

/-! ## Words -/

theorem words_append_blank (hc : isBlank c = true) (s t : List Char) :
    words (s ++ c :: t) = words s ++ words t := by
  rw [words, List.splitOnP_append_cons s t hc, List.filter_append, words, words]

theorem words_eq_singleton (hs : s ≠ []) (h : ∀ c ∈ s, isBlank c = false) : words s = [s] := by
  rw [words, List.splitOnP_eq_singleton h]
  simp [hs]

/-- A text with a character that is not blank has words. -/
theorem words_ne_nil (hc : c ∈ s) (hblank : isBlank c = false) : words s ≠ [] := by
  induction s with
  | nil => cases hc
  | cons d s ih =>
    unfold words at ih ⊢
    obtain ⟨first, rest, hrows⟩ := List.exists_cons_of_ne_nil (List.splitOnP_ne_nil isBlank s)
    rw [List.splitOnP_cons_eq_if_modifyHead]
    by_cases hd : isBlank d = true
    · have hne : c ≠ d := by
        rintro rfl
        rw [hblank] at hd
        cases hd
      simpa [hd] using ih (List.mem_of_ne_of_mem hne hc)
    · simp [hd, hrows]

theorem words_cons_blank (hc : isBlank c = true) (s : List Char) : words (c :: s) = words s :=
  words_append_blank hc [] s

/-- Blanks at the start of a text are no words. -/
theorem words_append {p : List Char} (hp : isAllBlank p = true) (s : List Char) :
    words (p ++ s) = words s := by
  induction p with
  | nil => rfl
  | cons c p ih =>
    simp only [isAllBlank, List.all_cons, Bool.and_eq_true] at hp
    rw [List.cons_append, words_cons_blank hp.1]
    exact ih hp.2

theorem words_of_isAllBlank (hs : isAllBlank s = true) : words s = [] := by
  have hnone := words_append hs []
  rwa [List.append_nil] at hnone

theorem words_eq_nil_iff : words s = [] ↔ isAllBlank s = true := by
  refine ⟨fun h => ?_, words_of_isAllBlank⟩
  by_contra hs
  rw [Bool.not_eq_true] at hs
  obtain ⟨c, hc, hblank⟩ := exists_of_isAllBlank_eq_false hs
  exact words_ne_nil hc hblank h

/-- Trimming takes no word. -/
theorem words_trim (s : List Char) : words (trim s) = words s := by
  obtain ⟨p, q, hp, hq, hs⟩ := exists_trim s
  conv_rhs => rw [hs, List.append_assoc, words_append hp]
  cases q with
  | nil => rw [List.append_nil]
  | cons c q =>
    simp only [isAllBlank, List.all_cons, Bool.and_eq_true] at hq
    rw [words_append_blank hq.1, words_of_isAllBlank hq.2, List.append_nil]

/-! ## Digits -/

theorem isDigit_of_mem_numeral (h : c ∈ numeral n) : c.isDigit = true :=
  Nat.isDigit_of_mem_toDigits (by decide) (by decide) h

theorem numeral_ne_nil (n : Nat) : numeral n ≠ [] :=
  Nat.toDigits_ne_nil

theorem toNat_of_isDigit (h : c.isDigit = true) : 48 ≤ c.toNat ∧ c.toNat ≤ 57 := by
  simpa [Char.isDigit, UInt32.le_iff_toNat_le] using h

/-- A digit is no blank. -/
theorem isBlank_of_isDigit (h : c.isDigit = true) : isBlank c = false := by
  have hrange := toNat_of_isDigit h
  simp only [isBlank, Bool.or_eq_false_iff, Bool.and_eq_false_iff, decide_eq_false_iff_not,
    beq_eq_false_iff_ne]
  omega

theorem words_numeral (n : Nat) : words (numeral n) = [numeral n] :=
  words_eq_singleton (numeral_ne_nil n) fun _ hc => isBlank_of_isDigit (isDigit_of_mem_numeral hc)

/-! ## Any base -/

/-- What takes in a number digit by digit takes in all of it. -/
theorem foldlM_toDigits {b : Nat} (hb : 1 < b) {f : Nat → Char → Option Nat}
    (h : ∀ k d, d < b → f k (Nat.digitChar d) = some (b * k + d)) (n : Nat) :
    (Nat.toDigits b n).foldlM f 0 = some n := by
  induction n using Nat.base_induction b hb with
  | single m hm =>
    rw [Nat.toDigits_of_lt_base hm]
    simpa using h 0 m hm
  | digit m k hk hm ih =>
    rw [← Nat.toDigits_append_toDigits hb hm hk, List.foldlM_append, ih,
      Nat.toDigits_of_lt_base hk]
    simpa using h m k hk

theorem hexDigit?_digitChar {d : Nat} (h : d < 16) : hexDigit? (Nat.digitChar d) = some d := by
  revert d
  decide

theorem hexNumber?_toDigits (n : Nat) : hexNumber? (Nat.toDigits 16 n) = some n := by
  refine foldlM_toDigits (by decide) (fun k d hd => ?_) n
  rw [hexDigit?_digitChar hd, Option.map_some]

/-- Every digit of a number has a value. -/
theorem isSome_hexDigit?_of_mem (hc : c ∈ Nat.toDigits 16 n) : (hexDigit? c).isSome = true := by
  induction n using Nat.base_induction 16 (by decide) with
  | single m hm =>
    rw [Nat.toDigits_of_lt_base hm, List.mem_singleton] at hc
    rw [hc, hexDigit?_digitChar hm]
    rfl
  | digit m k hk hm ih =>
    rw [← Nat.toDigits_append_toDigits (by decide) hm hk, Nat.toDigits_of_lt_base hk,
      List.mem_append, List.mem_singleton] at hc
    obtain hc | rfl := hc
    · exact ih hc
    · rw [hexDigit?_digitChar hk]
      rfl

/-! ## Reading -/

theorem readDecimal?_numeral (n : Nat) : readDecimal? (numeral n) = some n := by
  have hdigits : (numeral n).all Char.isDigit = true := by
    rw [List.all_eq_true]
    intro c hc
    exact isDigit_of_mem_numeral hc
  rw [readDecimal?, if_pos ⟨numeral_ne_nil n, hdigits⟩]
  exact congrArg some (Nat.ofDigitChars_toDigits (by decide) (by decide))

/-- An id is read back. -/
theorem readId?_numeral (h : n ≤ maxId) : readId? (numeral n) = some n := by
  have hsign : (numeral n).head? ≠ some '+' := by
    intro hplus
    have hdigit := isDigit_of_mem_numeral (List.mem_of_head? hplus)
    cases hdigit
  rw [readId?, if_neg hsign, readDecimal?_numeral]
  simp [h]

end Dialogue.Text
