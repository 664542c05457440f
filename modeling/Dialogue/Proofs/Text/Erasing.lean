import Mathlib.Data.List.Induction
import Dialogue.Text.Pattern

/-!
# Where a piece can stand, and what erasing it leaves

A character that a piece does not hold divides the text for it: no place of the piece reaches
across. So whether the piece starts a text or occurs in it, and what erasing it leaves, is settled
on either side of such a character alone (`startsWith_append_cons`, `occursIn_append_cons`,
`eraseAll_append_cons`).

A piece of one character twice, which is what closes a directive, is the one that may overlap the
text before it. Of a run of its character erasing leaves one or none, so where a pair stands does not
show in what is left: the same is left when it is not there at all (`eraseAll_append_pair_append`).
-/

namespace Dialogue.Text

variable {p a s : List Char} {c : Char}

/-! ## Starting with a piece -/

theorem startsWith_append_left (p s : List Char) : startsWith p (p ++ s) = true :=
  startsWith_iff.2 ⟨s, rfl⟩

theorem startsWith_mono (h : a <+: s) (hp : startsWith p a = true) :
    startsWith p s = true := by
  rw [startsWith, List.isPrefixOf_iff_prefix] at hp ⊢
  exact hp.trans h

theorem startsWith_append_cons (hc : c ∉ p) : startsWith p (a ++ c :: s) = startsWith p a := by
  induction p generalizing a with
  | nil => rfl
  | cons x p ih =>
    rw [List.mem_cons, not_or] at hc
    cases a with
    | nil =>
      have hx : ¬ x = c := fun h => hc.1 h.symm
      simp [startsWith, List.isPrefixOf_cons_cons, hx]
    | cons d a =>
      have htail := ih (a := a) hc.2
      simp only [startsWith, List.cons_append, List.isPrefixOf_cons_cons] at htail ⊢
      rw [htail]

/-- A piece does not start a text whose first character is not its own. -/
theorem startsWith_cons_of_head? (h : p.head? ≠ some c) (hp : p ≠ []) :
    startsWith p (c :: s) = false := by
  cases p with
  | nil => exact absurd rfl hp
  | cons x p =>
    have hx : ¬ x = c := by simpa using h
    simp [startsWith, List.isPrefixOf_cons_cons, hx]

/-! ## Occurring -/

theorem occursIn_append_cons (hc : c ∉ p) :
    occursIn p (a ++ c :: s) = (occursIn p a || occursIn p s) := by
  induction a with
  | nil =>
    have hhere : startsWith p (c :: s) = startsWith p [] := startsWith_append_cons (a := []) hc
    simp only [List.nil_append, occursIn, hhere]
    cases p <;> rfl
  | cons d a ih =>
    have hhere : startsWith p (d :: (a ++ c :: s)) = startsWith p (d :: a) :=
      startsWith_append_cons (a := d :: a) hc
    rw [List.cons_append, occursIn, occursIn, hhere, ih, Bool.or_assoc]

/-- A piece that occurs in a part occurs in the whole. -/
theorem occursIn_mono (h : a <:+: s) (hp : occursIn p a = true) : occursIn p s = true := by
  obtain ⟨before, after, rfl⟩ := h
  obtain ⟨b, d, rfl⟩ := occursIn_iff.1 hp
  exact occursIn_iff.2 ⟨before ++ b, d ++ after, by simp⟩

theorem occursIn_append_left (p s : List Char) : occursIn p (s ++ p) = true :=
  occursIn_iff.2 ⟨s, [], by simp⟩

/-- Characters that do not start the piece can go before a text. -/
theorem occursIn_append (hp : p ≠ []) (ha : ∀ x ∈ a, p.head? ≠ some x) :
    occursIn p (a ++ s) = occursIn p s := by
  induction a with
  | nil => rfl
  | cons d a ih =>
    have hhead := startsWith_cons_of_head? (s := a ++ s) (ha d List.mem_cons_self) hp
    rw [List.cons_append, occursIn, hhead, Bool.false_or]
    exact ih fun x hx => ha x (List.mem_cons_of_mem d hx)

/-! ## Erasing every place -/

theorem eraseAllFrom_of_skip (k : Nat) (s : List Char) :
    eraseAllFrom p k s = eraseAllFrom p 0 (s.drop k) := by
  induction k generalizing s with
  | zero => rfl
  | succ k ih =>
    cases s with
    | nil => rfl
    | cons d s =>
      rw [eraseAllFrom, List.drop_succ_cons]
      exact ih s

theorem eraseAll_cons (h : startsWith p (c :: s) = false) :
    eraseAll p (c :: s) = c :: eraseAll p s := by
  simp [eraseAll, eraseAllFrom, h]

/-- A piece at the start is erased. -/
theorem eraseAll_append_piece (hp : p ≠ []) : eraseAll p (p ++ s) = eraseAll p s := by
  obtain ⟨x, p', rfl⟩ := List.exists_cons_of_ne_nil hp
  have hstart := startsWith_append_left (x :: p') s
  rw [List.cons_append] at hstart ⊢
  rw [eraseAll, eraseAllFrom, if_pos hstart, eraseAllFrom_of_skip]
  simp [eraseAll]

theorem eraseAll_of_occursIn (h : occursIn p s = false) : eraseAll p s = s := by
  induction s with
  | nil => rfl
  | cons d s ih =>
    rw [occursIn, Bool.or_eq_false_iff] at h
    rw [eraseAll_cons h.1, ih h.2]

/-- Characters that do not start the piece stay. -/
theorem eraseAll_append (hp : p ≠ []) (ha : ∀ x ∈ a, p.head? ≠ some x) :
    eraseAll p (a ++ s) = a ++ eraseAll p s := by
  induction a with
  | nil => rfl
  | cons d a ih =>
    have hhead := startsWith_cons_of_head? (s := a ++ s) (ha d List.mem_cons_self) hp
    rw [List.cons_append, eraseAll_cons hhead, ih fun x hx => ha x (List.mem_cons_of_mem d hx)]
    rfl

/-- A character that the piece does not hold divides the text. -/
theorem eraseAll_append_cons (hp : p ≠ []) (hc : c ∉ p) :
    eraseAll p (a ++ c :: s) = eraseAll p a ++ c :: eraseAll p s := by
  -- the induction is on the length, as a piece that is found is left at once
  induction hn : a.length using Nat.strongRecOn generalizing a with
  | ind n ih =>
    cases a with
    | nil =>
      have hhere : startsWith p (c :: s) = startsWith p [] := startsWith_append_cons (a := []) hc
      have hnone : startsWith p [] = false := by
        cases p with
        | nil => exact absurd rfl hp
        | cons x p => rfl
      rw [List.nil_append, eraseAll_cons (hhere.trans hnone)]
      rfl
    | cons d a =>
      have hhere : startsWith p (d :: a ++ c :: s) = startsWith p (d :: a) :=
        startsWith_append_cons hc
      by_cases hd : startsWith p (d :: a) = true
      · obtain ⟨r, hr⟩ := startsWith_iff.1 hd
        have hpos : 0 < p.length := List.length_pos_iff.2 hp
        have hlen : r.length < n := by
          rw [← hn, hr, List.length_append]
          omega
        rw [hr, List.append_assoc, eraseAll_append_piece hp, eraseAll_append_piece hp]
        exact ih r.length hlen rfl
      · rw [Bool.not_eq_true] at hd
        have hlen : a.length < n := by
          rw [← hn, List.length_cons]
          omega
        rw [List.cons_append, eraseAll_cons (by rwa [← List.cons_append, hhere]), eraseAll_cons hd,
          ih a.length hlen rfl]
        rfl

/-- What is left is part of the text, in order. -/
theorem eraseAllFrom_sublist (k : Nat) (s : List Char) : (eraseAllFrom p k s).Sublist s := by
  induction s generalizing k with
  | nil => cases k <;> exact .refl []
  | cons d s ih =>
    cases k with
    | succ k => exact (ih k).cons d
    | zero =>
      rw [eraseAllFrom]
      split
      · exact (ih _).cons d
      · exact (ih 0).cons_cons d

/-- Erasing a piece that occurs takes its characters out. -/
theorem count_eraseAll_lt (h : occursIn p s = true) (hc : c ∈ p) :
    (eraseAll p s).count c < s.count c := by
  induction s with
  | nil =>
    have hp : p = [] := by simpa [occursIn] using h
    rw [hp] at hc
    cases hc
  | cons d s ih =>
    by_cases hstart : startsWith p (d :: s) = true
    · obtain ⟨r, hr⟩ := startsWith_iff.1 hstart
      have hle := (eraseAllFrom_sublist (p := p) 0 r).count_le c
      have hpos := List.count_pos_iff.2 hc
      rw [hr, eraseAll_append_piece (List.ne_nil_of_mem hc), List.count_append, eraseAll]
      omega
    · rw [Bool.not_eq_true] at hstart
      rw [occursIn, hstart, Bool.false_or] at h
      have hlt := ih h
      rw [eraseAll_cons hstart, List.count_cons, List.count_cons]
      omega

/-! ## A pair of one character -/

section pair

/-- Of a text with two characters only these say whether a pair starts it. -/
theorem startsWith_pair_append (d e : Char) (a s : List Char) :
    startsWith [c, c] (d :: e :: (a ++ s)) = startsWith [c, c] (d :: e :: a) := by
  simp [startsWith, List.isPrefixOf_cons_cons]

/-- Whether a pair is put somewhere makes no difference to what is left when all are erased. -/
theorem eraseAll_append_pair_append (a s : List Char) :
    eraseAll [c, c] (a ++ c :: c :: s) = eraseAll [c, c] (a ++ s) := by
  have hpair : ∀ t, eraseAll [c, c] (c :: c :: t) = eraseAll [c, c] t := fun t =>
    eraseAll_append_piece (List.cons_ne_nil c [c])
  induction a using List.twoStepInduction with
  | nil => exact hpair s
  | singleton d =>
    by_cases hd : c = d
    · -- the pair that is erased starts one place earlier
      rw [← hd]
      exact hpair (c :: s)
    · have hstart : ∀ t, startsWith [c, c] (d :: t) = false := fun t =>
        startsWith_cons_of_head? (by simpa using hd) (List.cons_ne_nil c [c])
      rw [List.singleton_append, List.singleton_append, eraseAll_cons (hstart _), hpair,
        eraseAll_cons (hstart _)]
  | cons_cons d e a ih ih' =>
    have hsame := fun t => startsWith_pair_append (c := c) d e a t
    by_cases hstart : startsWith [c, c] (d :: e :: a) = true
    · obtain ⟨rfl, rfl⟩ : c = d ∧ c = e := by simpa [startsWith] using hstart
      exact (hpair _).trans (ih.trans (hpair _).symm)
    · rw [Bool.not_eq_true] at hstart
      have hkeep : ∀ t, eraseAll [c, c] (d :: (e :: a ++ t)) = d :: eraseAll [c, c] (e :: a ++ t) :=
        fun t => eraseAll_cons ((hsame t).trans hstart)
      calc eraseAll [c, c] (d :: e :: a ++ c :: c :: s)
        _ = d :: eraseAll [c, c] (e :: a ++ c :: c :: s) := hkeep _
        _ = d :: eraseAll [c, c] (e :: a ++ s) := by rw [ih']
        _ = eraseAll [c, c] (d :: e :: a ++ s) := (hkeep s).symm

/-- A pair of one character is taken off the end of a text that does not hold it. -/
theorem eraseAll_append_pair (h : occursIn [c, c] s = false) :
    eraseAll [c, c] (s ++ [c, c]) = s := by
  rw [eraseAll_append_pair_append, List.append_nil, eraseAll_of_occursIn h]

/-- The pairs of what comes last can be erased beforehand. -/
theorem eraseAll_append_eraseAll (a s : List Char) :
    eraseAll [c, c] (a ++ eraseAll [c, c] s) = eraseAll [c, c] (a ++ s) := by
  induction hn : s.length using Nat.strongRecOn generalizing a s with
  | ind n ih =>
    cases s with
    | nil => rfl
    | cons d s =>
      rw [List.length_cons] at hn
      by_cases hstart : startsWith [c, c] (d :: s) = true
      · obtain ⟨r, hr⟩ := startsWith_iff.1 hstart
        have hlen : r.length < n := by
          have hlength := congrArg List.length hr
          simp only [List.length_append, List.length_cons] at hlength
          omega
        rw [hr, eraseAll_append_piece (List.cons_ne_nil c [c]), ih r.length hlen a r rfl]
        exact (eraseAll_append_pair_append a r).symm
      · rw [Bool.not_eq_true] at hstart
        have hrest := ih s.length (by omega) (a ++ [d]) s rfl
        rw [List.append_assoc, List.append_assoc] at hrest
        rw [eraseAll_cons hstart]
        exact hrest

/-- A text that holds no pair, nor the first half of one at its end, stays. -/
theorem eraseAll_pair_append (h : occursIn [c, c] a = false) (hlast : a.getLast? ≠ some c)
    (s : List Char) : eraseAll [c, c] (a ++ s) = a ++ eraseAll [c, c] s := by
  induction a with
  | nil => rfl
  | cons d a ih =>
    rw [occursIn, Bool.or_eq_false_iff] at h
    cases a with
    | nil =>
      have hd : ¬ c = d := fun hd => hlast (by rw [hd, List.getLast?_singleton])
      exact eraseAll_cons (startsWith_cons_of_head? (by simpa using hd) (List.cons_ne_nil c [c]))
    | cons e a =>
      have hsame := startsWith_pair_append (c := c) d e a s
      rw [h.1] at hsame
      rw [List.getLast?_cons_cons] at hlast
      rw [List.cons_append, List.cons_append, eraseAll_cons hsame, ← List.cons_append,
        ih h.2 hlast]
      rfl

end pair

/-! ## Erasing the first place -/

/-- The first place of a piece is found behind characters that do not start it. -/
theorem eraseFirst_append_append (hp : p ≠ []) (ha : ∀ x ∈ a, p.head? ≠ some x) :
    eraseFirst p (a ++ (p ++ s)) = a ++ s := by
  induction a with
  | nil =>
    obtain ⟨x, p', rfl⟩ := List.exists_cons_of_ne_nil hp
    have hstart := startsWith_append_left (x :: p') s
    rw [List.cons_append] at hstart
    rw [List.nil_append, List.cons_append, eraseFirst, if_pos hstart]
    simp
  | cons d a ih =>
    have hhead := startsWith_cons_of_head? (s := a ++ (p ++ s)) (ha d List.mem_cons_self) hp
    simp only [List.cons_append, eraseFirst, hhead, Bool.false_eq_true, if_false]
    rw [ih fun x hx => ha x (List.mem_cons_of_mem d hx)]

/-! ## A character at the end -/

section concat

variable (hp : p ≠ []) (hc : c ∉ p) (a : List Char)

include hc in
/-- A character that the piece does not hold is left at the end of what follows the piece. -/
theorem dropPiece?_concat : dropPiece? p (a ++ [c]) = (dropPiece? p a).map (· ++ [c]) := by
  have hsame : startsWith p (a ++ [c]) = startsWith p a := startsWith_append_cons hc
  rw [dropPiece?, dropPiece?, hsame]
  split
  · next hstart =>
    rw [startsWith, List.isPrefixOf_iff_prefix] at hstart
    rw [List.drop_append_of_le_length hstart.length_le, Option.map_some]
  · rfl

include hp hc

theorem occursIn_concat : occursIn p (a ++ [c]) = occursIn p a := by
  rw [occursIn_append_cons hc]
  cases p with
  | nil => exact absurd rfl hp
  | cons x p => simp [occursIn]

omit hc in
/-- Characters that the piece does not hold can go behind a text. -/
theorem occursIn_append_right {t : List Char} (ht : ∀ x ∈ t, x ∉ p) :
    occursIn p (a ++ t) = occursIn p a := by
  induction t using List.reverseRecOn with
  | nil => rw [List.append_nil]
  | append_singleton t x ih =>
    rw [← List.append_assoc, occursIn_concat hp (ht x (by simp))]
    exact ih fun y hy => ht y (List.mem_append_left [x] hy)

theorem eraseAll_concat : eraseAll p (a ++ [c]) = eraseAll p a ++ [c] :=
  eraseAll_append_cons hp hc

theorem eraseFirst_concat : eraseFirst p (a ++ [c]) = eraseFirst p a ++ [c] := by
  induction a with
  | nil =>
    have hsame : startsWith p [c] = startsWith p [] := startsWith_append_cons (a := []) hc
    have hnone : startsWith p [] = false := by
      cases p with
      | nil => exact absurd rfl hp
      | cons x p => rfl
    simp [eraseFirst, hsame, hnone]
  | cons d a ih =>
    have hsame : startsWith p (d :: (a ++ [c])) = startsWith p (d :: a) :=
      startsWith_append_cons (a := d :: a) (s := []) hc
    rw [List.cons_append, eraseFirst, eraseFirst, hsame, ih]
    split
    · next hstart =>
      rw [startsWith, List.isPrefixOf_iff_prefix] at hstart
      rw [← List.cons_append, List.drop_append_of_le_length hstart.length_le]
    · rfl

end concat

end Dialogue.Text
