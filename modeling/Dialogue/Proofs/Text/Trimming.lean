import Mathlib.Data.List.Basic
import Dialogue.Text.Blank

/-!
# What trimming keeps

Blanks at the ends of a text do not count for its trimmed form (`trim_append_append`), and nothing
else is lost (`exists_trim`): every character that is not blank stays as often (`count_trim`), and what
is left stands at the start of the text without its leading blanks (`trim_prefix_trimStart`). A text that trimming leaves
alone (`Trimmed`) is therefore what comes back when it is set between blanks and read again
(`Trimmed.trim_append_append`).
-/

namespace Dialogue.Text

/-- There is nothing to trim at either end. -/
def Trimmed (s : List Char) : Prop := trim s = s

instance : DecidablePred Trimmed := fun s => inferInstanceAs (Decidable (trim s = s))

variable {p q s : List Char} {c : Char}

/-! ## One end at a time -/

theorem isAllBlank_eq_false (hc : c ∈ s) (hblank : isBlank c = false) : isAllBlank s = false := by
  rw [isAllBlank, List.all_eq_false]
  exact ⟨c, hc, by simp [hblank]⟩

theorem exists_of_isAllBlank_eq_false (hs : isAllBlank s = false) :
    ∃ c ∈ s, isBlank c = false := by
  simpa [isAllBlank] using hs

theorem isAllBlank_append : isAllBlank (p ++ q) = (isAllBlank p && isAllBlank q) :=
  List.all_append

theorem isAllBlank_replicate (h : isBlank c = true) (n : Nat) :
    isAllBlank (List.replicate n c) = true := by
  simp [isAllBlank, h]

theorem trimStart_append (hp : isAllBlank p = true) : trimStart (p ++ s) = trimStart s := by
  induction p with
  | nil => rfl
  | cons c p ih =>
    simp only [isAllBlank, List.all_cons, Bool.and_eq_true] at hp
    rw [trimStart, List.cons_append, List.dropWhile_cons_of_pos hp.1]
    exact ih hp.2

theorem trimStart_of_isAllBlank (hs : isAllBlank s = true) : trimStart s = [] := by
  have h := trimStart_append (s := []) hs
  simpa [trimStart] using h

theorem trimStart_cons (hc : isBlank c = false) : trimStart (c :: s) = c :: s := by
  simp [trimStart, hc]

/-- What comes after something that is not blank does not matter at the start. -/
theorem trimStart_append_right (hp : isAllBlank p = false) :
    trimStart (p ++ s) = trimStart p ++ s := by
  induction p with
  | nil => cases hp
  | cons c p ih =>
    by_cases hc : isBlank c = true
    · have htail : isAllBlank p = false := by simpa [isAllBlank, hc] using hp
      simpa [trimStart, hc] using ih htail
    · simp [trimStart, hc]

theorem trimEnd_append (hq : isAllBlank q = true) : trimEnd (s ++ q) = trimEnd s := by
  have hrev : isAllBlank q.reverse = true := by simpa [isAllBlank] using hq
  have h := trimStart_append (s := s.reverse) hrev
  unfold trimStart at h
  rw [trimEnd, List.reverse_append, h, ← trimEnd]

/-- What comes before something that is not blank does not matter at the end. -/
theorem trimEnd_append_right (hq : isAllBlank q = false) :
    trimEnd (s ++ q) = s ++ trimEnd q := by
  have hrev : isAllBlank q.reverse = false := by simpa [isAllBlank] using hq
  have h := trimStart_append_right (s := s.reverse) hrev
  unfold trimStart at h
  rw [trimEnd, List.reverse_append, h, List.reverse_append, List.reverse_reverse, ← trimEnd]

/-! ## Both ends -/

theorem trim_of_isAllBlank (hs : isAllBlank s = true) : trim s = [] := by
  rw [trim, trimStart_of_isAllBlank hs]
  rfl

/-- Blanks at the ends do not count. -/
theorem trim_append_append (hp : isAllBlank p = true) (hq : isAllBlank q = true) :
    trim (p ++ s ++ q) = trim s := by
  rw [trim, List.append_assoc, trimStart_append hp]
  by_cases hs : isAllBlank s = true
  · have hsq : isAllBlank (s ++ q) = true := by rw [isAllBlank_append, hs, hq]; rfl
    rw [trimStart_of_isAllBlank hsq, trim_of_isAllBlank hs]
    rfl
  · rw [Bool.not_eq_true] at hs
    rw [trimStart_append_right hs, trimEnd_append hq, ← trim]

theorem trim_append (hp : isAllBlank p = true) : trim (p ++ s) = trim s := by
  have h := trim_append_append (s := s) (q := []) hp rfl
  rwa [List.append_nil] at h

theorem trim_concat (hc : isBlank c = true) (s : List Char) : trim (s ++ [c]) = trim s :=
  trim_append_append (p := []) rfl (by simp [isAllBlank, hc])

/-- What is left stands at the start of the text without its leading blanks. -/
theorem trim_prefix_trimStart (s : List Char) : trim s <+: trimStart s := by
  rw [trim, trimEnd, ← List.reverse_suffix, List.reverse_reverse]
  exact List.dropWhile_suffix _

theorem length_trim_le (s : List Char) : (trim s).length ≤ s.length :=
  Nat.le_trans (trim_prefix_trimStart s).length_le (List.dropWhile_suffix _).length_le

theorem exists_trimStart (s : List Char) :
    ∃ p, isAllBlank p = true ∧ s = p ++ trimStart s :=
  ⟨s.takeWhile isBlank, List.all_takeWhile, (List.takeWhile_append_dropWhile).symm⟩

/-- Only blanks are trimmed. -/
theorem exists_trim (s : List Char) :
    ∃ p q, isAllBlank p = true ∧ isAllBlank q = true ∧ s = p ++ trim s ++ q := by
  obtain ⟨p, hp, hstart⟩ := exists_trimStart s
  obtain ⟨q, hq, hend⟩ := exists_trimStart (trimStart s).reverse
  have hrev : trimStart s = trim s ++ q.reverse := by
    rw [trim, trimEnd, ← trimStart, ← List.reverse_append, ← hend, List.reverse_reverse]
  refine ⟨p, q.reverse, hp, by simpa [isAllBlank] using hq, ?_⟩
  rw [List.append_assoc, ← hrev]
  exact hstart

theorem count_of_isAllBlank (hs : isAllBlank s = true) (hblank : isBlank c = false) :
    s.count c = 0 := by
  rw [List.count_eq_zero]
  intro hc
  rw [isAllBlank_eq_false hc hblank] at hs
  cases hs

/-- Every character that is not blank stays as often. -/
theorem count_trim (hblank : isBlank c = false) (s : List Char) : (trim s).count c = s.count c := by
  obtain ⟨p, q, hp, hq, hs⟩ := exists_trim s
  have hcount := congrArg (List.count c) hs
  rw [List.count_append, List.count_append, count_of_isAllBlank hp hblank,
    count_of_isAllBlank hq hblank] at hcount
  omega

/-- A character that is not blank is kept. -/
theorem mem_trim (hc : c ∈ s) (hblank : isBlank c = false) : c ∈ trim s := by
  rw [← List.count_pos_iff, count_trim hblank]
  exact List.count_pos_iff.2 hc

/-- What is left after trimming is not blank, if anything is left. -/
theorem isAllBlank_trim (h : trim s ≠ []) : isAllBlank (trim s) = false := by
  have hs : isAllBlank s = false := by
    by_contra hblank
    rw [Bool.not_eq_false] at hblank
    exact h (trim_of_isAllBlank hblank)
  obtain ⟨c, hc, hblank⟩ := exists_of_isAllBlank_eq_false hs
  exact isAllBlank_eq_false (mem_trim hc hblank) hblank

/-- What is added at the end is trimmed away if it is all blank, and only then. -/
theorem trim_append_eq_iff {s q : List Char} : trim (s ++ q) = trim s ↔ isAllBlank q = true := by
  refine ⟨fun h => ?_, fun hq => trim_append_append (p := []) rfl hq⟩
  by_contra hq
  rw [Bool.not_eq_true] at hq
  obtain ⟨c, hc, hblank⟩ := exists_of_isAllBlank_eq_false hq
  have hcount := congrArg (List.count c) h
  rw [count_trim hblank, count_trim hblank, List.count_append] at hcount
  have hpos := List.count_pos_iff.2 hc
  omega

namespace Trimmed

/-- A text set between blanks comes back. -/
theorem trim_append_append (h : Trimmed s) (hp : isAllBlank p = true) (hq : isAllBlank q = true) :
    trim (p ++ s ++ q) = s := by
  rw [Text.trim_append_append hp hq]
  exact h

theorem trim_append (h : Trimmed s) (hp : isAllBlank p = true) : trim (p ++ s) = s := by
  rw [Text.trim_append hp]
  exact h

/-- The first character of a trimmed text is not blank. -/
theorem head (h : Trimmed (c :: s)) : isBlank c = false := by
  by_contra hc
  rw [Bool.not_eq_false] at hc
  have hshort := length_trim_le s
  rw [← Text.trim_append (p := [c]) (by simp [isAllBlank, hc]), List.singleton_append, h,
    List.length_cons] at hshort
  omega

theorem head?_ne (h : Trimmed s) (hc : isBlank c = true) : s.head? ≠ some c := by
  intro hfirst
  obtain ⟨s, rfl⟩ := List.head?_eq_some_iff.1 hfirst
  rw [h.head] at hc
  cases hc

/-- The last character of a trimmed text is not blank. -/
theorem getLast?_ne (h : Trimmed s) (hc : isBlank c = true) : s.getLast? ≠ some c := by
  intro hlast
  obtain ⟨t, rfl⟩ := List.getLast?_eq_some_iff.1 hlast
  have hshort := length_trim_le t
  have hdrop := Text.trim_append_append (p := []) (s := t) (q := [c]) rfl (by simp [isAllBlank, hc])
  rw [List.nil_append, h] at hdrop
  rw [← hdrop, List.length_append, List.length_singleton] at hshort
  omega

/-- A trimmed text with anything in it is not all blank. -/
theorem isAllBlank_of_ne_nil (h : Trimmed s) (hs : s ≠ []) : isAllBlank s = false := by
  by_contra hblank
  rw [Bool.not_eq_false] at hblank
  exact hs (h.symm.trans (trim_of_isAllBlank hblank))

theorem trimStart_eq (h : Trimmed s) : trimStart s = s := by
  cases s with
  | nil => rfl
  | cons c s => exact trimStart_cons h.head

/-- Two trimmed texts with anything between them make a trimmed text. -/
theorem append_append (hp : Trimmed p) (hq : Trimmed q) (hp' : p ≠ []) (hq' : q ≠ [])
    (s : List Char) : Trimmed (p ++ s ++ q) := by
  have hend : trimEnd q = q := by
    rw [← hq.trimStart_eq]
    exact hq.trans hq.trimStart_eq.symm
  rw [Trimmed, trim, List.append_assoc, trimStart_append_right (hp.isAllBlank_of_ne_nil hp'),
    hp.trimStart_eq, ← List.append_assoc, trimEnd_append_right (hq.isAllBlank_of_ne_nil hq'), hend]

end Trimmed

/-- A text without blanks has none to trim. -/
theorem trimmed_of_forall (h : ∀ c ∈ s, isBlank c = false) : Trimmed s := by
  have hstart : trimStart s = s := by
    cases s with
    | nil => rfl
    | cons c s => exact trimStart_cons (h c List.mem_cons_self)
  have hend : s.reverse.dropWhile isBlank = s.reverse := by
    cases hrev : s.reverse with
    | nil => rfl
    | cons c t =>
      have hc : c ∈ s := List.mem_reverse.1 (hrev ▸ List.mem_cons_self)
      exact trimStart_cons (h c hc)
  rw [Trimmed, trim, hstart, trimEnd, hend, List.reverse_reverse]

end Dialogue.Text
