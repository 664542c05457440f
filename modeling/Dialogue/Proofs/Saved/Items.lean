import Dialogue.Saved.Reader
import Dialogue.Proofs.Saved.Tokens

/-!
# Items on lines of their own

The items of a list and the fields of a record stand one a line, each with a comma behind it, and
the closing bracket on the line below (`itemLines`). Where every item is read back before its comma,
so are all of them (`readItems_lines`).
-/

namespace Dialogue.Saved

open Dialogue.Text

variable {α : Type}

/-- Texts on lines of their own, each followed by a comma. -/
def itemLines (d : Nat) (texts : List (List Char)) : List Char :=
  texts.flatMap fun t => indent (d + 1) ++ (t ++ [',', '\n'])

/-- A text that no gap starts with, and no closing bracket. -/
def Starts (s : List Char) : Prop := ∃ c t, s = c :: t ∧ Solid c ∧ c ≠ ']' ∧ c ≠ ')'

theorem itemLines_cons (d : Nat) (t : List Char) (texts : List (List Char)) :
    itemLines d (t :: texts) = indent (d + 1) ++ (t ++ [',', '\n']) ++ itemLines d texts := rfl

/-- The gap before a text is all that stands before it. -/
theorem Starts.skipGap {s : List Char} (h : Starts s) (rest : List Char) :
    skipGap (s ++ rest) = some (s ++ rest) := by
  obtain ⟨c, t, rfl, hc, -⟩ := h
  exact skipGap_solid hc _

/-- A text is no longer than the lines that it is one of, and there are no more lines than
characters. -/
theorem length_le_itemLines (d : Nat) (texts : List (List Char)) :
    texts.length ≤ (itemLines d texts).length ∧
      ∀ t ∈ texts, t.length ≤ (itemLines d texts).length := by
  induction texts with
  | nil => simp [itemLines]
  | cons t texts ih =>
    obtain ⟨hlines, hall⟩ := ih
    simp only [itemLines_cons, List.length_append, List.length_cons, List.length_nil] at hlines ⊢
    refine ⟨by omega, ?_⟩
    intro t' ht'
    obtain rfl | ht' := List.mem_cons.1 ht'
    · omega
    · have hle := hall t' ht'
      omega

/-! ## One item -/

section item

variable {item : Reader α} {close : Char} {n : Nat} {more : Bool} {s s' : List Char}

theorem readItems_congr (h : skipGap s = skipGap s') :
    readItems item close n more s = readItems item close n more s' := by
  unfold readItems
  rw [h]

theorem readItems_close {rest : List Char} (h : skipGap s = some (close :: rest)) :
    readItems item close n more s = some ([], rest) := by
  unfold readItems
  simp [h]

theorem readItems_item {c : Char} {t r u rest : List Char} {a : α} {as : List α}
    (h : skipGap s = some (c :: t)) (hc : c ≠ close) (hitem : item (c :: t) = some (a, r))
    (hcomma : skipComma r = some (more, u))
    (htail : readItems item close n more u = some (as, rest)) :
    readItems item close (n + 1) true s = some (a :: as, rest) := by
  unfold readItems
  simp [h, hc, hitem, hcomma, htail]

end item

/-! ## All items -/

section lines

variable {item : Reader α} {close : Char} {text : α → List Char} {as : List α} (d : Nat)
  (rest : List Char)

/-- Behind the gap before them stand the first item, or the closing bracket. -/
theorem exists_skipGap_lines (hclose : Solid close) (hstarts : ∀ a ∈ as, Starts (text a)) :
    ∃ u, skipGap (itemLines d (as.map text) ++ (indent d ++ close :: rest)) = some u ∧
      skipGap u = some u := by
  cases as with
  | nil =>
    refine ⟨close :: rest, ?_, skipGap_solid hclose rest⟩
    rw [List.map_nil, itemLines, List.flatMap_nil, List.nil_append, skipGap_indent,
      skipGap_solid hclose]
  | cons a as =>
    have ha := hstarts a List.mem_cons_self
    rw [List.map_cons, itemLines_cons, List.append_assoc, List.append_assoc, skipGap_indent,
      List.append_assoc, ha.skipGap]
    exact ⟨_, rfl, ha.skipGap _⟩

/-- Items on lines of their own are read back. -/
theorem readItems_lines (hclose : close = ']' ∨ close = ')')
    (hstarts : ∀ a ∈ as, Starts (text a))
    (hitem : ∀ a ∈ as, ∀ rest, item (text a ++ ',' :: rest) = some (a, ',' :: rest)) {n : Nat}
    (hn : as.length ≤ n) :
    readItems item close n true (itemLines d (as.map text) ++ (indent d ++ close :: rest)) =
      some (as, rest) := by
  have hsolid : Solid close := by
    obtain rfl | rfl := hclose <;> exact ⟨by decide, by decide⟩
  induction as generalizing n with
  | nil =>
    refine readItems_close ?_
    rw [List.map_nil, itemLines, List.flatMap_nil, List.nil_append, skipGap_indent,
      skipGap_solid hsolid]
  | cons a as ih =>
    obtain ⟨n, rfl⟩ := Nat.exists_eq_succ_of_ne_zero (Nat.ne_zero_of_lt hn)
    have hrest : ∀ b ∈ as, Starts (text b) := fun b hb => hstarts b (List.mem_cons_of_mem a hb)
    have htail := ih hrest (fun b hb => hitem b (List.mem_cons_of_mem a hb))
      (Nat.le_of_succ_le_succ hn)
    obtain ⟨u, hu, hself⟩ := exists_skipGap_lines d rest hsolid hrest
    rw [readItems_congr (hu.trans hself.symm)] at htail
    rw [List.map_cons, itemLines_cons, List.append_assoc, List.append_assoc, List.append_assoc]
    generalize itemLines d (as.map text) ++ (indent d ++ close :: rest) = tail at hu
    have hcomma : skipComma (',' :: '\n' :: tail) = some (true, u) := by
      rw [skipComma, skipGap_solid ⟨by decide, by decide⟩]
      simp [skipGap_blank (c := '\n') (by decide), hu]
    have ha := hitem a List.mem_cons_self ('\n' :: tail)
    obtain ⟨c, t, htext, hc, hbrackets⟩ := hstarts a List.mem_cons_self
    have hne : c ≠ close := by
      obtain rfl | rfl := hclose
      · exact hbrackets.1
      · exact hbrackets.2
    rw [htext] at ha ⊢
    refine readItems_item ?_ hne ha hcomma htail
    rw [skipGap_indent]
    exact skipGap_solid hc _

end lines

end Dialogue.Saved
