import Mathlib.Data.List.Basic
import Dialogue.Proofs.Text.Rows
import Dialogue.Script.Lexer

/-!
# The items of a script, one after another

What the first line of a script gives, and which lines are left then, is settled by its form: one
equation of `lexLines` for each. All proofs about lexing go through these, in an induction along
`lexLines` itself.
-/

namespace Dialogue.Script

open Dialogue.Text

variable {l : Line} {ls : List Line}

/-- Whether the item is the error that a block is never closed. -/
def isUnterminated : Except LexError Element → Bool
  | .error (.directive _ (.unterminated _)) => true
  | .error _ | .ok _ => false

@[simp]
theorem lexLines_nil : lexLines [] = [] := by
  rw [lexLines]

/-! ## The first line -/

theorem lexLines_separator (h : isSeparator l.text = true) : lexLines (l :: ls) = lexLines ls := by
  rw [lexLines, if_pos h]

theorem lexLines_whole (hs : isSeparator l.text = false) {kind : ElementKind}
    (hc : classify l.text = .whole kind) :
    lexLines (l :: ls) = .ok ⟨l.number, depthOf l.text, kind⟩ :: lexLines ls := by
  rw [lexLines, if_neg (by simp [hs]), hc]

theorem lexLines_malformed (hs : isSeparator l.text = false) {error : DirectiveError}
    (hc : classify l.text = .malformed error) :
    lexLines (l :: ls) = .error (.directive l.number error) :: lexLines ls := by
  rw [lexLines, if_neg (by simp [hs]), hc]

theorem lexLines_unrecognized (hs : isSeparator l.text = false)
    (hc : classify l.text = .unrecognized) :
    lexLines (l :: ls) =
      .error (.unrecognized l.number (String.ofList (trim l.text))) :: lexLines ls := by
  rw [lexLines, if_neg (by simp [hs]), hc]

theorem lexLines_unterminated (hs : isSeparator l.text = false) {block : Block}
    (hc : classify l.text = .opens block) (hsplit : splitBlock? (l :: ls) = none) :
    lexLines (l :: ls) = [.error (.directive l.number (.unterminated block.marker))] := by
  rw [lexLines, if_neg (by simp [hs]), hc]
  simp only
  split
  · rfl
  · next hsome =>
    rw [hsplit] at hsome
    cases hsome

theorem lexLines_block (hs : isSeparator l.text = false) {block : Block}
    (hc : classify l.text = .opens block) {body rest : List Line}
    (hsplit : splitBlock? (l :: ls) = some (body, rest)) :
    lexLines (l :: ls) =
      .ok ⟨l.number, depthOf l.text, block.kind (blockBody block.marker body)⟩ ::
        lexLines rest := by
  rw [lexLines, if_neg (by simp [hs]), hc]
  simp only
  split
  · next hnone =>
    rw [hsplit] at hnone
    cases hnone
  · next hsome =>
    rw [hsplit] at hsome
    cases hsome
    rfl

/-! ## Numbered lines -/

/-- Rows as lines, numbered from here on. -/
def numbered (n : Nat) (rows : List (List Char)) : List Line :=
  (rows.zipIdx n).map fun (text, number) => ⟨number, text⟩

theorem numbered_cons (n : Nat) (row : List Char) (rows : List (List Char)) :
    numbered n (row :: rows) = ⟨n, row⟩ :: numbered (n + 1) rows := rfl

theorem numbered_append (n : Nat) (rows rows' : List (List Char)) :
    numbered n (rows ++ rows') = numbered n rows ++ numbered (n + rows.length) rows' := by
  rw [numbered, List.zipIdx_append, List.map_append]
  rfl

theorem map_text_numbered (n : Nat) (rows : List (List Char)) :
    (numbered n rows).map Line.text = rows := by
  rw [numbered, List.map_map]
  exact List.zipIdx_map_fst n rows

theorem mem_numbered_iff {n : Nat} {rows : List (List Char)} {l : Line} :
    l ∈ numbered n rows ↔ n ≤ l.number ∧ rows[l.number - n]? = some l.text := by
  rw [numbered, List.mem_map]
  constructor
  · rintro ⟨⟨text, number⟩, hmem, rfl⟩
    exact List.mk_mem_zipIdx_iff_le_and_getElem?_sub.1 hmem
  · intro h
    exact ⟨(l.text, l.number), List.mk_mem_zipIdx_iff_le_and_getElem?_sub.2 h, rfl⟩

theorem pairwise_number_numbered (n : Nat) (rows : List (List Char)) :
    (numbered n rows).Pairwise (·.number < ·.number) := by
  induction rows generalizing n with
  | nil => exact .nil
  | cons row rows ih =>
    refine .cons (fun l hl => ?_) (ih (n + 1))
    exact (mem_numbered_iff.1 hl).1

/-- The lines of a script are its numbered rows, apart from the blank ones. -/
theorem sourceLines_eq_filter (s : List Char) :
    sourceLines s = (numbered 1 (lines (dropByteOrderMark s))).filter (!isAllBlank ·.text) := by
  rw [sourceLines, numbered]
  generalize (lines (dropByteOrderMark s)).zipIdx 1 = rows
  induction rows with
  | nil => rfl
  | cons row rows ih => cases hblank : isAllBlank row.1 <;> simp [hblank, ih]

theorem mem_sourceLines_iff {s : List Char} {l : Line} :
    l ∈ sourceLines s ↔
      0 < l.number ∧ (lines (dropByteOrderMark s))[l.number - 1]? = some l.text ∧
        isAllBlank l.text = false := by
  rw [sourceLines_eq_filter, List.mem_filter, mem_numbered_iff, Bool.not_eq_true', and_assoc]
  rfl

theorem pairwise_number_sourceLines (s : List Char) :
    (sourceLines s).Pairwise (·.number < ·.number) := by
  rw [sourceLines_eq_filter]
  exact (pairwise_number_numbered 1 _).filter _

/-- The lines of a text all of whose rows hold something, if there is no mark and no carriage return
to drop. -/
theorem sourceLines_eq_numbered {s : List Char} (hmark : s.head? ≠ some '\ufeff')
    (h : ∀ row ∈ s.splitOn '\n', isAllBlank row = false ∧ row.getLast? ≠ some '\r') :
    sourceLines s = numbered 1 (s.splitOn '\n') := by
  have hlines : lines s = s.splitOn '\n' := by
    refine lines_eq_splitOn fun row hrow => ⟨?_, (h row hrow).2⟩
    rintro rfl
    cases (h [] hrow).1
  rw [sourceLines, dropByteOrderMark_eq_self hmark, hlines, numbered, ← List.filterMap_eq_map]
  refine List.filterMap_congr fun p hp => ?_
  simp [(h p.1 (List.fst_mem_of_mem_zipIdx hp)).1]

/-! ## Blocks -/

/-- The lines through the first one that closes a block are found behind lines that do not. -/
theorem splitBlock?_append {body : List Line} {last : Line} (rest : List Line)
    (hbody : ∀ l ∈ body, occursIn closeMarker.toList l.text = false)
    (hlast : occursIn closeMarker.toList last.text = true) :
    splitBlock? (body ++ last :: rest) = some (body ++ [last], rest) := by
  induction body with
  | nil => simp [splitBlock?, hlast]
  | cons l body ih =>
    have htail := ih fun l' hl' => hbody l' (List.mem_cons_of_mem l hl')
    simp [splitBlock?, hbody l List.mem_cons_self, htail]

theorem splitBlock?_eq_none_iff {ls : List Line} :
    splitBlock? ls = none ↔ ∀ l ∈ ls, occursIn closeMarker.toList l.text = false := by
  induction ls with
  | nil => simp [splitBlock?]
  | cons l ls ih => cases h : occursIn closeMarker.toList l.text <;> simp [splitBlock?, h, ih]

/-- A block ends with the first line that closes it. -/
theorem splitBlock?_eq_some_iff {ls body rest : List Line} :
    splitBlock? ls = some (body, rest) ↔ ∃ front last, body = front ++ [last] ∧ ls = body ++ rest ∧
      (∀ l ∈ front, occursIn closeMarker.toList l.text = false) ∧
      occursIn closeMarker.toList last.text = true := by
  constructor
  · intro h
    induction ls generalizing body with
    | nil => cases h
    | cons l ls ih =>
      rw [splitBlock?] at h
      split at h
      · next hclose =>
        cases h
        exact ⟨[], l, rfl, rfl, List.forall_mem_nil _, hclose⟩
      · next hopen =>
        obtain ⟨⟨body', rest'⟩, hsplit, heq⟩ := Option.map_eq_some_iff.1 h
        cases heq
        obtain ⟨front, last, rfl, rfl, hfront, hlast⟩ := ih hsplit
        refine ⟨l :: front, last, rfl, rfl, ?_, hlast⟩
        intro l' hl'
        obtain rfl | hl' := List.mem_cons.1 hl'
        · simpa using hopen
        · exact hfront l' hl'
  · rintro ⟨front, last, rfl, rfl, hfront, hlast⟩
    rw [List.append_assoc, List.singleton_append, splitBlock?_append rest hfront hlast]

/-- A block that is closed ends before further lines. -/
theorem splitBlock?_append_of_some {ls body rest : List Line}
    (h : splitBlock? ls = some (body, rest)) (more : List Line) :
    splitBlock? (ls ++ more) = some (body, rest ++ more) := by
  obtain ⟨front, last, hbody, rfl, hfront, hlast⟩ := splitBlock?_eq_some_iff.1 h
  exact splitBlock?_eq_some_iff.2 ⟨front, last, hbody, List.append_assoc _ _ _, hfront, hlast⟩

/-- A block that is not closed before the last line is closed by that line or not at all. -/
theorem splitBlock?_concat {front : List Line}
    (hfront : ∀ l ∈ front, occursIn closeMarker.toList l.text = false) (last : Line) :
    splitBlock? (front ++ [last]) =
      if occursIn closeMarker.toList last.text then some (front ++ [last], []) else none := by
  split
  · next hlast => exact splitBlock?_append [] hfront hlast
  · next hlast =>
    rw [splitBlock?_eq_none_iff]
    intro l hl
    obtain hl | hl := List.mem_append.1 hl
    · exact hfront l hl
    · rw [List.mem_singleton.1 hl]
      simpa using hlast

/-! ## Where an element stands -/

/-- An element stands on a line that is the whole of it or opens the block that it is. -/
theorem exists_line_of_mem_lexLines {ls : List Line} {e : Element} (h : .ok e ∈ lexLines ls) :
    ∃ l ∈ ls, e.line = l.number ∧
      (classify l.text = .whole e.kind ∨
        ∃ block body, classify l.text = .opens block ∧ e.kind = Block.kind body block) := by
  induction ls using lexLines.induct with
  | case1 => simp at h
  | case2 l ls hs ih =>
    rw [lexLines_separator hs] at h
    obtain ⟨l', hl', hstands⟩ := ih h
    exact ⟨l', List.mem_cons_of_mem l hl', hstands⟩
  | case3 l ls hs kind hc ih =>
    rw [Bool.not_eq_true] at hs
    rw [lexLines_whole hs hc] at h
    obtain h | h := List.mem_cons.1 h
    · cases h
      exact ⟨l, List.mem_cons_self, rfl, .inl hc⟩
    · obtain ⟨l', hl', hstands⟩ := ih h
      exact ⟨l', List.mem_cons_of_mem l hl', hstands⟩
  | case4 l ls hs error hc ih =>
    rw [Bool.not_eq_true] at hs
    rw [lexLines_malformed hs hc] at h
    obtain h | h := List.mem_cons.1 h
    · cases h
    · obtain ⟨l', hl', hstands⟩ := ih h
      exact ⟨l', List.mem_cons_of_mem l hl', hstands⟩
  | case5 l ls hs hc ih =>
    rw [Bool.not_eq_true] at hs
    rw [lexLines_unrecognized hs hc] at h
    obtain h | h := List.mem_cons.1 h
    · cases h
    · obtain ⟨l', hl', hstands⟩ := ih h
      exact ⟨l', List.mem_cons_of_mem l hl', hstands⟩
  | case6 l ls hs block hc hsplit =>
    rw [Bool.not_eq_true] at hs
    rw [lexLines_unterminated hs hc hsplit, List.mem_singleton] at h
    cases h
  | case7 l ls hs block hc body rest hsplit ih =>
    rw [Bool.not_eq_true] at hs
    rw [lexLines_block hs hc hsplit] at h
    obtain h | h := List.mem_cons.1 h
    · cases h
      exact ⟨l, List.mem_cons_self, rfl, .inr ⟨block, _, hc, rfl⟩⟩
    · obtain ⟨l', hl', hstands⟩ := ih h
      obtain ⟨front, last, -, hlines, -, -⟩ := splitBlock?_eq_some_iff.1 hsplit
      exact ⟨l', hlines ▸ List.mem_append_right body hl', hstands⟩

end Dialogue.Script
