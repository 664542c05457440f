import Mathlib.Data.List.Basic
import Dialogue.Text.Blank
import Dialogue.Text.Lines

/-!
# The rows of a text

The rows of a text are what stands between its line feeds. Its lines are the rows without the
carriage returns that belong to the line ends, and without the last row if that is empty. Where no
row ends in a carriage return the two are the same (`lines_eq_splitOn`, and `filter_lines` for the
rows that hold something), and a text whose line ends all have their carriage return has the lines
of the text without (`filter_lines_withReturns`).
-/

namespace Dialogue.Text

/-- The text with a carriage return before every line feed. -/
def withReturns (s : List Char) : List Char :=
  s.flatMap fun c => if c = '\n' then ['\r', '\n'] else [c]

variable {p s row : List Char}

/-- Only a mark at the very start is dropped. -/
theorem dropByteOrderMark_eq_self (h : s.head? ≠ some '\ufeff') : dropByteOrderMark s = s := by
  cases s with
  | nil => rfl
  | cons c s =>
    have hc : ¬ c = '\ufeff' := by simpa using h
    rw [dropByteOrderMark, if_neg hc]

/-! ## Rows -/

theorem splitOn_append_left (hp : '\n' ∉ p) (s : List Char) :
    (p ++ s).splitOn '\n' = (s.splitOn '\n').modifyHead (p ++ ·) := by
  induction p with
  | nil => cases h : s.splitOn '\n' <;> simp [h]
  | cons c p ih =>
    rw [List.mem_cons, not_or] at hp
    have hc : ¬ c = '\n' := fun h => hp.1 h.symm
    rw [List.cons_append, List.splitOn_cons_eq_if_modifyHead, ih hp.2]
    cases s.splitOn '\n' <;> simp [hc]

theorem splitOn_append_right (hp : '\n' ∉ p) (s : List Char) :
    (s ++ p).splitOn '\n' = (s.splitOn '\n').dropLast ++
      [(s.splitOn '\n').getLast (List.splitOn_ne_nil '\n' s) ++ p] := by
  induction s with
  | nil =>
    have hone : p.splitOn '\n' = [p] := List.splitOn_eq_singleton hp
    simp [hone]
  | cons c s ih =>
    obtain ⟨row, rows, hrows⟩ := List.exists_cons_of_ne_nil (List.splitOn_ne_nil '\n' s)
    simp only [List.cons_append, List.splitOn_cons_eq_if_modifyHead, hrows] at ih ⊢
    by_cases hc : c = '\n'
    · simp [hc, ih]
    · cases rows <;> simp [hc, ih]

/-- A text between two pieces without line feeds: the pieces join its first and its last row. -/
theorem splitOn_enclosed {post : List Char} (hp : '\n' ∉ p) (hpost : '\n' ∉ post)
    {init : List (List Char)} {last : List Char} (h : s.splitOn '\n' = init ++ [last]) :
    (p ++ (s ++ post)).splitOn '\n' = (init ++ [last ++ post]).modifyHead (p ++ ·) := by
  simp [splitOn_append_left hp, splitOn_append_right hpost, h]

/-- The rows of texts one below the other. -/
theorem splitOn_intercalate_eq_flatMap {texts : List (List Char)} (h : texts ≠ []) :
    (['\n'].intercalate texts).splitOn '\n' = texts.flatMap (·.splitOn '\n') := by
  induction texts with
  | nil => exact absurd rfl h
  | cons text texts ih =>
    cases texts with
    | nil => simp
    | cons next texts =>
      rw [List.intercalate_cons_cons, List.append_assoc, List.singleton_append,
        List.splitOn_append_cons_of_beq _ _ (beq_self_eq_true _), ih (List.cons_ne_nil _ _)]
      rfl

theorem notMem_of_mem_splitOn (h : row ∈ s.splitOn '\n') : '\n' ∉ row := by
  induction s generalizing row with
  | nil => simp_all
  | cons c s ih =>
    obtain ⟨first, rows, hrows⟩ := List.exists_cons_of_ne_nil (List.splitOn_ne_nil '\n' s)
    rw [hrows] at ih
    rw [List.splitOn_cons_eq_if_modifyHead, hrows] at h
    by_cases hc : c = '\n'
    · simp only [hc, beq_self_eq_true, if_true, List.mem_cons] at h
      obtain rfl | h := h
      · exact List.not_mem_nil
      · exact ih (List.mem_cons.2 h)
    · have hne : ¬ '\n' = c := fun h => hc h.symm
      simp only [beq_iff_eq, hc, if_false, List.modifyHead_cons, List.mem_cons] at h
      obtain rfl | h := h
      · simpa [hne] using ih List.mem_cons_self
      · exact ih (List.mem_cons_of_mem first h)

/-- Every line feed starts another row. -/
theorem length_splitOn (s : List Char) : (s.splitOn '\n').length = s.count '\n' + 1 := by
  induction s with
  | nil => simp
  | cons c s ih =>
    rw [List.splitOn_cons_eq_if_modifyHead]
    by_cases hc : c = '\n' <;> simp [hc, ih]

/-- A row stands in the text in one piece. -/
theorem infix_of_mem_splitOn (h : row ∈ s.splitOn '\n') : row <:+: s := by
  have hs : ['\n'].intercalate (s.splitOn '\n') = s := List.intercalate_splitOn '\n'
  generalize s.splitOn '\n' = rows at h hs
  subst hs
  induction rows with
  | nil => cases h
  | cons first rows ih =>
    cases rows with
    | nil =>
      rw [List.mem_singleton.1 h]
      exact ⟨[], [], by simp [List.intercalate]⟩
    | cons second rows =>
      rw [List.intercalate_cons_cons]
      obtain rfl | h := List.mem_cons.1 h
      · exact ⟨[], '\n' :: ['\n'].intercalate (second :: rows), by simp⟩
      · exact (ih h).trans (List.suffix_append _ _).isInfix

/-! ## Lines -/

theorem dropReturn_eq_self (h : row.getLast? ≠ some '\r') : dropReturn row = row := by
  rw [dropReturn, if_neg h]

theorem dropReturn_concat (row : List Char) : dropReturn (row ++ ['\r']) = row := by
  simp [dropReturn]

/-- The return at the end of a row is at the end of what comes last in it. -/
theorem dropReturn_append {p : List Char} (hp : p.getLast? ≠ some '\r') (s : List Char) :
    dropReturn (p ++ s) = p ++ dropReturn s := by
  by_cases hlast : s.getLast? = some '\r'
  · obtain ⟨t, rfl⟩ := List.getLast?_eq_some_iff.1 hlast
    rw [← List.append_assoc, dropReturn_concat, dropReturn_concat]
  · have hwhole : (p ++ s).getLast? ≠ some '\r' := by
      rw [List.getLast?_append]
      rcases hs : s.getLast? with _ | c
      · exact hp
      · rw [hs] at hlast
        exact hlast
    rw [dropReturn_eq_self hwhole, dropReturn_eq_self hlast]

theorem isAllBlank_dropReturn (h : isAllBlank row = true) : isAllBlank (dropReturn row) = true := by
  unfold dropReturn
  split
  · simp only [isAllBlank, List.all_eq_true] at h ⊢
    intro c hc
    exact h c ((List.dropLast_sublist row).subset hc)
  · exact h

/-- The rows before the last one lose their carriage return, and an empty last one is none. -/
theorem lines_eq {init : List (List Char)} {last : List Char}
    (h : s.splitOn '\n' = init ++ [last]) :
    lines s = init.map dropReturn ++ [last].filter (· ≠ []) := by
  simp [lines, h]

theorem exists_splitOn_eq (s : List Char) : ∃ init last, s.splitOn '\n' = init ++ [last] :=
  ⟨_, _, (List.dropLast_append_getLast (List.splitOn_ne_nil '\n' s)).symm⟩

/-- The rows of a text are its lines, if each holds something and none ends in a carriage return. -/
theorem lines_eq_splitOn (h : ∀ row ∈ s.splitOn '\n', row ≠ [] ∧ row.getLast? ≠ some '\r') :
    lines s = s.splitOn '\n' := by
  obtain ⟨init, last, hrows⟩ := exists_splitOn_eq s
  rw [lines_eq hrows]
  rw [hrows] at h ⊢
  have hinit : init.map dropReturn = init.map id :=
    List.map_congr_left fun row hrow => dropReturn_eq_self (h row (by simp [hrow])).2
  rw [hinit, List.map_id]
  simp [(h last (by simp)).1]

theorem filter_nonempty (rows : List (List Char)) :
    (rows.filter (· ≠ [])).filter (!isAllBlank ·) = rows.filter (!isAllBlank ·) := by
  rw [List.filter_filter]
  refine List.filter_congr fun row _ => ?_
  cases row <;> simp [isAllBlank]

/-- The rows that hold something are the lines that do, if none of them ends in a return. -/
theorem filter_lines
    (h : ∀ row ∈ s.splitOn '\n', isAllBlank row = false → row.getLast? ≠ some '\r') :
    (lines s).filter (!isAllBlank ·) = (s.splitOn '\n').filter (!isAllBlank ·) := by
  obtain ⟨init, last, hrows⟩ := exists_splitOn_eq s
  rw [lines_eq hrows]
  rw [hrows] at h ⊢
  have hinit : (init.map dropReturn).filter (!isAllBlank ·) = init.filter (!isAllBlank ·) := by
    have hkeep : ∀ row ∈ init, dropReturn row = row ∨ isAllBlank row = true := by
      intro row hrow
      by_cases hblank : isAllBlank row = true
      · exact .inr hblank
      · exact .inl (dropReturn_eq_self (h row (by simp [hrow]) (by simpa using hblank)))
    clear h hrows
    induction init with
    | nil => rfl
    | cons row init ih =>
      have htail := ih fun r hr => hkeep r (List.mem_cons_of_mem row hr)
      obtain hsame | hblank := hkeep row List.mem_cons_self
      · simp [hsame, htail, List.filter_cons]
      · simp [hblank, isAllBlank_dropReturn hblank, htail]
  rw [List.filter_append, List.filter_append, hinit, filter_nonempty]

/-! ## Carriage returns before the line feeds -/

/-- Every row but the last one is followed by a line feed. -/
theorem intercalate_concat (init : List (List Char)) (last : List Char) :
    ['\n'].intercalate (init ++ [last]) = init.flatMap (· ++ ['\n']) ++ last := by
  induction init with
  | nil => simp
  | cons row init ih =>
    have hne : init ++ [last] ≠ [] := by simp
    obtain ⟨first, rest, hrest⟩ := List.exists_cons_of_ne_nil hne
    rw [List.cons_append, hrest, List.intercalate_cons_cons, ← hrest, ih]
    simp

theorem withReturns_append (p s : List Char) :
    withReturns (p ++ s) = withReturns p ++ withReturns s :=
  List.flatMap_append

theorem withReturns_of_notMem (h : '\n' ∉ s) : withReturns s = s := by
  induction s with
  | nil => rfl
  | cons c s ih =>
    rw [List.mem_cons, not_or] at h
    have hc : ¬ c = '\n' := fun heq => h.1 heq.symm
    have htail := ih h.2
    unfold withReturns at htail ⊢
    simp [hc, htail]

/-- Every row but the last one ends in the carriage return. -/
theorem splitOn_withReturns {init : List (List Char)} {last : List Char}
    (h : s.splitOn '\n' = init ++ [last]) :
    (withReturns s).splitOn '\n' = init.map (· ++ ['\r']) ++ [last] := by
  have hfeed : ∀ row ∈ init ++ [last], '\n' ∉ row := fun row hrow =>
    notMem_of_mem_splitOn (h ▸ hrow)
  have hs : s = init.flatMap (· ++ ['\n']) ++ last := by
    rw [← intercalate_concat, ← h]
    exact (List.intercalate_splitOn '\n').symm
  have hrows : withReturns (init.flatMap (· ++ ['\n'])) =
      (init.map (· ++ ['\r'])).flatMap (· ++ ['\n']) := by
    clear h hs
    induction init with
    | nil => rfl
    | cons row init ih =>
      have hrow : withReturns (row ++ ['\n']) = row ++ ['\r', '\n'] := by
        rw [withReturns_append, withReturns_of_notMem (hfeed row (by simp))]
        rfl
      rw [List.flatMap_cons, withReturns_append, hrow, ih fun r hr => hfeed r (by simp_all)]
      simp
  rw [hs, withReturns_append, hrows, withReturns_of_notMem (hfeed last (by simp)),
    ← intercalate_concat]
  refine List.splitOn_intercalate '\n' ?_ (by simp)
  intro row hrow
  rw [List.mem_append, List.mem_map, List.mem_singleton] at hrow
  obtain ⟨r, hr, rfl⟩ | rfl := hrow
  · simpa using hfeed r (by simp [hr])
  · exact hfeed row (by simp)

/-- The rows that hold something are the lines that do, once every line feed has its carriage
return. -/
theorem filter_lines_withReturns (s : List Char) :
    (lines (withReturns s)).filter (!isAllBlank ·) = (s.splitOn '\n').filter (!isAllBlank ·) := by
  obtain ⟨init, last, hrows⟩ := exists_splitOn_eq s
  rw [lines_eq (splitOn_withReturns hrows), hrows, List.map_map]
  have hinit : init.map (dropReturn ∘ (· ++ ['\r'])) = init.map id :=
    List.map_congr_left fun row _ => dropReturn_concat row
  rw [hinit, List.map_id, List.filter_append, List.filter_append,
    filter_nonempty]

end Dialogue.Text
