import Dialogue.Proofs.Script.Joining
import Dialogue.Proofs.Script.Printed
import Dialogue.Script.Starter

/-!
# Header lines, and the new script made of them

A header line is told by its start, so nothing behind the marker is taken for a separator, a
directive or another marker, and a carriage return at the end is a blank like others
(`headerForm_dropReturn`). A value that is all blank is missing, and of any other one only the
blanks around it are lost (`lexLines_header`).

Whatever is put on the two header lines of a new script is therefore read back, as far as it stays
on its line. The separators below give nothing, so a new script lexes to its two header lines
(`lex_starter`), and there is something to report of it exactly if one of the two values is missing
(`diagnostics_starter_eq_nil_iff`).
-/

namespace Dialogue.Script

open Text

/-! ## Header lines -/

theorem Marker.dropReturn_append (m : Marker) (s : List Char) :
    dropReturn (m.text.toList ++ s) = m.text.toList ++ dropReturn s :=
  Text.dropReturn_append (fun hlast => m.return_notMem (List.mem_of_getLast? hlast)) s

theorem headerForm_dropReturn (m : Marker) (kind : String → ElementKind) (value : List Char) :
    headerForm m kind (dropReturn value) = headerForm m kind value := by
  by_cases hlast : value.getLast? = some '\r'
  · obtain ⟨t, rfl⟩ := List.getLast?_eq_some_iff.1 hlast
    rw [dropReturn_concat, headerForm_concat_return]
  · rw [dropReturn_eq_self hlast]

/-- The item that a header line with this value is. -/
def headerItem (n : Nat) (m : Marker) (kind : String → ElementKind) (value : String) :
    Except LexError Element :=
  if isAllBlank value.toList then .error (.directive n (.missingArgument m))
  else .ok ⟨n, 0, kind (trimmed value)⟩

variable {m : Marker} {kind : String → ElementKind}

/-- The value of a header line is what stands behind the marker, up to blanks. -/
theorem headerForm_cons (m : Marker) (kind : String → ElementKind) (value : String) :
    headerForm m kind (' ' :: value.toList) =
      if isAllBlank value.toList then .malformed (.missingArgument m)
      else .whole (kind (trimmed value)) := by
  have htrim : trim (' ' :: value.toList) = trim value.toList := trim_append (p := [' ']) rfl
  rw [headerForm, htrim, trimmed]
  cases hblank : isAllBlank value.toList with
  | true =>
    rw [if_pos (trim_of_isAllBlank hblank)]
    rfl
  | false =>
    obtain ⟨c, hc, hvisible⟩ := exists_of_isAllBlank_eq_false hblank
    rw [if_neg (List.ne_nil_of_mem (mem_trim hc hvisible))]
    rfl

theorem errorsOf_headerItem_cons_eq_nil_iff {n : Nat} {value : String}
    {items : List (Except LexError Element)} :
    errorsOf (headerItem n m kind value :: items) = [] ↔
      isAllBlank value.toList = false ∧ errorsOf items = [] := by
  rw [headerItem]
  cases isAllBlank value.toList with
  | true => simp [errorsOf]
  | false => simp [errorsOf]

/-- A header line is an item of its own, whatever its value looks like. -/
theorem lexLines_header (hm : m = .title ∨ m = .npc)
    (hclass : ∀ value, classify (m.text.toList ++ value) = headerForm m kind value)
    (n : Nat) (value : String) (ls : List Line) :
    lexLines (⟨n, dropReturn (m.text.toList ++ ' ' :: value.toList)⟩ :: ls) =
      headerItem n m kind value :: lexLines ls := by
  have hrow : dropReturn (m.text.toList ++ ' ' :: value.toList) =
      m.text.toList ++ dropReturn (' ' :: value.toList) := m.dropReturn_append _
  have hcolon : ':' ∈ m.text.toList := by
    obtain rfl | rfl := hm <;> decide
  have hsep : isSeparator (m.text.toList ++ dropReturn (' ' :: value.toList)) = false :=
    isSeparator_eq_false (List.mem_append_left _ hcolon) (by decide) (by decide) (by decide)
  have hdepth : depthOf (m.text.toList ++ dropReturn (' ' :: value.toList)) = 0 := by
    refine depthOf_tabs 0 ?_
    obtain rfl | rfl := hm <;> simp [Marker.text]
  have hform := hclass (dropReturn (' ' :: value.toList))
  rw [headerForm_dropReturn, headerForm_cons] at hform
  rw [hrow, headerItem]
  split at hform
  · next hblank => rw [lexLines_malformed (l := ⟨n, _⟩) hsep hform, if_pos hblank]
  · next hvalue => rw [lexLines_whole (l := ⟨n, _⟩) hsep hform, hdepth, if_neg hvalue]

/-! ## The new script -/

variable {title conversant : String}

/-- The rows of a new script. -/
theorem splitOn_starter (htitle : '\n' ∉ title.toList) (hconversant : '\n' ∉ conversant.toList) :
    (starter title conversant).toList.splitOn '\n' =
      [Marker.title.text.toList ++ ' ' :: title.toList,
        Marker.npc.text.toList ++ ' ' :: conversant.toList,
        ['-', '-', '-'], [], ['=', '=', '=']] ++ [[]] := by
  have htext : (starter title conversant).toList =
      (Marker.title.text.toList ++ ' ' :: title.toList) ++
        '\n' :: ((Marker.npc.text.toList ++ ' ' :: conversant.toList) ++
          '\n' :: "---\n\n===\n".toList) := by
    simp [starter]
  have hfirst : '\n' ∉ Marker.title.text.toList ++ ' ' :: title.toList := by
    simp [Marker.feed_notMem, htitle]
  have hsecond : '\n' ∉ Marker.npc.text.toList ++ ' ' :: conversant.toList := by
    simp [Marker.feed_notMem, hconversant]
  have hrest : "---\n\n===\n".toList.splitOn '\n' = [['-', '-', '-'], [], ['=', '=', '='], []] := by
    decide
  rw [htext, List.splitOn_append_cons_self, List.splitOn_append_cons_self,
    List.splitOn_eq_singleton hfirst, List.splitOn_eq_singleton hsecond, hrest]
  rfl

/-- A new script lexes to its two header lines. -/
theorem lex_starter (htitle : '\n' ∉ title.toList) (hconversant : '\n' ∉ conversant.toList) :
    lex (starter title conversant) =
      [headerItem 1 .title .title title, headerItem 2 .npc .conversant conversant] := by
  have hmark : (starter title conversant).toList.head? ≠ some '\ufeff' := by
    simp [starter, Marker.text]
  have hrows := splitOn_starter htitle hconversant
  rw [← dropByteOrderMark_eq_self hmark] at hrows
  have hheld : ∀ (m : Marker) (s : List Char),
      isAllBlank (dropReturn (m.text.toList ++ s)) = false := by
    intro m s
    rw [m.dropReturn_append, isAllBlank_append, m.isAllBlank_text, Bool.false_and]
  -- the empty body has no line, but it counts, so the last line is the fifth
  have hlines : sourceLines (starter title conversant).toList =
      [⟨1, dropReturn (Marker.title.text.toList ++ ' ' :: title.toList)⟩,
        ⟨2, dropReturn (Marker.npc.text.toList ++ ' ' :: conversant.toList)⟩,
        ⟨3, ['-', '-', '-']⟩, ⟨5, ['=', '=', '=']⟩] := by
    rw [sourceLines_eq_append hrows]
    simp only [List.map_cons, numbered_cons, List.filter_cons, hheld]
    rfl
  rw [lex, hlines, lexLines_header (.inl rfl) classify_title,
    lexLines_header (.inr rfl) classify_npc, lexLines_separator (by decide),
    lexLines_separator (by decide), lexLines_nil]

/-- A new script without a missing value makes a forest of its two header lines. -/
theorem parse_starter (htitle : '\n' ∉ title.toList) (hconversant : '\n' ∉ conversant.toList)
    (ht : isAllBlank title.toList = false) (hc : isAllBlank conversant.toList = false) :
    parse (starter title conversant) =
      ⟨.ok [⟨0, 0, 1, none, .title (trimmed title)⟩,
        ⟨1, 0, 2, none, .conversant (trimmed conversant)⟩], []⟩ := by
  have hlex : lex (starter title conversant) =
      [.ok ⟨1, 0, .title (trimmed title)⟩, .ok ⟨2, 0, .conversant (trimmed conversant)⟩] := by
    rw [lex_starter htitle hconversant, headerItem, headerItem, ht, hc]
    rfl
  rw [parse, hlex]
  rfl

/-- Nothing is reported of a new script exactly if neither value is missing. -/
theorem diagnostics_starter_eq_nil_iff (htitle : '\n' ∉ title.toList)
    (hconversant : '\n' ∉ conversant.toList) :
    (parse (starter title conversant)).diagnostics = [] ↔
      isAllBlank title.toList = false ∧ isAllBlank conversant.toList = false := by
  constructor
  · intro h
    have herrors : errorsOf (lex (starter title conversant)) = [] :=
      List.map_eq_nil_iff.1 (List.append_eq_nil_iff.1 h).1
    rw [lex_starter htitle hconversant, errorsOf_headerItem_cons_eq_nil_iff,
      errorsOf_headerItem_cons_eq_nil_iff] at herrors
    exact ⟨herrors.1, herrors.2.1⟩
  · rintro ⟨ht, hc⟩
    rw [parse_starter htitle hconversant ht hc]

end Dialogue.Script
