import Dialogue.Proofs.Script.Forms
import Dialogue.Proofs.Script.Numbering

/-!
# Scripts one below the other

Between two items the lexer remembers nothing, so where every block of a script is closed, the items
of what stands below it are added to its own (`lexLines_append`), on later lines (`lex_append`).

Two things happen at the seam. The line feed that joins the scripts ends the last row of the first
one, which on its own is ended by nothing, so a carriage return at its end is now part of the line
end. It makes no difference: the return is a blank that no form holds, and whatever is read of a line
is trimmed (`lexLines_dropReturn`). And a byte order mark at the start of the second script would
now be text, as it is only dropped at the start of a file.
-/

namespace Dialogue

open Text

/-! ## A carriage return at the end of a line -/

namespace Script

theorem Marker.return_notMem (m : Marker) : '\r' ∉ m.text.toList := by
  cases m <;> decide

section line

variable (t : List Char)

theorem isSeparator_concat_return : isSeparator (t ++ ['\r']) = isSeparator t := by
  rw [isSeparator, isSeparator, trim_concat rfl]

theorem depthOf_concat_return : depthOf (t ++ ['\r']) = depthOf t := by
  induction t with
  | nil => rfl
  | cons c t ih =>
    unfold depthOf at ih ⊢
    by_cases hc : c = '\t' <;> simp [hc, ih]

theorem inlineArgument_concat_return (m : Marker) :
    inlineArgument m (t ++ ['\r']) = inlineArgument m t := by
  rw [inlineArgument, inlineArgument, eraseFirst_concat m.text_ne_nil m.return_notMem,
    eraseAll_concat (by decide) (by decide), trim_concat rfl]

theorem headerForm_concat_return (m : Marker) (kind : String → ElementKind) :
    headerForm m kind (t ++ ['\r']) = headerForm m kind t := by
  rw [headerForm, headerForm, trim_concat rfl]

theorem speech?_concat_return : speech? (t ++ ['\r']) = speech? t := by
  cases t with
  | nil => rfl
  | cons c s =>
    by_cases hcolon : ':' ∈ s
    · obtain ⟨actor, said, rfl, hactor⟩ := List.eq_append_cons_of_mem hcolon
      have htext : c :: (actor ++ ':' :: said) ++ ['\r'] =
          c :: (actor ++ ':' :: (said ++ ['\r'])) := by simp
      rw [htext, speech?_cons_append c hactor, speech?_cons_append c hactor, trim_concat rfl]
    · rw [List.cons_append, speech?_cons_eq_none c (by simpa using hcolon),
        speech?_cons_eq_none c hcolon]

theorem reply?_concat_return : reply? (t ++ ['\r']) = reply? t := by
  cases t with
  | nil => rfl
  | cons c s =>
    rw [List.cons_append, reply?, reply?, occursIn_concat (by decide) (by decide),
      ← List.cons_append, eraseAll_concat (by decide) (by decide), trim_concat rfl]

theorem classify_concat_return : classify (t ++ ['\r']) = classify t := by
  unfold classify contentForm
  simp only [dropPiece?_concat (Marker.return_notMem _), trim_concat (c := '\r') rfl,
    inlineArgument_concat_return, speech?_concat_return, reply?_concat_return]
  cases dropPiece? Marker.title.text.toList t with
  | some value => exact headerForm_concat_return _ _ _
  | none =>
    cases dropPiece? Marker.npc.text.toList t with
    | some value => exact headerForm_concat_return _ _ _
    | none => rfl

end line

/-- The body of a block whose closing line has a return at its end. -/
theorem blockBody_concat_return (m : Marker) (front : List Line) (n : Nat) (t : List Char) :
    blockBody m (front ++ [⟨n, t ++ ['\r']⟩]) = blockBody m (front ++ [⟨n, t⟩]) := by
  have hjoin : ['\n'].intercalate ((front ++ [(⟨n, t ++ ['\r']⟩ : Line)]).map Line.text) =
      ['\n'].intercalate ((front ++ [(⟨n, t⟩ : Line)]).map Line.text) ++ ['\r'] := by
    rw [List.map_append, List.map_append]
    simp [intercalate_concat]
  unfold blockBody
  simp only [hjoin]
  rw [eraseAll_concat m.text_ne_nil m.return_notMem, eraseAll_concat (by decide) (by decide),
    List.filter_append]
  exact congrArg String.ofList (trim_concat rfl _)

theorem lexLines_singleton_return (n : Nat) (t : List Char) :
    lexLines [⟨n, t ++ ['\r']⟩] = lexLines [⟨n, t⟩] := by
  have hsame := isSeparator_concat_return t
  have hform := classify_concat_return t
  cases hs : isSeparator t with
  | true =>
    rw [hs] at hsame
    rw [lexLines_separator hsame, lexLines_separator hs]
  | false =>
    rw [hs] at hsame
    cases hc : classify t with
    | whole kind =>
      rw [hc] at hform
      rw [lexLines_whole hsame hform, lexLines_whole hs hc, depthOf_concat_return]
    | malformed error =>
      rw [hc] at hform
      rw [lexLines_malformed hsame hform, lexLines_malformed hs hc]
    | unrecognized =>
      rw [hc] at hform
      rw [lexLines_unrecognized hsame hform, lexLines_unrecognized hs hc, trim_concat rfl]
    | opens block =>
      rw [hc] at hform
      have hreturn := splitBlock?_concat (List.forall_mem_nil _) ⟨n, t ++ ['\r']⟩
      have hplain := splitBlock?_concat (List.forall_mem_nil _) ⟨n, t⟩
      have hbody := blockBody_concat_return block.marker [] n t
      rw [occursIn_concat (by decide) (by decide)] at hreturn
      by_cases ht : occursIn closeMarker.toList t = true
      · rw [if_pos ht] at hreturn hplain
        rw [lexLines_block hsame hform hreturn, lexLines_block hs hc hplain, hbody,
          depthOf_concat_return]
      · rw [if_neg ht] at hreturn hplain
        rw [lexLines_unterminated hsame hform hreturn, lexLines_unterminated hs hc hplain]

/-- A return at the end of the last line changes no item. -/
theorem lexLines_concat_return (ls : List Line) (n : Nat) (t : List Char) :
    lexLines (ls ++ [⟨n, t ++ ['\r']⟩]) = lexLines (ls ++ [⟨n, t⟩]) := by
  have hclose : occursIn closeMarker.toList (t ++ ['\r']) = occursIn closeMarker.toList t :=
    occursIn_concat (by decide) (by decide) t
  induction ls using lexLines.induct with
  | case1 =>
    exact lexLines_singleton_return n t
  | case2 l ls hs ih =>
    rw [List.cons_append, List.cons_append, lexLines_separator hs, lexLines_separator hs, ih]
  | case3 l ls hs kind hc ih =>
    rw [Bool.not_eq_true] at hs
    rw [List.cons_append, List.cons_append, lexLines_whole hs hc, lexLines_whole hs hc, ih]
  | case4 l ls hs error hc ih =>
    rw [Bool.not_eq_true] at hs
    rw [List.cons_append, List.cons_append, lexLines_malformed hs hc, lexLines_malformed hs hc, ih]
  | case5 l ls hs hc ih =>
    rw [Bool.not_eq_true] at hs
    rw [List.cons_append, List.cons_append, lexLines_unrecognized hs hc,
      lexLines_unrecognized hs hc, ih]
  | case6 l ls hs block hc hsplit =>
    rw [Bool.not_eq_true] at hs
    have hlong := fun last => splitBlock?_concat (splitBlock?_eq_none_iff.1 hsplit) last
    have hreturn := hlong ⟨n, t ++ ['\r']⟩
    have hplain := hlong ⟨n, t⟩
    rw [hclose] at hreturn
    by_cases ht : occursIn closeMarker.toList t = true
    · rw [if_pos ht] at hreturn hplain
      rw [List.cons_append] at hreturn hplain ⊢
      rw [List.cons_append, lexLines_block hs hc hreturn, lexLines_block hs hc hplain,
        ← List.cons_append, blockBody_concat_return, List.cons_append]
    · rw [if_neg ht] at hreturn hplain
      rw [List.cons_append] at hreturn hplain ⊢
      rw [List.cons_append, lexLines_unterminated hs hc hreturn,
        lexLines_unterminated hs hc hplain]
  | case7 l ls hs block hc body rest hsplit ih =>
    rw [Bool.not_eq_true] at hs
    have hlong : ∀ last, splitBlock? (l :: (ls ++ [last])) = some (body, rest ++ [last]) :=
      fun last => splitBlock?_append_of_some hsplit [last]
    rw [List.cons_append, List.cons_append, lexLines_block hs hc (hlong _),
      lexLines_block hs hc (hlong _), ih]

/-- Where every block is closed, what stands below adds its own items. -/
theorem lexLines_append {ls : List Line} (h : ∀ item ∈ lexLines ls, isUnterminated item = false)
    (rest : List Line) : lexLines (ls ++ rest) = lexLines ls ++ lexLines rest := by
  induction ls using lexLines.induct with
  | case1 => rw [lexLines_nil, List.nil_append, List.nil_append]
  | case2 l ls hs ih =>
    rw [lexLines_separator hs] at h
    rw [List.cons_append, lexLines_separator hs, lexLines_separator hs, ih h]
  | case3 l ls hs kind hc ih =>
    rw [Bool.not_eq_true] at hs
    rw [lexLines_whole hs hc] at h
    rw [List.cons_append, lexLines_whole hs hc, lexLines_whole hs hc,
      ih (List.forall_mem_cons.1 h).2, List.cons_append]
  | case4 l ls hs error hc ih =>
    rw [Bool.not_eq_true] at hs
    rw [lexLines_malformed hs hc] at h
    rw [List.cons_append, lexLines_malformed hs hc, lexLines_malformed hs hc,
      ih (List.forall_mem_cons.1 h).2, List.cons_append]
  | case5 l ls hs hc ih =>
    rw [Bool.not_eq_true] at hs
    rw [lexLines_unrecognized hs hc] at h
    rw [List.cons_append, lexLines_unrecognized hs hc, lexLines_unrecognized hs hc,
      ih (List.forall_mem_cons.1 h).2, List.cons_append]
  | case6 l ls hs block hc hsplit =>
    rw [Bool.not_eq_true] at hs
    rw [lexLines_unterminated hs hc hsplit, List.forall_mem_singleton] at h
    cases h
  | case7 l ls hs block hc body rest' hsplit ih =>
    rw [Bool.not_eq_true] at hs
    have hlong := splitBlock?_append_of_some hsplit rest
    rw [List.cons_append] at hlong ⊢
    rw [lexLines_block hs hc hsplit] at h ⊢
    rw [lexLines_block hs hc hlong, ih (List.forall_mem_cons.1 h).2, List.cons_append]

/-! ## The seam -/

/-- A row as a line, if it holds something. -/
def heldLine (n : Nat) (row : List Char) : List Line :=
  if isAllBlank row then [] else [⟨n, row⟩]

/-- A return at the end of the last row of a script changes no item. -/
theorem lexLines_dropReturn (ls : List Line) (n : Nat) (row : List Char) :
    lexLines (ls ++ heldLine n (dropReturn row)) = lexLines (ls ++ heldLine n row) := by
  by_cases hlast : row.getLast? = some '\r'
  · obtain ⟨t, rfl⟩ := List.getLast?_eq_some_iff.1 hlast
    have hblank : isAllBlank (t ++ ['\r']) = isAllBlank t := by
      rw [isAllBlank_append]
      exact Bool.and_true _
    rw [dropReturn_concat]
    cases ht : isAllBlank t with
    | true => simp [heldLine, hblank, ht]
    | false => simpa [heldLine, hblank, ht] using (lexLines_concat_return ls n t).symm
  · rw [dropReturn_eq_self hlast]

theorem numbered_add (n k : Nat) (rows : List (List Char)) :
    numbered (n + k) rows = (numbered n rows).map (Line.renumbered (· + k)) := by
  induction rows generalizing n with
  | nil => rfl
  | cons row rows ih =>
    rw [numbered_cons, numbered_cons, List.map_cons, ← ih, Nat.add_right_comm]
    rfl

theorem heldLine_add (n k : Nat) (row : List Char) :
    heldLine (n + k) row = (heldLine n row).map (Line.renumbered (· + k)) := by
  unfold heldLine
  split <;> rfl

/-- The lines of rows, the first one apart. -/
theorem filter_numbered_cons (n : Nat) (row : List Char) (rows : List (List Char)) :
    (numbered n (row :: rows)).filter (!isAllBlank ·.text) =
      heldLine n row ++ (numbered (n + 1) rows).filter (!isAllBlank ·.text) := by
  rw [numbered_cons, List.filter_cons, heldLine]
  cases isAllBlank row <;> rfl

theorem filter_numbered_add (n k : Nat) (rows : List (List Char)) :
    (numbered (n + k) rows).filter (!isAllBlank ·.text) =
      ((numbered n rows).filter (!isAllBlank ·.text)).map (Line.renumbered (· + k)) := by
  rw [numbered_add, List.filter_map]
  rfl

/-- A mark is dropped from the first of two scripts, and only there. -/
theorem dropByteOrderMark_append_feed (s₁ s₂ : List Char) :
    dropByteOrderMark (s₁ ++ '\n' :: s₂) = dropByteOrderMark s₁ ++ '\n' :: s₂ := by
  cases s₁ with
  | nil => rfl
  | cons c s =>
    rw [List.cons_append, dropByteOrderMark, dropByteOrderMark]
    split <;> rfl

theorem count_dropByteOrderMark (s : List Char) :
    (dropByteOrderMark s).count '\n' = s.count '\n' := by
  cases s with
  | nil => rfl
  | cons c s =>
    rw [dropByteOrderMark]
    split
    · next hmark => simp [hmark]
    · rfl

/-- The lines of a script: those of the rows before the last one, and the last row. -/
theorem sourceLines_eq_append {s : List Char} {init : List (List Char)} {last : List Char}
    (h : (dropByteOrderMark s).splitOn '\n' = init ++ [last]) :
    sourceLines s = (numbered 1 (init.map dropReturn)).filter (!isAllBlank ·.text) ++
      heldLine (1 + init.length) last := by
  rw [sourceLines_eq_filter, lines_eq h, numbered_append, List.filter_append, List.length_map]
  congr 1
  by_cases hlast : last = []
  · simp [hlast, heldLine, isAllBlank, numbered]
  · cases hblank : isAllBlank last <;> simp [hlast, heldLine, hblank, numbered]

/-- The lines of two scripts that are joined by a line feed: the last row of the first one is ended
by it, and the second one stands below. -/
theorem exists_sourceLines_append (s₁ : List Char) {s₂ : List Char}
    (hmark : s₂.head? ≠ some '\ufeff') :
    ∃ ls n row, sourceLines s₁ = ls ++ heldLine n row ∧
      sourceLines (s₁ ++ '\n' :: s₂) = ls ++ heldLine n (dropReturn row) ++
        (sourceLines s₂).map (Line.renumbered (· + (s₁.count '\n' + 1))) := by
  obtain ⟨init, last, hrows⟩ := exists_splitOn_eq (dropByteOrderMark s₁)
  obtain ⟨init', last', hrows'⟩ := exists_splitOn_eq s₂
  have hsecond := hrows'
  rw [← dropByteOrderMark_eq_self hmark] at hsecond
  have hjoined : (dropByteOrderMark (s₁ ++ '\n' :: s₂)).splitOn '\n' =
      (init ++ last :: init') ++ [last'] := by
    rw [dropByteOrderMark_append_feed, List.splitOn_append_cons_self, hrows, hrows']
    simp
  have hlength : init.length = s₁.count '\n' := by
    have h := length_splitOn (dropByteOrderMark s₁)
    rw [hrows, count_dropByteOrderMark, List.length_append, List.length_singleton] at h
    omega
  refine ⟨_, _, last, sourceLines_eq_append hrows, ?_⟩
  have hnext : 1 + init.length + 1 = 1 + (s₁.count '\n' + 1) := by omega
  have hend : 1 + (init ++ last :: init').length = 1 + init'.length + (s₁.count '\n' + 1) := by
    rw [List.length_append, List.length_cons]
    omega
  rw [sourceLines_eq_append hjoined, sourceLines_eq_append hsecond, List.map_append, List.map_cons,
    numbered_append, List.filter_append, filter_numbered_cons, List.length_map, hnext,
    filter_numbered_add, hend, heldLine_add (1 + init'.length), List.map_append]
  simp only [List.append_assoc]

end Script

open Script

/-- Lexing is local. Where every block of a script is closed, a script that is put below it adds its
items, each that many lines further down. -/
theorem lex_append {s₁ s₂ : String} (h : ∀ item ∈ lex s₁, isUnterminated item = false)
    (hmark : s₂.toList.head? ≠ some '\ufeff') :
    lex (s₁ ++ "\n" ++ s₂) =
      lex s₁ ++ (lex s₂).map (renumberedItem (· + (s₁.toList.count '\n' + 1))) := by
  obtain ⟨ls, n, row, hlines, hjoined⟩ := exists_sourceLines_append s₁.toList hmark
  have hseam := lexLines_dropReturn ls n row
  rw [← hlines] at hseam
  have htext : (s₁ ++ "\n" ++ s₂).toList = s₁.toList ++ '\n' :: s₂.toList := by simp
  unfold lex at h ⊢
  rw [htext, hjoined, lexLines_append (by rwa [hseam]), hseam, lexLines_renumbered]

/-- A script with a byte order mark, a block with a blank row in it, and a carriage return at its
very end. -/
def upperScript : String := "\ufefftitle: Hall\r\n<<script a\n\nb>>\r"

/-- A script whose last block is not closed. -/
def lowerScript : String := "---\r\nBob: Hi!\n<<cond x"

theorem lex_append_lowerScript :
    (∀ item ∈ lex upperScript, isUnterminated item = false) ∧
      lowerScript.toList.head? ≠ some '\ufeff' ∧
      lex (upperScript ++ "\n" ++ lowerScript) =
        lex upperScript ++ (lex lowerScript).map (renumberedItem (· + 4)) := by
  have hclosed : ∀ item ∈ lex upperScript, isUnterminated item = false := by decide +kernel
  have hmark : lowerScript.toList.head? ≠ some '\ufeff' := by decide
  have hjoined := lex_append hclosed hmark
  have hcount : upperScript.toList.count '\n' = 3 := by decide
  rw [hcount] at hjoined
  exact ⟨hclosed, hmark, hjoined⟩

end Dialogue
