import Dialogue.Proofs.Batch.Step
import Dialogue.Proofs.Script.Numbering
import Dialogue.Proofs.Text.Rows

/-!
# The layout of a script does not matter

Rows that are all blank can be put in and taken out anywhere (`Respaced`), every line feed can get a
carriage return, and the whole text can get a byte order mark in front (`laidOut`): the lines that
hold something stay the same, so the script has the same items but for their line numbers, and
importing it does the same (`lex_laidOut`).

One thing is part of the text and not of its layout. Only the mark at the very start is dropped, so
where a row starts with one, taking out the blank rows before it turns that character into the mark
of the file (`lex_unmarkedScript_ne`).
-/

namespace Dialogue

open Script Text

/-- The second rows come from the first by putting in and taking out rows that are all blank. -/
inductive Text.Respaced : List (List Char) → List (List Char) → Prop
  | nil : Respaced [] []
  | keep {rows rows' : List (List Char)} (row : List Char) (h : Respaced rows rows') :
      Respaced (row :: rows) (row :: rows')
  | insert {rows rows' : List (List Char)} {row : List Char} (hrow : isAllBlank row = true)
      (h : Respaced rows rows') : Respaced rows (row :: rows')
  | delete {rows rows' : List (List Char)} {row : List Char} (hrow : isAllBlank row = true)
      (h : Respaced rows rows') : Respaced (row :: rows) rows'

/-- The text, with a carriage return before every line feed and a byte order mark in front if they
are asked for. -/
def Text.laidOut (returns mark : Bool) (s : List Char) : List Char :=
  let s := if returns then withReturns s else s
  if mark then '\ufeff' :: s else s

/-- The batch with other lines in its diagnostics. -/
def Batch.renumbered (f : Nat → Nat) (b : Batch) : Batch :=
  { b with diagnostics := b.diagnostics.map (·.renumbered f) }

/-- The batch without the lines of its diagnostics. -/
def Batch.unnumbered (b : Batch) : Batch := b.renumbered fun _ => 0

/-! ## The lines that hold something -/

section lines

variable {rows rows' : List (List Char)} {s : List Char}

theorem Text.Respaced.filter_eq (h : Respaced rows rows') :
    rows'.filter (!isAllBlank ·) = rows.filter (!isAllBlank ·) := by
  induction h with
  | nil => rfl
  | keep row h ih => rw [List.filter_cons, List.filter_cons, ih]
  | insert hrow h ih => simp [hrow, ih]
  | delete hrow h ih => simp [hrow, ih]

theorem Script.map_text_sourceLines (s : List Char) :
    (sourceLines s).map Line.text = (lines (dropByteOrderMark s)).filter (!isAllBlank ·) := by
  unfold sourceLines
  generalize lines (dropByteOrderMark s) = rows
  generalize 1 = n
  induction rows generalizing n with
  | nil => rfl
  | cons row rows ih =>
    cases hrow : isAllBlank row <;> simp [List.zipIdx_cons, hrow, ih]

/-- A mark in front is dropped, and nothing else is. -/
theorem Text.dropByteOrderMark_laidOut (returns : Bool) {mark : Bool}
    (h : mark = true ∨ s.head? ≠ some '\ufeff') :
    dropByteOrderMark (laidOut returns mark s) = if returns then withReturns s else s := by
  cases mark
  case true => rfl
  case false =>
    refine dropByteOrderMark_eq_self ?_
    have hhead : s.head? ≠ some '\ufeff' := by simpa using h
    cases returns
    case false => exact hhead
    case true =>
      show (withReturns s).head? ≠ some '\ufeff'
      cases s with
      | nil => simp [withReturns]
      | cons c s =>
        by_cases hfeed : c = '\n'
        · simp [withReturns, hfeed]
        · simpa [withReturns, hfeed] using hhead

/-- A text and what it is laid out as have the same lines, apart from the blank ones. -/
theorem Script.map_text_sourceLines_laidOut {edited : List Char} (hreturn : '\r' ∉ s)
    (hstart : s.head? ≠ some '\ufeff') (hedit : Respaced (s.splitOn '\n') (edited.splitOn '\n'))
    (returns : Bool) {mark : Bool} (hmark : mark = true ∨ edited.head? ≠ some '\ufeff') :
    (sourceLines (laidOut returns mark edited)).map Line.text = (sourceLines s).map Line.text := by
  have hrows := hedit.filter_eq
  have hplain : ∀ row ∈ s.splitOn '\n', row.getLast? ≠ some '\r' := by
    intro row hrow hlast
    exact hreturn ((infix_of_mem_splitOn hrow).subset (List.mem_of_getLast? hlast))
  rw [map_text_sourceLines, map_text_sourceLines, dropByteOrderMark_laidOut returns hmark,
    dropByteOrderMark_eq_self hstart, filter_lines fun row hrow _ => hplain row hrow, ← hrows]
  cases returns
  · refine filter_lines fun row hrow hblank => ?_
    -- a row that holds something is a row of the first text
    have hmem : row ∈ (edited.splitOn '\n').filter (!isAllBlank ·) :=
      List.mem_filter.2 ⟨hrow, by simp [hblank]⟩
    rw [hrows] at hmem
    exact hplain row (List.mem_of_mem_filter hmem)
  · exact filter_lines_withReturns edited

end lines

/-! ## What is imported -/

section importing

variable {f : Nat → Nat} {s s' : Source}

theorem Source.outline?_congr
    (h : (parse s'.text).renumbered f = (parse s.text).renumbered f) :
    s'.outline? = s.outline? := by
  have hforest := congrArg Parsed.forest h
  simp only [Parsed.renumbered] at hforest
  unfold Source.outline? Source.forest?
  generalize (parse s'.text).forest = forest' at hforest
  generalize (parse s.text).forest = forest at hforest
  rcases forest' with e' | nodes' <;> rcases forest with e | nodes
  · rfl
  · cases hforest
  · cases hforest
  · have hnodes : nodes'.map (·.renumbered f) = nodes.map (·.renumbered f) := by
      simpa [Except.map] using hforest
    have houtline := congrArg Forest.outline? hnodes
    rwa [outline?_renumbered, outline?_renumbered] at houtline

theorem Source.map_remarks_congr (hfile : s'.file = s.file)
    (h : (parse s'.text).renumbered f = (parse s.text).renumbered f) :
    s'.remarks.map (·.renumbered f) = s.remarks.map (·.renumbered f) := by
  have hfiled : ∀ (ds : List Diagnostic) (file : Option Path),
      (ds.map (·.inFile file)).map (·.renumbered f) =
        (ds.map (·.renumbered f)).map (·.inFile file) := by
    intro ds file
    rw [List.map_map, List.map_map]
    rfl
  have hdiagnostics := congrArg Parsed.diagnostics h
  have hforest := congrArg Parsed.forest h
  simp only [Parsed.renumbered] at hdiagnostics hforest
  unfold Source.remarks
  simp only [hfiled, hfile, List.map_append, hdiagnostics]
  generalize (parse s'.text).forest = forest' at hforest
  generalize (parse s.text).forest = forest at hforest
  rcases forest' with e' | nodes' <;> rcases forest with e | nodes
  · have he : e' = e := by simpa [Except.map] using hforest
    rw [he]
  · cases hforest
  · cases hforest
  · rfl

/-- Sources that are read alike but for the lines do the same to a batch, but for the lines of its
diagnostics. -/
theorem Batch.importSource_renumbered (b : Batch) (hfile : s'.file = s.file)
    (h : (parse s'.text).renumbered f = (parse s.text).renumbered f) :
    (b.importSource s').1 = (b.importSource s).1 ∧
      (b.importSource s').2.renumbered f = (b.importSource s).2.renumbered f := by
  have houtline := Source.outline?_congr h
  have hremarks := Source.map_remarks_congr hfile h
  rcases ho : s.outline? with _ | o
  · rw [importSource_of_none ho, importSource_of_none (houtline.trans ho)]
    simp [refuse, Batch.renumbered, hremarks, hfile]
  · obtain ⟨N, hid, hplayer, hnames⟩ := b.db.exists_naming b.options.playerName o
    rw [importSource_eq ho hid hplayer hnames,
      importSource_eq (houtline.trans ho) hid hplayer hnames]
    simp [accept, Batch.renumbered, hremarks, hfile]

end importing

/-- A script that is laid out otherwise has the same elements and errors but for their line numbers,
and importing it does the same to any batch but for the line numbers of the diagnostics. A byte
order mark that the edited text starts with is one of its characters, so it needs another one in
front. -/
theorem lex_laidOut {source edited : String} (hreturn : '\r' ∉ source.toList)
    (hstart : source.toList.head? ≠ some '\ufeff')
    (hedit : Respaced (source.toList.splitOn '\n') (edited.toList.splitOn '\n'))
    (returns mark : Bool) (hmark : mark = true ∨ edited.toList.head? ≠ some '\ufeff') :
    (lex (String.ofList (laidOut returns mark edited.toList))).map unnumbered =
        (lex source).map unnumbered ∧
      ∀ (b : Batch) (file : Option Path),
        (b.importSource ⟨file, String.ofList (laidOut returns mark edited.toList)⟩).1 =
            (b.importSource ⟨file, source⟩).1 ∧
          (b.importSource ⟨file, String.ofList (laidOut returns mark edited.toList)⟩).2.unnumbered =
            (b.importSource ⟨file, source⟩).2.unnumbered := by
  have htext := map_text_sourceLines_laidOut hreturn hstart hedit returns hmark
  have hlex : (lex (String.ofList (laidOut returns mark edited.toList))).map unnumbered =
      (lex source).map unnumbered := by
    unfold lex
    rw [String.toList_ofList]
    exact lexLines_congr htext
  exact ⟨hlex, fun b file => b.importSource_renumbered rfl (parse_renumbered _ hlex)⟩

/-- A script with rows of blanks between its lines and inside a block. -/
def spacedScript : String := "title: Hall\n \n<<script a\n\t\nb>>\nBob: Hi!\n"

/-- The same script without them. -/
def denseScript : String := "\ntitle: Hall\n<<script a\nb>>\nBob: Hi!"

theorem lex_laidOut_denseScript :
    '\r' ∉ spacedScript.toList ∧ spacedScript.toList.head? ≠ some '\ufeff' ∧
      Respaced (spacedScript.toList.splitOn '\n') (denseScript.toList.splitOn '\n') ∧
      (lex (String.ofList (laidOut true true denseScript.toList))).map unnumbered =
        (lex spacedScript).map unnumbered ∧
      ((Batch.start .empty .standard).importSource
          ⟨none, String.ofList (laidOut true true denseScript.toList)⟩).2.unnumbered =
        ((Batch.start .empty .standard).importSource ⟨none, spacedScript⟩).2.unnumbered := by
  have hreturn : '\r' ∉ spacedScript.toList := by decide
  have hstart : spacedScript.toList.head? ≠ some '\ufeff' := by decide
  have hedit : Respaced (spacedScript.toList.splitOn '\n') (denseScript.toList.splitOn '\n') :=
    .insert rfl <| .keep _ <| .delete rfl <| .keep _ <| .delete rfl <| .keep _ <| .keep _ <|
      .delete rfl .nil
  obtain ⟨hlex, himport⟩ := lex_laidOut hreturn hstart hedit true true (.inl rfl)
  exact ⟨hreturn, hstart, hedit, hlex, (himport _ none).2⟩

/-- A script that does not start with a byte order mark, but whose first row that holds something
does. -/
def markedScript : String := "\n\ufefftitle: Hall"

/-- The same script without the row before it. Its mark is dropped, so it has a title now. -/
def unmarkedScript : String := "\ufefftitle: Hall"

theorem lex_unmarkedScript_ne :
    '\r' ∉ markedScript.toList ∧ markedScript.toList.head? ≠ some '\ufeff' ∧
      Respaced (markedScript.toList.splitOn '\n') (unmarkedScript.toList.splitOn '\n') ∧
      (lex unmarkedScript).map unnumbered ≠ (lex markedScript).map unnumbered ∧
      ((Batch.start .empty .standard).importSource ⟨none, unmarkedScript⟩).2.db ≠
        ((Batch.start .empty .standard).importSource ⟨none, markedScript⟩).2.db := by
  refine ⟨by decide, by decide, ?_, ?_, ?_⟩
  · exact .delete rfl (.keep _ .nil)
  · decide +kernel
  · decide +kernel

end Dialogue
