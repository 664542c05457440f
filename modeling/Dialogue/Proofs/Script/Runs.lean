import Dialogue.Proofs.Script.Forms
import Dialogue.Proofs.Script.Items
import Dialogue.Script.Cursor

/-!
# Every line of a script is read once

Two views of a script are compared here. `lexLines` takes lines off the front of a list. A `Lexer`
moves a cursor over lines that stay. Asked for one item, a lexer gives the first item of the lines
that are left (`Lexer.exists_next`), so asked again and again it gives all of them in order, and
nothing from then on (`Lexer.next_skip`).

What an item is made of is settled on the list. The lines fall into parts (`Part`): separators, and
runs that give an item each (`IsRun`). How far a run reaches is its `Extent`: one line, or for a
block the lines through the first one that closes it, or all lines that are left. That each line is
in one part is then nothing but the order of the parts (`Accounts`).
-/

namespace Dialogue.Script

open Dialogue.Text

/-! ## The cursor -/

namespace Lexer

variable {x : Lexer} {l : Line} {ls : List Line}

/-- The lines that are left. -/
def unread (x : Lexer) : List Line := x.lines.drop x.cursor

theorem getElem?_cursor (x : Lexer) : x.lines[x.cursor]? = x.unread.head? :=
  List.head?_drop.symm

@[simp]
theorem unread_advance (x : Lexer) : x.advance.unread = x.unread.tail :=
  List.tail_drop.symm

/-! ### One step -/

theorem readBlock_nil (h : x.unread = []) (read : List Line) : x.readBlock read = (none, x) := by
  have hcursor := x.getElem?_cursor
  rw [h, List.head?_nil] at hcursor
  rw [readBlock]
  split
  · rfl
  · next hsome =>
    rw [hcursor] at hsome
    cases hsome

theorem readBlock_cons (h : x.unread = l :: ls) (read : List Line) :
    x.readBlock read =
      if occursIn closeMarker.toList l.text then (some (read ++ [l]), x)
      else x.advance.readBlock (read ++ [l]) := by
  have hcursor := x.getElem?_cursor
  rw [h, List.head?_cons] at hcursor
  rw [readBlock]
  split
  · next hnone =>
    rw [hcursor] at hnone
    cases hnone
  · next hsome =>
    rw [hcursor] at hsome
    cases hsome
    rfl

theorem next_nil (h : x.unread = []) : x.next = (none, x) := by
  have hcursor := x.getElem?_cursor
  rw [h, List.head?_nil] at hcursor
  rw [next]
  split
  · rfl
  · next hsome =>
    rw [hcursor] at hsome
    cases hsome

theorem next_cons (h : x.unread = l :: ls) :
    x.next =
      if isSeparator l.text then x.advance.next
      else
        match classify l.text with
        | .whole kind => (some (.ok ⟨l.number, depthOf l.text, kind⟩), x.advance)
        | .malformed error => (some (.error (.directive l.number error)), x.advance)
        | .unrecognized =>
          (some (.error (.unrecognized l.number (String.ofList (trim l.text)))), x.advance)
        | .opens block =>
          match x.readBlock [] with
          | (none, y) =>
            (some (.error (.directive l.number (.unterminated block.marker))), y.advance)
          | (some body, y) =>
            (some (.ok ⟨l.number, depthOf l.text, block.kind (blockBody block.marker body)⟩),
              y.advance) := by
  have hcursor := x.getElem?_cursor
  rw [h, List.head?_cons] at hcursor
  rw [next]
  split
  · next hnone =>
    rw [hcursor] at hnone
    cases hnone
  · next hsome =>
    rw [hcursor] at hsome
    cases hsome
    rfl

/-- The block reader takes the lines of a block from those that are left. -/
theorem exists_readBlock (h : x.unread = ls) (read : List Line) :
    ∃ y, x.readBlock read = ((splitBlock? ls).map (read ++ ·.1), y) ∧
      y.advance.unread = ((splitBlock? ls).map Prod.snd).getD [] := by
  induction ls generalizing x read with
  | nil => exact ⟨x, readBlock_nil h read, by simp [h, splitBlock?]⟩
  | cons l ls ih =>
    rw [readBlock_cons h, splitBlock?]
    by_cases hclose : occursIn closeMarker.toList l.text = true
    · rw [if_pos hclose, if_pos hclose]
      exact ⟨x, rfl, by simp [h]⟩
    · rw [if_neg hclose, if_neg hclose]
      obtain ⟨y, hread, hrest⟩ := ih (x := x.advance) (by simp [h]) (read ++ [l])
      refine ⟨y, ?_, ?_⟩
      · rw [hread, Option.map_map]
        simp [Function.comp_def]
      · rw [hrest, Option.map_map]
        rfl

/-- A call gives the first item of the lines that are left, and leaves the lines that give the
other ones. -/
theorem exists_next (h : x.unread = ls) :
    ∃ y, x.next = ((lexLines ls).head?, y) ∧ lexLines y.unread = (lexLines ls).tail := by
  induction ls using lexLines.induct generalizing x with
  | case1 => exact ⟨x, by rw [next_nil h, lexLines_nil]; rfl, by rw [h, lexLines_nil]; rfl⟩
  | case2 l ls hs ih =>
    rw [next_cons h, if_pos hs, lexLines_separator hs]
    exact ih (by simp [h])
  | case3 l ls hs kind hc ih =>
    rw [next_cons h, if_neg hs, hc, lexLines_whole (by simpa using hs) hc]
    exact ⟨_, rfl, by simp [h]⟩
  | case4 l ls hs error hc ih =>
    rw [next_cons h, if_neg hs, hc, lexLines_malformed (by simpa using hs) hc]
    exact ⟨_, rfl, by simp [h]⟩
  | case5 l ls hs hc ih =>
    rw [next_cons h, if_neg hs, hc, lexLines_unrecognized (by simpa using hs) hc]
    exact ⟨_, rfl, by simp [h]⟩
  | case6 l ls hs block hc hsplit =>
    obtain ⟨y, hread, hrest⟩ := exists_readBlock h []
    rw [hsplit] at hread hrest
    rw [next_cons h, if_neg hs, hc, lexLines_unterminated (by simpa using hs) hc hsplit]
    exact ⟨y.advance, by simp [hread], by simp [hrest]⟩
  | case7 l ls hs block hc body rest hsplit ih =>
    obtain ⟨y, hread, hrest⟩ := exists_readBlock h []
    rw [hsplit] at hread hrest
    rw [next_cons h, if_neg hs, hc, lexLines_block (by simpa using hs) hc hsplit]
    exact ⟨y.advance, by simp [hread], by simp [hrest]⟩

/-- The calls give the items in order, and then nothing. -/
theorem next_skip (x : Lexer) (n : Nat) : (x.skip n).next.1 = (lexLines x.unread)[n]? := by
  induction n generalizing x with
  | zero =>
    obtain ⟨y, hnext, -⟩ := exists_next (x := x) rfl
    rw [skip, hnext, List.head?_eq_getElem?]
  | succ n ih =>
    obtain ⟨y, hnext, hrest⟩ := exists_next (x := x) rfl
    rw [skip, hnext, ih, hrest, List.getElem?_tail]

end Lexer

/-! ## Parts of a script -/

/-- The line that an item is on. -/
def lineOf : Except LexError Element → Nat
  | .ok e => e.line
  | .error (.unrecognized line _) => line
  | .error (.directive line _) => line

/-- The item comes of a block: it is the element with a body, or the error that the block is never
closed. -/
inductive ComesOf (block : Block) : Except LexError Element → Prop
  | element (line depth : Nat) (body : String) : ComesOf block (.ok ⟨line, depth, block.kind body⟩)
  | unterminated (line : Nat) :
      ComesOf block (.error (.directive line (.unterminated block.marker)))

/-- How far the run of an item reaches, from its first line on. -/
inductive Extent (first : Line) : List Line → Except LexError Element → Prop
  /-- What comes of no block is one line. -/
  | line {item : Except LexError Element} (hform : ∀ block, classify first.text ≠ .opens block)
      (hitem : ∀ block, ¬ ComesOf block item) : Extent first [] item
  /-- A block runs through the first line that closes it. -/
  | closed {more front : List Line} {last : Line} {block : Block} {body : String}
      (hform : classify first.text = .opens block) (hlines : first :: more = front ++ [last])
      (hfront : ∀ l ∈ front, occursIn closeMarker.toList l.text = false)
      (hlast : occursIn closeMarker.toList last.text = true) :
      Extent first more (.ok ⟨first.number, depthOf first.text, block.kind body⟩)
  /-- A block that no line closes is never terminated. -/
  | unterminated {more : List Line} {block : Block} (hform : classify first.text = .opens block)
      (hopen : ∀ l ∈ first :: more, occursIn closeMarker.toList l.text = false) :
      Extent first more (.error (.directive first.number (.unterminated block.marker)))

/-- The lines are the run of the item. -/
structure IsRun (first : Line) (more : List Line) (item : Except LexError Element) : Prop where
  /-- The run alone gives the item and nothing else. -/
  gives : lexLines (first :: more) = [item]
  line : lineOf item = first.number
  notSeparator : isSeparator first.text = false
  extent : Extent first more item

/-- A part of a script: a line that only separates, or the run of an item. -/
inductive Part
  | separator (line : Line)
  | run (first : Line) (more : List Line) (item : Except LexError Element)

namespace Part

/-- The lines of the part. -/
def lines : Part → List Line
  | separator l => [l]
  | run first more _ => first :: more

/-- The item that the part gives, if it gives one. -/
def item? : Part → Option (Except LexError Element)
  | separator _ => none
  | run _ _ item => some item

/-- The part is what it is said to be. -/
def Sound : Part → Prop
  | separator l => isSeparator l.text = true
  | run first more item => IsRun first more item

/-- Whether the part is a block that is never closed. -/
def isOpen : Part → Bool
  | separator _ => false
  | run _ _ item => isUnterminated item

end Part

/-- The parts account for all lines and items, one after another. -/
structure Accounts (ls : List Line) (items : List (Except LexError Element)) (parts : List Part) :
    Prop where
  lines : ls = parts.flatMap Part.lines
  items : items = parts.filterMap Part.item?
  sound : ∀ part ∈ parts, part.Sound
  /-- Only the last part can be a block that is never closed. -/
  closed : parts.Pairwise fun part _ => part.isOpen = false

/-! ## What opens no block -/

/-- What the form says of a line that opens no block comes of none. -/
def Form.Blockless : Form → Prop
  | .whole kind => ∀ (block : Block) (body : String), kind ≠ block.kind body
  | .malformed error => ∀ marker, error ≠ .unterminated marker
  | .opens _ | .unrecognized => True

theorem blockless_classify (text : List Char) : (classify text).Blockless := by
  have hline := ofLine_classify text
  generalize classify text = form at hline
  cases hline with
  | opens block => trivial
  | unrecognized => trivial
  | missing marker => exact nofun
  | title | conversant | entryTitle | link | titleLink | group | speak | reply =>
    intro block body
    cases block <;> exact nofun

/-! ## The runs of a script -/

variable {l : Line} {ls : List Line}

theorem isRun_of_whole (hs : isSeparator l.text = false) {kind : ElementKind}
    (hc : classify l.text = .whole kind) :
    IsRun l [] (.ok ⟨l.number, depthOf l.text, kind⟩) where
  gives := by rw [lexLines_whole hs hc, lexLines_nil]
  line := rfl
  notSeparator := hs
  extent := by
    have hblockless := blockless_classify l.text
    rw [hc] at hblockless
    refine .line (by simp [hc]) fun block hcomes => ?_
    generalize hitem : Except.ok (ε := LexError) (⟨l.number, depthOf l.text, kind⟩ : Element) =
      item at hcomes
    cases hcomes with
    | element line depth body =>
      cases hitem
      exact hblockless block body rfl
    | unterminated line => cases hitem

theorem isRun_of_malformed (hs : isSeparator l.text = false) {error : DirectiveError}
    (hc : classify l.text = .malformed error) :
    IsRun l [] (.error (.directive l.number error)) where
  gives := by rw [lexLines_malformed hs hc, lexLines_nil]
  line := rfl
  notSeparator := hs
  extent := by
    have hblockless := blockless_classify l.text
    rw [hc] at hblockless
    refine .line (by simp [hc]) fun block hcomes => ?_
    cases hcomes
    exact hblockless _ rfl

theorem isRun_of_unrecognized (hs : isSeparator l.text = false)
    (hc : classify l.text = .unrecognized) :
    IsRun l [] (.error (.unrecognized l.number (String.ofList (trim l.text)))) where
  gives := by rw [lexLines_unrecognized hs hc, lexLines_nil]
  line := rfl
  notSeparator := hs
  extent := .line (by simp [hc]) fun block hcomes => by cases hcomes

theorem isRun_of_unterminated (hs : isSeparator l.text = false) {block : Block}
    (hc : classify l.text = .opens block) (hsplit : splitBlock? (l :: ls) = none) :
    IsRun l ls (.error (.directive l.number (.unterminated block.marker))) where
  gives := lexLines_unterminated hs hc hsplit
  line := rfl
  notSeparator := hs
  extent := .unterminated hc (splitBlock?_eq_none_iff.1 hsplit)

theorem isRun_of_closed (hs : isSeparator l.text = false) {block : Block}
    (hc : classify l.text = .opens block) {more rest : List Line}
    (hsplit : splitBlock? ls = some (l :: more, rest)) :
    IsRun l more (.ok ⟨l.number, depthOf l.text, block.kind (blockBody block.marker (l :: more))⟩) := by
  obtain ⟨front, last, hlines, -, hfront, hlast⟩ := splitBlock?_eq_some_iff.1 hsplit
  have halone : splitBlock? (l :: more) = some (l :: more, []) :=
    splitBlock?_eq_some_iff.2 ⟨front, last, hlines, (List.append_nil _).symm, hfront, hlast⟩
  exact
    { gives := by rw [lexLines_block hs hc halone, lexLines_nil]
      line := rfl
      notSeparator := hs
      extent := .closed hc hlines hfront hlast }

namespace Accounts

variable {items : List (Except LexError Element)} {parts : List Part}

theorem nil : Accounts [] [] [] := ⟨rfl, rfl, nofun, .nil⟩

theorem separator (h : Accounts ls items parts) (hs : isSeparator l.text = true) :
    Accounts (l :: ls) items (.separator l :: parts) where
  lines := by
    rw [List.flatMap_cons, ← h.lines]
    rfl
  items := h.items
  sound := List.forall_mem_cons.2 ⟨hs, h.sound⟩
  closed := .cons (fun _ _ => rfl) h.closed

/-- A run that is no open block goes before any parts. -/
theorem run (h : Accounts ls items parts) {more : List Line} {item : Except LexError Element}
    (hrun : IsRun l more item) (hopen : (Part.run l more item).isOpen = false) :
    Accounts (l :: more ++ ls) (item :: items) (.run l more item :: parts) where
  lines := by
    rw [List.flatMap_cons, ← h.lines]
    rfl
  items := by
    rw [h.items]
    rfl
  sound := List.forall_mem_cons.2 ⟨hrun, h.sound⟩
  closed := .cons (fun _ _ => hopen) h.closed

/-- A run that is all there is. -/
theorem last {item : Except LexError Element} (hrun : IsRun l ls item) :
    Accounts (l :: ls) [item] [.run l ls item] where
  lines := (List.flatMap_singleton _ _).symm
  items := rfl
  sound := List.forall_mem_singleton.2 hrun
  closed := List.pairwise_singleton _ _

end Accounts

/-- The lines of a script fall into parts. -/
theorem exists_accounts_lexLines (ls : List Line) : ∃ parts, Accounts ls (lexLines ls) parts := by
  induction ls using lexLines.induct with
  | case1 => exact ⟨[], lexLines_nil ▸ .nil⟩
  | case2 l ls hs ih =>
    obtain ⟨parts, h⟩ := ih
    rw [lexLines_separator hs]
    exact ⟨_, h.separator hs⟩
  | case3 l ls hs kind hc ih =>
    obtain ⟨parts, h⟩ := ih
    rw [Bool.not_eq_true] at hs
    rw [lexLines_whole hs hc]
    exact ⟨_, h.run (isRun_of_whole hs hc) rfl⟩
  | case4 l ls hs error hc ih =>
    obtain ⟨parts, h⟩ := ih
    rw [Bool.not_eq_true] at hs
    rw [lexLines_malformed hs hc]
    have hblockless := blockless_classify l.text
    rw [hc] at hblockless
    refine ⟨_, h.run (isRun_of_malformed hs hc) ?_⟩
    cases error with
    | missingArgument marker => rfl
    | unterminated marker => exact absurd rfl (hblockless marker)
  | case5 l ls hs hc ih =>
    obtain ⟨parts, h⟩ := ih
    rw [Bool.not_eq_true] at hs
    rw [lexLines_unrecognized hs hc]
    exact ⟨_, h.run (isRun_of_unrecognized hs hc) rfl⟩
  | case6 l ls hs block hc hsplit =>
    rw [Bool.not_eq_true] at hs
    rw [lexLines_unterminated hs hc hsplit]
    exact ⟨_, .last (isRun_of_unterminated hs hc hsplit)⟩
  | case7 l ls hs block hc body rest hsplit ih =>
    obtain ⟨parts, h⟩ := ih
    rw [Bool.not_eq_true] at hs
    rw [lexLines_block hs hc hsplit]
    obtain ⟨more, rfl, hlines⟩ : ∃ more, body = l :: more ∧ ls = more ++ rest := by
      obtain ⟨front, last, rfl, hlines, -, -⟩ := splitBlock?_eq_some_iff.1 hsplit
      cases front with
      | nil => simp_all
      | cons first front => simp_all
    rw [hlines, ← List.cons_append]
    exact ⟨_, h.run (isRun_of_closed hs hc hsplit) rfl⟩

/-- Every line of a script is read once, and reading ends. What is read are the rows that are not
all blank, each with the number of its row, in order. They fall into separators and runs, one run
for each item; and asked for one item after another, a lexer gives these items in order and then
nothing, however often it is asked. -/
theorem lex_accounts (source : String) :
    (∀ l, l ∈ sourceLines source.toList ↔
      0 < l.number ∧ (lines (dropByteOrderMark source.toList))[l.number - 1]? = some l.text ∧
        isAllBlank l.text = false) ∧
    (sourceLines source.toList).Pairwise (·.number < ·.number) ∧
    (∃ parts, Accounts (sourceLines source.toList) (lex source) parts) ∧
    ∀ n, ((Lexer.start source).skip n).next.1 = (lex source)[n]? :=
  ⟨fun _ => mem_sourceLines_iff, pairwise_number_sourceLines source.toList,
    exists_accounts_lexLines (sourceLines source.toList), (Lexer.start source).next_skip⟩

end Dialogue.Script
