import Dialogue.Proofs.Script.Written

/-!
# The payload of a directive

A directive stands between its marker and a close mark, and what it says is between them. The lexer
does not look for where that ends: it takes the marks out of the line, or out of the lines of a
block, wherever they stand, and keeps the rest.

* On one line every close mark goes, so the argument runs on behind the one that should end it, as
  if that were not there (`lexLines_inline`).
* In a block every further place of its own marker goes too, so a body that names the marker loses
  the name (`lexLines_oneLineBlock`).

So the payload is what stands between the marks as long as only blanks and close marks follow them,
and a body does not hold the marker that opens it (`lexLines_payload`). Neither is checked, and
otherwise it is not (`lex_ne_betweenMarks`).
-/

namespace Dialogue.Script

open Dialogue.Text

/-- The directives that stand on one line. -/
inductive Inline
  | title
  | link
  | group
  deriving DecidableEq

/-- The marker that opens the directive. -/
def Inline.marker : Inline → Marker
  | title => .entryTitle
  | link => .link
  | group => .group

/-- What a directive on this line and at this depth gives if this is its argument. -/
def Inline.item (line depth : Nat) (argument : List Char) : Inline → Except LexError Element
  | title => .ok ⟨line, depth, .directive (.title (String.ofList (trim argument)))⟩
  | link =>
    if isAllBlank argument then .error (.directive line (.missingArgument .link))
    else
      match numericLink? (words argument) with
      | some target => .ok ⟨line, depth, .directive (.link target)⟩
      | none => .ok ⟨line, depth, .directive (.titleLink (String.ofList (trim argument)))⟩
  | group => .ok ⟨line, depth, .content (.group (String.ofList (trim argument)))⟩

/-- What a body says: its text without tabs, trimmed. -/
def bodyText (body : List Char) : String :=
  String.ofList (trim (body.filter (· ≠ '\t')))

/-- A line of tabs, a directive with this argument between its marks, and a text behind them. -/
def directiveLine (marker : Marker) (line depth : Nat) (argument behind : List Char) : Line :=
  ⟨line, List.replicate depth '\t' ++ (marker.enclose argument ++ behind)⟩

variable {a r : List Char}

theorem text_directiveLine (m : Marker) (n d : Nat) (a r : List Char) :
    (directiveLine m n d a r).text =
      List.replicate d '\t' ++ (m.text.toList ++ ' ' :: (a ++ closeMarker.toList ++ r)) := by
  simp [directiveLine, Marker.enclose]

/-! ## On one line -/

theorem Inline.marker_mem (i : Inline) : i.marker ∈ directiveMarkers := by
  cases i <;> decide

/-- A directive on one line gives what its argument says. -/
theorem lexLines_form_inline {l : Line} (hs : isSeparator l.text = false) (i : Inline)
    {argument : List Char} (hargument : inlineArgument i.marker l.text = trim argument)
    (hclass : classify l.text = i.marker.form l.text) (ls : List Line) :
    lexLines (l :: ls) = i.item l.number (depthOf l.text) argument :: lexLines ls := by
  cases i with
  | title =>
    change inlineArgument .entryTitle l.text = trim argument at hargument
    rw [lexLines_whole hs hclass, hargument]
    rfl
  | group =>
    change inlineArgument .group l.text = trim argument at hargument
    rw [lexLines_whole hs hclass, hargument]
    rfl
  | link =>
    change inlineArgument .link l.text = trim argument at hargument
    have hform : classify l.text = linkForm (trim argument) := by
      rw [hclass, ← hargument]
      rfl
    simp only [linkForm, words_trim, words_eq_nil_iff] at hform
    unfold Inline.item
    by_cases hblank : isAllBlank argument = true
    · rw [if_pos hblank] at hform ⊢
      exact lexLines_malformed hs hform
    · rw [if_neg hblank] at hform ⊢
      cases hlink : numericLink? (words argument) with
      | some target =>
        rw [hlink] at hform
        exact lexLines_whole hs hform
      | none =>
        rw [hlink] at hform
        exact lexLines_whole hs hform

/-- The argument of a directive on one line is everything behind its marker but the close marks: it
is as if the one that ends it were not there. -/
theorem lexLines_inline (i : Inline) (n d : Nat) (a r : List Char) (rest : List Line) :
    lexLines (directiveLine i.marker n d a r :: rest) =
      i.item n d (eraseAll closeMarker.toList (a ++ r)) :: lexLines rest := by
  have htext := text_directiveLine i.marker n d a r
  have hm := i.marker_mem
  have hargument : inlineArgument i.marker (directiveLine i.marker n d a r).text =
      trim (eraseAll closeMarker.toList (a ++ r)) := by
    rw [htext, inlineArgument_directive hm, List.append_assoc]
    exact congrArg trim (eraseAll_append_pair_append a r)
  have hclass : classify (directiveLine i.marker n d a r).text =
      i.marker.form (directiveLine i.marker n d a r).text := by
    rw [htext, classify_tabs_directive hm]
  have hitem := lexLines_form_inline (by rw [htext, isSeparator_directive hm]) i hargument hclass rest
  rw [hitem, htext, depthOf_directive hm]
  rfl

/-- Blanks at the end of an argument say nothing. -/
theorem Inline.item_append (i : Inline) (n d : Nat) (a : List Char) (hr : isAllBlank r = true) :
    i.item n d (a ++ r) = i.item n d a := by
  have htrim : trim (a ++ r) = trim a := trim_append_eq_iff.2 hr
  have hwords : words (a ++ r) = words a := by rw [← words_trim, htrim, words_trim]
  have hblank : isAllBlank (a ++ r) = isAllBlank a := by rw [isAllBlank_append, hr, Bool.and_true]
  cases i <;> simp only [Inline.item, htrim, hwords, hblank]

/-- An argument is what stands before the close mark if nothing but blanks is left behind that. -/
theorem Inline.item_eraseAll (ha : occursIn closeMarker.toList a = false)
    (hr : isAllBlank (eraseAll closeMarker.toList r) = true) (i : Inline) (n d : Nat) :
    i.item n d (eraseAll closeMarker.toList (a ++ r)) = i.item n d a := by
  have hleft : ∀ x ∈ eraseAll closeMarker.toList r, x ∉ closeMarker.toList := by
    intro x hx hclose
    have hsign : x = '>' := by simpa [closeMarker] using hclose
    have hblank : isBlank x = true := List.all_eq_true.1 hr x hx
    rw [hsign] at hblank
    cases hblank
  have hnone : occursIn closeMarker.toList (a ++ eraseAll closeMarker.toList r) = false :=
    (occursIn_append_right (by decide) a hleft).trans ha
  have hargument : eraseAll closeMarker.toList (a ++ r) = a ++ eraseAll closeMarker.toList r :=
    (eraseAll_append_eraseAll a r).symm.trans (eraseAll_of_occursIn hnone)
  rw [hargument, i.item_append n d a hr]

/-- A title or a group says its argument, trimmed. -/
theorem Inline.trim_eq_of_item_eq {i : Inline} (hi : i ≠ .link) {n d : Nat} {s t : List Char}
    (h : i.item n d s = i.item n d t) : trim s = trim t := by
  cases i with
  | link => exact absurd rfl hi
  | title => simpa [Inline.item, String.ofList_inj] using h
  | group => simpa [Inline.item, String.ofList_inj] using h

/-- Anything else behind the close mark is added to a title or a group, unless the argument ends in
half a close mark. -/
theorem isAllBlank_of_item_eq (ha : occursIn closeMarker.toList a = false)
    (hlast : a.getLast? ≠ some '>') {i : Inline} (hi : i ≠ .link) {n d : Nat}
    (h : i.item n d (eraseAll closeMarker.toList (a ++ r)) = i.item n d a) :
    isAllBlank (eraseAll closeMarker.toList r) = true := by
  have hleft : eraseAll closeMarker.toList (a ++ r) = a ++ eraseAll closeMarker.toList r :=
    eraseAll_pair_append ha hlast r
  have htrim := Inline.trim_eq_of_item_eq hi h
  rw [hleft] at htrim
  exact trim_append_eq_iff.1 htrim

/-! ## In a block -/

/-- The body of a block on one line is its argument without the marker of the block. -/
theorem lexLines_oneLineBlock (block : Block) (n d : Nat) (a : List Char) (rest : List Line) :
    lexLines (directiveLine block.marker n d a [] :: rest) =
      .ok ⟨n, d, block.kind
        (bodyText (eraseAll closeMarker.toList (eraseAll block.marker.text.toList a)))⟩ ::
        lexLines rest := by
  have hm := block.marker_mem
  have htext := text_directiveLine block.marker n d a []
  rw [List.append_nil] at htext
  have hs := isSeparator_directive hm d (a ++ closeMarker.toList)
  have hclass := classify_tabs_directive hm d (a ++ closeMarker.toList)
  rw [← htext] at hs hclass
  rw [block.form_marker] at hclass
  have hclose : occursIn closeMarker.toList (directiveLine block.marker n d a []).text = true := by
    rw [htext, ← List.cons_append, ← List.append_assoc, ← List.append_assoc]
    exact occursIn_append_left _ _
  have hsplit : splitBlock? (directiveLine block.marker n d a [] :: rest) =
      some ([directiveLine block.marker n d a []], rest) :=
    splitBlock?_append rest (List.forall_mem_nil _) hclose
  have hjoin : ['\n'].intercalate ([directiveLine block.marker n d a []].map Line.text) =
      List.replicate d '\t' ++ (block.marker.text.toList ++ ' ' :: (a ++ closeMarker.toList)) := by
    simp [← htext]
  have hbody : blockBody block.marker [directiveLine block.marker n d a []] =
      bodyText (eraseAll closeMarker.toList (eraseAll block.marker.text.toList a)) := by
    have hpair := eraseAll_append_pair_append (c := '>') (eraseAll block.marker.text.toList a) []
    rw [List.append_nil] at hpair
    rw [blockBody_directive hm d _ hjoin, eraseAll_marker_close hm]
    exact congrArg bodyText hpair
  rw [lexLines_block hs hclass hsplit, hbody, htext, depthOf_directive hm]
  rfl

theorem count_bodyText {c : Char} (hblank : isBlank c = false) (s : List Char) :
    (bodyText s).toList.count c = s.count c := by
  have htab : c ≠ '\t' := by
    rintro rfl
    cases hblank
  rw [bodyText, String.toList_ofList, count_trim hblank, List.count_filter (by simpa using htab)]

/-- A body is what stands between the marks if it does not hold the marker of its block, and only
then. -/
theorem bodyText_eraseAll_eq_iff (ha : occursIn closeMarker.toList a = false) {m : Marker}
    (hm : m ∈ directiveMarkers) :
    bodyText (eraseAll closeMarker.toList (eraseAll m.text.toList a)) = bodyText a ↔
      occursIn m.text.toList a = false := by
  constructor
  · intro h
    by_contra hoccurs
    rw [Bool.not_eq_false] at hoccurs
    -- the sign that every marker starts with is there less often
    have hlt := count_eraseAll_lt hoccurs (List.mem_of_head? (head?_directive hm))
    have hle := (eraseAllFrom_sublist (p := closeMarker.toList) 0
      (eraseAll m.text.toList a)).count_le '<'
    have hcount := congrArg (fun s => s.toList.count '<') h
    simp only [count_bodyText (c := '<') (by decide)] at hcount
    rw [eraseAll] at hcount
    omega
  · intro hnone
    rw [eraseAll_of_occursIn hnone, eraseAll_of_occursIn ha]

/-! ## Between the marks -/

/-- What a directive with an argument between its marks gives.

A directive on one line gives what its argument and the text behind the close mark say together, as
if that mark were not there. This is what the argument alone says if only blanks and close marks
stand behind it; and for a title or a group, whose argument does not end in half a close mark, only
then. A block gives its body without the marker that opens it, which is the body itself as long as
that does not hold the marker. -/
theorem lexLines_payload (ha : occursIn closeMarker.toList a = false) (n d : Nat)
    (rest : List Line) :
    (∀ (i : Inline) (r : List Char),
      lexLines (directiveLine i.marker n d a r :: rest) =
          i.item n d (eraseAll closeMarker.toList (a ++ r)) :: lexLines rest ∧
        (isAllBlank (eraseAll closeMarker.toList r) = true →
          i.item n d (eraseAll closeMarker.toList (a ++ r)) = i.item n d a) ∧
        (a.getLast? ≠ some '>' → i ≠ .link →
          i.item n d (eraseAll closeMarker.toList (a ++ r)) = i.item n d a →
          isAllBlank (eraseAll closeMarker.toList r) = true)) ∧
      ∀ block : Block,
        lexLines (directiveLine block.marker n d a [] :: rest) =
            .ok ⟨n, d, block.kind
              (bodyText (eraseAll closeMarker.toList (eraseAll block.marker.text.toList a)))⟩ ::
              lexLines rest ∧
          (bodyText (eraseAll closeMarker.toList (eraseAll block.marker.text.toList a)) =
              bodyText a ↔
            occursIn block.marker.text.toList a = false) := by
  refine ⟨fun i r => ⟨?_, ?_, ?_⟩, fun block => ⟨?_, ?_⟩⟩
  · exact lexLines_inline i n d a r rest
  · exact fun hr => Inline.item_eraseAll ha hr i n d
  · exact fun hlast hi h => isAllBlank_of_item_eq ha hlast hi h
  · exact lexLines_oneLineBlock block n d a rest
  · exact bodyText_eraseAll_eq_iff ha block.marker_mem

theorem lexLines_payload_hall :
    occursIn closeMarker.toList "Hall".toList = false ∧
      lexLines [directiveLine .entryTitle 1 2 "Hall".toList " >>".toList] =
        [Inline.title.item 1 2 "Hall".toList] := by
  have hclose : occursIn closeMarker.toList "Hall".toList = false := by decide
  obtain ⟨hitem, hsame, -⟩ := (lexLines_payload hclose 1 2 []).1 .title " >>".toList
  rw [hsame (by decide), lexLines_nil] at hitem
  exact ⟨hclose, hitem⟩

/-- A text behind the close mark becomes part of the title, and a body loses the marker of its own
block. -/
theorem lex_ne_betweenMarks :
    lex "<<title Hall>> aside" = [Inline.title.item 1 0 "Hall aside".toList] ∧
      lex "<<title Hall>> aside" ≠ [Inline.title.item 1 0 "Hall".toList] ∧
      lex "<<script log <<script here>>" =
        [.ok ⟨1, 0, Block.script.kind (bodyText "log  here".toList)⟩] ∧
      lex "<<script log <<script here>>" ≠
        [.ok ⟨1, 0, Block.script.kind (bodyText "log <<script here".toList)⟩] := by
  decide +kernel

end Dialogue.Script
