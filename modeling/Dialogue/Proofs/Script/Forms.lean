import Mathlib.Data.List.TakeWhile
import Dialogue.Script.Lexer
import Dialogue.Proofs.Text.Erasing
import Dialogue.Proofs.Text.Numerals

/-!
# The form of a line

The markers of directives hold no blank and no colon. So behind the tabs of a line, and before the
first blank after the marker, everything that `classify` asks about markers is settled
(`startsWith_trim_directive`), and a line that is no directive is none because of the text before
its first colon or arrow (`classify_eq_contentForm`). The table of what each marker opens is
`Marker.form`, and the table of all that a line can be is `Form.OfLine`.
-/

namespace Dialogue.Script

open Dialogue.Text

/-- The markers that open a directive. -/
def directiveMarkers : List Marker :=
  [.script, .condition, .entryTitle, .link, .group, .sequenceNode, .sequence]

/-- What a line is that this directive opens. -/
def Marker.form (text : List Char) : Marker → Form
  | title => headerForm .title .title (text.drop Marker.title.text.toList.length)
  | npc => headerForm .npc .conversant (text.drop Marker.npc.text.toList.length)
  | script => .opens .script
  | condition => .opens .condition
  | entryTitle =>
    .whole (.directive (.title (String.ofList (inlineArgument .entryTitle text))))
  | link => linkForm (inlineArgument .link text)
  | group => .whole (.content (.group (String.ofList (inlineArgument .group text))))
  | sequenceNode => .opens .sequenceNode
  | sequence => .opens .sequence

variable {m : Marker} {text s r : List Char}

/-! ## Markers -/

theorem Marker.text_ne_nil (m : Marker) : m.text.toList ≠ [] := by
  cases m <;> decide

theorem Marker.space_notMem (m : Marker) : ' ' ∉ m.text.toList := by
  cases m <;> decide

theorem Marker.feed_notMem (m : Marker) : '\n' ∉ m.text.toList := by
  cases m <;> decide

theorem Marker.isAllBlank_text (m : Marker) : isAllBlank m.text.toList = false := by
  cases m <;> decide

section directive

variable (hm : m ∈ directiveMarkers)
include hm

theorem head?_directive : m.text.toList.head? = some '<' := by
  revert m
  decide

theorem colon_notMem_directive : ':' ∉ m.text.toList := by
  revert m
  decide

theorem close_notMem_directive : '>' ∉ m.text.toList := by
  revert m
  decide

/-- Tabs start no directive. -/
theorem head?_ne_of_tabs (d : Nat) : ∀ c ∈ List.replicate d '\t', m.text.toList.head? ≠ some c := by
  intro c hc
  rw [List.eq_of_mem_replicate hc, head?_directive hm]
  decide

end directive

/-- A line of tabs and something behind them. -/
theorem trim_tabs (d : Nat) (s : List Char) : trim (List.replicate d '\t' ++ s) = trim s :=
  trim_append (isAllBlank_replicate rfl d)

/-- The depth of a line is the number of tabs before what is no tab. -/
theorem depthOf_tabs (d : Nat) (hs : s.head? ≠ some '\t') :
    depthOf (List.replicate d '\t' ++ s) = d := by
  have hnone : s.takeWhile (· = '\t') = [] := by
    cases s <;> simp_all
  simp [depthOf, hnone]

/-- A line with a character other than a blank and the two signs of separators is none. -/
theorem isSeparator_eq_false {c : Char} (hc : c ∈ text) (hblank : isBlank c = false)
    (hdash : c ≠ '-') (hbar : c ≠ '=') : isSeparator text = false := by
  have hmem := mem_trim hc hblank
  unfold isSeparator
  by_contra h
  rw [Bool.not_eq_false, Bool.or_eq_true, decide_eq_true_eq, decide_eq_true_eq] at h
  obtain h | h := h <;> rw [h] at hmem <;> simp_all

/-! ## Directives -/

/-- Behind tabs and a marker only the marker counts. -/
theorem startsWith_trim_directive (hm : m ∈ directiveMarkers) (k : Marker) (d : Nat) :
    startsWith k.text.toList (trim (List.replicate d '\t' ++ (m.text.toList ++ ' ' :: r))) =
      startsWith k.text.toList m.text.toList := by
  have hstart : trimStart (m.text.toList ++ ' ' :: r) = m.text.toList ++ ' ' :: r := by
    rw [trimStart_append_right m.isAllBlank_text]
    have hhead := head?_directive hm
    obtain ⟨c, t, ht⟩ := List.exists_cons_of_ne_nil m.text_ne_nil
    rw [ht, List.head?_cons, Option.some.injEq] at hhead
    rw [ht, hhead, trimStart_cons (by decide)]
  rw [trim_tabs, trim, hstart]
  by_cases hr : isAllBlank r = true
  · have hblank : isAllBlank (' ' :: r) = true := by
      simp only [isAllBlank, List.all_cons, Bool.and_eq_true] at hr ⊢
      exact ⟨by decide, hr⟩
    have hend : trimEnd m.text.toList = m.text.toList := by
      clear hstart
      revert m
      decide
    rw [trimEnd_append hblank, hend]
  · have hsplit : m.text.toList ++ ' ' :: r = (m.text.toList ++ [' ']) ++ r := by simp
    rw [hsplit, trimEnd_append_right (by simpa using hr), List.append_assoc, List.singleton_append,
      startsWith_append_cons k.space_notMem]

/-- What is no header line is classified by the marker that it starts with. -/
theorem classify_directive (hm : m ∈ directiveMarkers)
    (htitle : startsWith Marker.title.text.toList text = false)
    (hnpc : startsWith Marker.npc.text.toList text = false)
    (hstart : ∀ k : Marker, startsWith k.text.toList (trim text) =
      startsWith k.text.toList m.text.toList) :
    classify text = m.form text := by
  unfold classify
  simp only [dropPiece?, htitle, hnpc, hstart, Bool.false_eq_true, if_false]
  cases m
  case title => exact absurd hm (by decide)
  case npc => exact absurd hm (by decide)
  all_goals rfl

/-! ## Content -/

/-- A line that opens no header line and no directive is classified as content. -/
theorem classify_eq_contentForm (htitle : startsWith Marker.title.text.toList text = false)
    (hnpc : startsWith Marker.npc.text.toList text = false)
    (hnone : ∀ k ∈ directiveMarkers, startsWith k.text.toList (trim text) = false) :
    classify text = contentForm text := by
  simp only [directiveMarkers, List.forall_mem_cons] at hnone
  simp [classify, dropPiece?, htitle, hnpc, hnone]

/-- A marker does not start what is left of a line if it does not start the line without the blanks
at its start. -/
theorem startsWith_trim_eq_false (h : startsWith m.text.toList (trimStart text) = false) :
    startsWith m.text.toList (trim text) = false := by
  by_contra hstart
  rw [Bool.not_eq_false] at hstart
  rw [startsWith_mono (trim_prefix_trimStart text) hstart] at h
  cases h

/-- A spoken line: the text before the first colon is the speaker, and a colon at the very start is
part of it. -/
theorem speech?_cons_append (c : Char) (hcolon : ':' ∉ s) (r : List Char) :
    speech? (c :: (s ++ ':' :: r)) =
      some (.speak (String.ofList (trim (c :: s))) (String.ofList (trim r))) := by
  have hrest : ∀ x ∈ s, x ≠ ':' := by
    rintro x hx rfl
    exact hcolon hx
  have hdrop : (s ++ ':' :: r).dropWhile (· ≠ ':') = ':' :: r := by
    rw [List.dropWhile_append_of_pos (by simpa using hrest)]
    simp
  have htake : (s ++ ':' :: r).takeWhile (· ≠ ':') = s := by
    rw [List.takeWhile_append_of_pos (by simpa using hrest)]
    simp
  simp only [speech?, hdrop, htake]

theorem speech?_append (hs : s ≠ []) (hcolon : ':' ∉ s) (r : List Char) :
    speech? (s ++ ':' :: r) =
      some (.speak (String.ofList (trim s)) (String.ofList (trim r))) := by
  obtain ⟨c, s, rfl⟩ := List.exists_cons_of_ne_nil hs
  exact speech?_cons_append c (fun h => hcolon (List.mem_cons_of_mem c h)) r

/-- A line without a colon after its first character is not spoken. -/
theorem speech?_cons_eq_none (c : Char) (hcolon : ':' ∉ s) : speech? (c :: s) = none := by
  have hdrop : s.dropWhile (· ≠ ':') = [] := by
    rw [List.dropWhile_eq_nil_iff]
    intro x hx
    have hne : x ≠ ':' := by
      rintro rfl
      exact hcolon hx
    simpa using hne
  rw [speech?, hdrop]

theorem speech?_eq_none (hcolon : ':' ∉ s) : speech? s = none := by
  cases s with
  | nil => rfl
  | cons c s => exact speech?_cons_eq_none c fun h => hcolon (List.mem_cons_of_mem c h)

/-! ## What a line can be -/

/-- What a line can be, and what is known of the texts that it holds then. -/
inductive Form.OfLine : Form → Prop
  | title {text : String} (htext : isAllBlank text.toList = false) : OfLine (.whole (.title text))
  | conversant {name : String} (hname : isAllBlank name.toList = false) :
      OfLine (.whole (.conversant name))
  | entryTitle (text : String) : OfLine (.whole (.directive (.title text)))
  | link (target : NumericLink) : OfLine (.whole (.directive (.link target)))
  | titleLink {title : String} (htitle : isAllBlank title.toList = false) :
      OfLine (.whole (.directive (.titleLink title)))
  | group (title : String) : OfLine (.whole (.content (.group title)))
  | speak (actor text : String) : OfLine (.whole (.content (.speak actor text)))
  | reply (text : String) : OfLine (.whole (.content (.reply text)))
  | opens (block : Block) : OfLine (.opens block)
  | missing (marker : Marker) : OfLine (.malformed (.missingArgument marker))
  | unrecognized : OfLine .unrecognized

theorem ofLine_headerForm {kind : String → ElementKind}
    (hkind : ∀ text, isAllBlank text.toList = false → (Form.whole (kind text)).OfLine)
    (marker : Marker) (value : List Char) : (headerForm marker kind value).OfLine := by
  unfold headerForm
  split
  · exact .missing marker
  · next hne =>
    refine hkind _ ?_
    rw [String.toList_ofList]
    exact isAllBlank_trim hne

theorem ofLine_linkForm (argument : List Char) : (linkForm argument).OfLine := by
  unfold linkForm
  simp only [words_eq_nil_iff]
  split
  · exact .missing .link
  · next hne =>
    split
    · exact .link _
    · refine .titleLink ?_
      rw [String.toList_ofList]
      simpa using hne

theorem exists_of_speech? {content : Content} (h : speech? text = some content) :
    ∃ actor said, content = .speak actor said := by
  unfold speech? at h
  split at h
  · cases h
  · split at h <;> cases h
    exact ⟨_, _, rfl⟩

theorem exists_of_reply? {content : Content} (h : reply? text = some content) :
    ∃ said, content = .reply said := by
  unfold reply? at h
  split at h
  · cases h
  · split at h <;> cases h
    exact ⟨_, rfl⟩

theorem ofLine_contentForm (text : List Char) : (contentForm text).OfLine := by
  unfold contentForm
  split
  · next content hspeech =>
    obtain ⟨actor, said, rfl⟩ := exists_of_speech? hspeech
    exact .speak actor said
  · split
    · next content hreply =>
      obtain ⟨said, rfl⟩ := exists_of_reply? hreply
      exact .reply said
    · exact .unrecognized

theorem ofLine_classify (text : List Char) : (classify text).OfLine := by
  unfold classify
  split
  · exact ofLine_headerForm (fun _ => .title) _ _
  split
  · exact ofLine_headerForm (fun _ => .conversant) _ _
  -- one step for each marker, in the order in which they are tried
  simp only
  split
  · exact .opens _
  split
  · exact .opens _
  split
  · exact .entryTitle _
  split
  · exact ofLine_linkForm _
  split
  · exact .group _
  split
  · exact .opens _
  split
  · exact .opens _
  exact ofLine_contentForm text

end Dialogue.Script
