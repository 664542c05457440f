import Dialogue.Proofs.Script.Forms
import Dialogue.Proofs.Script.Items
import Dialogue.Proofs.Text.Numerals

/-!
# Elements as they are written

`Element.written` writes an element as a person would: tabs for its depth, then a header line, a
directive between its marks, or a line of content. `Element.Writable` says which payloads the form
of an element can hold.

Reading is settled one element at a time (`Element.ReadBack`), here for header lines and directives.
What `classify` says of the first line is in `Proofs/Script/Forms`. A line that is a whole element
is then read back from its payload; the rows of a block are, joined again, the text that was
written, so its body comes back by erasing the marks.
-/

namespace Dialogue.Script

open Dialogue.Text

/-! ## Writing -/

/-- The argument of a link by number. -/
def NumericLink.written (link : NumericLink) : List Char :=
  match link.conversation with
  | none => numeral link.entry
  | some conversation => numeral conversation ++ ' ' :: numeral link.entry

/-- A directive with this argument between its marks. -/
def Marker.enclose (marker : Marker) (argument : List Char) : List Char :=
  marker.text.toList ++ ' ' :: (argument ++ closeMarker.toList)

/-- The text of an element behind its tabs. -/
def ElementKind.written : ElementKind → List Char
  | .title text => Marker.title.text.toList ++ ' ' :: text.toList
  | .conversant name => Marker.npc.text.toList ++ ' ' :: name.toList
  | .directive (.script body) => Marker.script.enclose body.toList
  | .directive (.condition body) => Marker.condition.enclose body.toList
  | .directive (.sequence body) => Marker.sequence.enclose body.toList
  | .directive (.title text) => Marker.entryTitle.enclose text.toList
  | .directive (.link target) => Marker.link.enclose target.written
  | .directive (.titleLink target) => Marker.link.enclose target.toList
  | .content (.speak actor text) => actor.toList ++ ':' :: ' ' :: text.toList
  | .content (.reply text) => text.toList ++ ' ' :: replyArrow.toList
  | .content (.group text) => Marker.group.enclose text.toList
  | .content (.sequenceNode body) => Marker.sequenceNode.enclose body.toList

/-- The text of an element, whatever line it is said to be on. -/
def Element.written (e : Element) : List Char :=
  List.replicate e.depth '\t' ++ e.kind.written

/-- The text of elements, one below the other. -/
def written (elements : List Element) : String :=
  String.ofList (['\n'].intercalate (elements.map Element.written))

/-- The rows of an element. -/
def Element.rows (e : Element) : List (List Char) := e.written.splitOn '\n'

/-- The elements on the lines that they are written on, the first one on this line. -/
def placed : Nat → List Element → List Element
  | _, [] => []
  | n, e :: elements => { e with line := n } :: placed (n + e.rows.length) elements

/-! ## What can be written -/

/-- A text on one line, with nothing to trim. -/
structure OneLine (s : String) : Prop where
  trimmed : Trimmed s.toList
  noFeed : '\n' ∉ s.toList

/-- A text on one line that closes no directive. -/
structure Argument (s : String) : Prop extends OneLine s where
  noClose : occursIn closeMarker.toList s.toList = false

/-- The body of a block with this marker, perhaps over several lines. -/
structure Body (marker : Marker) (s : String) : Prop where
  trimmed : Trimmed s.toList
  noTab : '\t' ∉ s.toList
  noClose : occursIn closeMarker.toList s.toList = false
  noMarker : occursIn marker.text.toList s.toList = false
  rows : s ≠ "" → ∀ row ∈ s.toList.splitOn '\n', isAllBlank row = false ∧ row.getLast? ≠ some '\r'

instance : DecidablePred OneLine := fun s =>
  decidable_of_iff (Trimmed s.toList ∧ '\n' ∉ s.toList)
    ⟨fun ⟨h, h'⟩ => ⟨h, h'⟩, fun ⟨h, h'⟩ => ⟨h, h'⟩⟩

instance : DecidablePred Argument := fun s =>
  decidable_of_iff (OneLine s ∧ occursIn closeMarker.toList s.toList = false)
    ⟨fun ⟨h, h'⟩ => ⟨h, h'⟩, fun ⟨h, h'⟩ => ⟨h, h'⟩⟩

instance (marker : Marker) : DecidablePred (Body marker) := fun s =>
  decidable_of_iff
    (Trimmed s.toList ∧ '\t' ∉ s.toList ∧ occursIn closeMarker.toList s.toList = false ∧
      occursIn marker.text.toList s.toList = false ∧
      (s ≠ "" → ∀ row ∈ s.toList.splitOn '\n',
        isAllBlank row = false ∧ row.getLast? ≠ some '\r'))
    ⟨fun ⟨h₁, h₂, h₃, h₄, h₅⟩ => ⟨h₁, h₂, h₃, h₄, h₅⟩,
      fun ⟨h₁, h₂, h₃, h₄, h₅⟩ => ⟨h₁, h₂, h₃, h₄, h₅⟩⟩

/-- A text that starts with no marker of a directive. -/
def OpensNothing (s : String) : Prop :=
  ∀ m ∈ directiveMarkers, startsWith m.text.toList s.toList = false

/-- An element whose payload its form can hold. -/
def Element.Writable (e : Element) : Prop :=
  match e.kind with
  | .title text | .conversant text => e.depth = 0 ∧ OneLine text ∧ text ≠ ""
  | .directive (.script body) => Body .script body
  | .directive (.condition body) => Body .condition body
  | .directive (.sequence body) => Body .sequence body
  | .directive (.title text) => Argument text
  | .directive (.link target) => target.entry ≤ maxId ∧ ∀ c ∈ target.conversation, c ≤ maxId
  | .directive (.titleLink title) =>
    Argument title ∧ title ≠ "" ∧ numericLink? (words title.toList) = none
  | .content (.speak actor text) =>
    OneLine actor ∧ OneLine text ∧ actor ≠ "" ∧ ':' ∉ actor.toList ∧ OpensNothing actor ∧
      (e.depth = 0 → actor ≠ "title" ∧ actor ≠ "npc")
  | .content (.reply text) =>
    OneLine text ∧ ':' ∉ text.toList ∧ occursIn replyArrow.toList text.toList = false ∧
      OpensNothing text
  | .content (.group title) => Argument title
  | .content (.sequenceNode sequence) => Body .sequenceNode sequence

instance : DecidablePred OpensNothing := fun s =>
  inferInstanceAs (Decidable (∀ m ∈ directiveMarkers, startsWith m.text.toList s.toList = false))

instance : DecidablePred Element.Writable := fun ⟨_, depth, kind⟩ =>
  match kind with
  | .title text => inferInstanceAs (Decidable (depth = 0 ∧ OneLine text ∧ text ≠ ""))
  | .conversant name => inferInstanceAs (Decidable (depth = 0 ∧ OneLine name ∧ name ≠ ""))
  | .directive (.script body) => inferInstanceAs (Decidable (Body .script body))
  | .directive (.condition body) => inferInstanceAs (Decidable (Body .condition body))
  | .directive (.sequence body) => inferInstanceAs (Decidable (Body .sequence body))
  | .directive (.title text) => inferInstanceAs (Decidable (Argument text))
  | .directive (.link target) =>
    inferInstanceAs (Decidable (target.entry ≤ maxId ∧ ∀ c ∈ target.conversation, c ≤ maxId))
  | .directive (.titleLink title) =>
    inferInstanceAs (Decidable
      (Argument title ∧ title ≠ "" ∧ numericLink? (words title.toList) = none))
  | .content (.speak actor text) =>
    inferInstanceAs (Decidable
      (OneLine actor ∧ OneLine text ∧ actor ≠ "" ∧ ':' ∉ actor.toList ∧ OpensNothing actor ∧
        (depth = 0 → actor ≠ "title" ∧ actor ≠ "npc")))
  | .content (.reply text) =>
    inferInstanceAs (Decidable
      (OneLine text ∧ ':' ∉ text.toList ∧ occursIn replyArrow.toList text.toList = false ∧
        OpensNothing text))
  | .content (.group title) => inferInstanceAs (Decidable (Argument title))
  | .content (.sequenceNode sequence) => inferInstanceAs (Decidable (Body .sequenceNode sequence))

/-! ## Directives -/

/-- What holds no sign of a close mark does not start one. -/
theorem head?_close_ne {p : List Char} (hp : '>' ∉ p) :
    ∀ c ∈ p, closeMarker.toList.head? ≠ some c := by
  intro c hc hhead
  have hsign : c = '>' := (Option.some.inj hhead).symm
  exact hp (hsign ▸ hc)

theorem occursIn_close_append {p : List Char} (hp : '>' ∉ p) (s : List Char) :
    occursIn closeMarker.toList (p ++ s) = occursIn closeMarker.toList s :=
  occursIn_append (by decide) (head?_close_ne hp)

theorem eraseAll_close_append {p : List Char} (hp : '>' ∉ p) (s : List Char) :
    eraseAll closeMarker.toList (p ++ s) = p ++ eraseAll closeMarker.toList s :=
  eraseAll_append (by decide) (head?_close_ne hp)

/-- The close mark is taken off the end of what holds none. -/
theorem eraseAll_close {s : List Char} (h : occursIn closeMarker.toList s = false) :
    eraseAll closeMarker.toList (s ++ closeMarker.toList) = s :=
  eraseAll_append_pair h

theorem getLast?_enclose (p : List Char) (m : Marker) (a : List Char) :
    (p ++ m.enclose a).getLast? = some '>' := by
  have hsplit : p ++ m.enclose a = (p ++ (m.text.toList ++ ' ' :: (a ++ ['>']))) ++ ['>'] := by
    simp [Marker.enclose, closeMarker]
  rw [hsplit, List.getLast?_concat]

section directive

variable {m : Marker} (hm : m ∈ directiveMarkers)
include hm

/-- A directive is no header line. -/
theorem startsWith_header_directive {k : Marker} (hk : k = .title ∨ k = .npc) (d : Nat)
    (r : List Char) :
    startsWith k.text.toList (List.replicate d '\t' ++ (m.text.toList ++ r)) = false := by
  have hhead := head?_directive hm
  obtain ⟨c, t, ht⟩ := List.exists_cons_of_ne_nil m.text_ne_nil
  rw [ht, List.head?_cons, Option.some.injEq] at hhead
  rw [ht, hhead]
  have hne := k.text_ne_nil
  cases d with
  | zero =>
    refine startsWith_cons_of_head? ?_ hne
    obtain rfl | rfl := hk <;> decide
  | succ d =>
    refine startsWith_cons_of_head? ?_ hne
    obtain rfl | rfl := hk <;> decide

/-- A line that a directive opens is classified by its marker. -/
theorem classify_tabs_directive (d : Nat) (r : List Char) :
    classify (List.replicate d '\t' ++ (m.text.toList ++ ' ' :: r)) =
      m.form (List.replicate d '\t' ++ (m.text.toList ++ ' ' :: r)) :=
  classify_directive hm (startsWith_header_directive hm (.inl rfl) d _)
    (startsWith_header_directive hm (.inr rfl) d _) fun k => startsWith_trim_directive hm k d

theorem isSeparator_directive (d : Nat) (r : List Char) :
    isSeparator (List.replicate d '\t' ++ (m.text.toList ++ ' ' :: r)) = false := by
  have hopen : '<' ∈ m.text.toList := List.mem_of_head? (head?_directive hm)
  exact isSeparator_eq_false (c := '<') (by simp [hopen]) (by decide) (by decide) (by decide)

theorem depthOf_directive (d : Nat) (r : List Char) :
    depthOf (List.replicate d '\t' ++ (m.text.toList ++ ' ' :: r)) = d := by
  refine depthOf_tabs d ?_
  rw [List.head?_append, head?_directive hm]
  simp

/-- The argument of a directive on one line is what stands behind its marker, without close marks. -/
theorem inlineArgument_directive (d : Nat) (s : List Char) :
    inlineArgument m (List.replicate d '\t' ++ (m.text.toList ++ ' ' :: s)) =
      trim (eraseAll closeMarker.toList s) := by
  have hblank : isAllBlank (List.replicate d '\t' ++ [' ']) = true := by
    rw [isAllBlank_append, isAllBlank_replicate rfl]
    rfl
  have hrest : List.replicate d '\t' ++ ' ' :: s = List.replicate d '\t' ++ [' '] ++ s := by simp
  rw [inlineArgument, eraseFirst_append_append m.text_ne_nil (head?_ne_of_tabs hm d), hrest,
    eraseAll_close_append (by simp), trim_append hblank]

/-- The argument of a directive on one line is read back. -/
theorem inlineArgument_enclose {a : List Char} (ha : Trimmed a)
    (hclose : occursIn closeMarker.toList a = false) (d : Nat) :
    inlineArgument m (List.replicate d '\t' ++ m.enclose a) = a := by
  rw [Marker.enclose, inlineArgument_directive hm, eraseAll_close hclose]
  exact ha

/-- The body of a block is what stands behind its marker, without this marker, close marks and
tabs. -/
theorem blockBody_directive (d : Nat) (s : List Char) {ls : List Line}
    (hls : ['\n'].intercalate (ls.map Line.text) =
      List.replicate d '\t' ++ (m.text.toList ++ ' ' :: s)) :
    blockBody m ls = String.ofList (trim
      ((eraseAll closeMarker.toList (eraseAll m.text.toList s)).filter (· ≠ '\t'))) := by
  have hspace : ∀ c ∈ [' '], m.text.toList.head? ≠ some c := by
    intro c hc
    rw [List.mem_singleton.1 hc, head?_directive hm]
    decide
  have hopen : eraseAll m.text.toList (List.replicate d '\t' ++ (m.text.toList ++ ' ' :: s)) =
      List.replicate d '\t' ++ [' '] ++ eraseAll m.text.toList s := by
    rw [eraseAll_append m.text_ne_nil (head?_ne_of_tabs hm d), eraseAll_append_piece m.text_ne_nil,
      ← List.singleton_append, eraseAll_append m.text_ne_nil hspace, List.append_assoc]
  have htabs : (List.replicate d '\t' ++ [' ']).filter (· ≠ '\t') = [' '] := by simp
  unfold blockBody
  simp only [hls, hopen]
  rw [eraseAll_close_append (by simp), List.filter_append, htabs, trim_append rfl]

/-- Of what is enclosed, only the argument can hold the marker. -/
theorem eraseAll_marker_close (a : List Char) :
    eraseAll m.text.toList (a ++ closeMarker.toList) =
      eraseAll m.text.toList a ++ closeMarker.toList := by
  have hsign := close_notMem_directive hm
  have hpair : a ++ closeMarker.toList = a ++ ['>'] ++ ['>'] := by simp [closeMarker]
  rw [hpair, eraseAll_concat m.text_ne_nil hsign, eraseAll_concat m.text_ne_nil hsign,
    List.append_assoc]
  rfl

/-- The body of a block is read back. -/
theorem blockBody_enclose {a : List Char} (ha : Trimmed a) (htab : '\t' ∉ a)
    (hclose : occursIn closeMarker.toList a = false) (hmarker : occursIn m.text.toList a = false)
    (d : Nat) {ls : List Line}
    (hls : ['\n'].intercalate (ls.map Line.text) = List.replicate d '\t' ++ m.enclose a) :
    blockBody m ls = String.ofList a := by
  have htabs : a.filter (· ≠ '\t') = a := by
    rw [List.filter_eq_self]
    intro c hc
    simpa using ne_of_mem_of_not_mem hc htab
  rw [blockBody_directive hm d _ hls, eraseAll_marker_close hm, eraseAll_of_occursIn hmarker,
    eraseAll_close hclose, htabs, ha]

end directive

/-! ## Reading one element -/

/-- The rows of an element are lines that hold something, and from those the element is read,
whatever stands below it. -/
structure Element.ReadBack (e : Element) : Prop where
  rows : ∀ row ∈ e.rows, isAllBlank row = false ∧ row.getLast? ≠ some '\r'
  lexed : ∀ n rest, lexLines (numbered n e.rows ++ rest) = .ok { e with line := n } :: lexLines rest

/-- The character at the end of what comes last is no carriage return. -/
theorem getLast?_append_ne {s t : List Char} (ht : t ≠ []) (h : t.getLast? ≠ some '\r') :
    (s ++ t).getLast? ≠ some '\r' := by
  obtain ⟨c, hc⟩ := Option.isSome_iff_exists.1 (List.getLast?_isSome.2 ht)
  rw [List.getLast?_append, hc, Option.some_or, ← hc]
  exact h

/-- A row that is a whole element is read back. -/
theorem Element.ReadBack.of_whole {e : Element} (hfeed : '\n' ∉ e.written)
    (hclass : classify e.written = .whole e.kind) (htab : e.kind.written.head? ≠ some '\t')
    (hlast : e.written.getLast? ≠ some '\r') {c : Char} (hc : c ∈ e.written)
    (hsign : isBlank c = false ∧ c ≠ '-' ∧ c ≠ '=') : e.ReadBack := by
  have hrows : e.rows = [e.written] := List.splitOn_eq_singleton hfeed
  refine ⟨?_, ?_⟩
  · intro row hrow
    rw [hrows, List.mem_singleton] at hrow
    rw [hrow]
    exact ⟨isAllBlank_eq_false hc hsign.1, hlast⟩
  · intro n rest
    have hdepth : depthOf e.written = e.depth := depthOf_tabs e.depth htab
    have hsep := isSeparator_eq_false hc hsign.1 hsign.2.1 hsign.2.2
    rw [hrows]
    change lexLines (⟨n, e.written⟩ :: rest) = _
    rw [lexLines_whole hsep hclass, hdepth]

/-- A directive on one line is read back from its argument. -/
theorem Element.ReadBack.of_enclose {e : Element} {m : Marker} (hm : m ∈ directiveMarkers)
    {a : List Char} (hwritten : e.kind.written = m.enclose a) (ha : Trimmed a) (hfeed : '\n' ∉ a)
    (hclose : occursIn closeMarker.toList a = false)
    (hform : ∀ text, inlineArgument m text = a → m.form text = .whole e.kind) : e.ReadBack := by
  have htext : e.written = List.replicate e.depth '\t' ++ m.enclose a := by
    rw [Element.written, hwritten]
  have hopen : '<' ∈ m.text.toList := List.mem_of_head? (head?_directive hm)
  refine .of_whole (c := '<') ?_ ?_ ?_ ?_ ?_ (by decide)
  · rw [htext]
    simp [Marker.enclose, m.feed_notMem, hfeed, closeMarker]
  · rw [htext, Marker.enclose, classify_tabs_directive hm, ← Marker.enclose]
    exact hform _ (inlineArgument_enclose hm ha hclose e.depth)
  · rw [hwritten, Marker.enclose, List.head?_append, head?_directive hm]
    simp
  · rw [htext, getLast?_enclose]
    decide
  · rw [htext]
    simp [Marker.enclose, hopen]

theorem Block.marker_mem (block : Block) : block.marker ∈ directiveMarkers := by
  cases block <;> decide

theorem Block.form_marker (block : Block) (text : List Char) :
    block.marker.form text = .opens block := by
  cases block <;> rfl

theorem Block.written_kind (block : Block) (s : String) :
    (block.kind s).written = block.marker.enclose s.toList := by
  cases block <;> rfl

/-- The rows of a block: all but the last are without a close mark, and the first one opens it. -/
theorem exists_rows_enclose {m : Marker} (hm : m ∈ directiveMarkers) {a : List Char}
    (hclose : occursIn closeMarker.toList a = false) (d : Nat) :
    ∃ front fin, (List.replicate d '\t' ++ m.enclose a).splitOn '\n' = front ++ [fin] ∧
      (∀ row ∈ front, occursIn closeMarker.toList row = false) ∧
      occursIn closeMarker.toList fin = true ∧
      ∃ r rows,
        front ++ [fin] = (List.replicate d '\t' ++ (m.text.toList ++ ' ' :: r)) :: rows := by
  have hopen : '\n' ∉ List.replicate d '\t' ++ (m.text.toList ++ [' ']) := by
    simp [m.feed_notMem]
  have hpad : '>' ∉ List.replicate d '\t' ++ (m.text.toList ++ [' ']) := by
    simp [close_notMem_directive hm]
  have hfront := occursIn_close_append hpad a
  have hleft := splitOn_append_left hopen (a ++ closeMarker.toList)
  have hright := splitOn_append_right (p := closeMarker.toList) (by decide)
    (List.replicate d '\t' ++ (m.text.toList ++ [' ']) ++ a)
  have hwhole : List.replicate d '\t' ++ m.enclose a =
      List.replicate d '\t' ++ (m.text.toList ++ [' ']) ++ (a ++ closeMarker.toList) := by
    simp [Marker.enclose]
  have hwhole' : List.replicate d '\t' ++ m.enclose a =
      List.replicate d '\t' ++ (m.text.toList ++ [' ']) ++ a ++ closeMarker.toList := by
    simp [Marker.enclose]
  obtain ⟨r, rows, hrows⟩ := List.exists_cons_of_ne_nil
    (List.splitOn_ne_nil '\n' (a ++ closeMarker.toList))
  refine ⟨_, _, by rw [hwhole', hright], ?_, ?_, ?_⟩
  · intro row hrow
    by_contra hoccurs
    rw [Bool.not_eq_false] at hoccurs
    have hinfix := infix_of_mem_splitOn ((List.dropLast_sublist _).subset hrow)
    rw [occursIn_mono hinfix hoccurs, hclose] at hfront
    cases hfront
  · exact occursIn_append_left _ _
  · rw [← hright, ← hwhole', hwhole, hleft, hrows]
    exact ⟨r, rows, by simp⟩

/-- The rows of a block hold something each and end in no carriage return. -/
theorem plain_of_mem_enclose {m : Marker} (hm : m ∈ directiveMarkers) {s : String} (hs : Body m s)
    (d : Nat) : ∀ row ∈ (List.replicate d '\t' ++ m.enclose s.toList).splitOn '\n',
      isAllBlank row = false ∧ row.getLast? ≠ some '\r' := by
  have hopen : '<' ∈ m.text.toList := List.mem_of_head? (head?_directive hm)
  obtain ⟨init, last, hrows⟩ := exists_splitOn_eq s.toList
  have hwhole : List.replicate d '\t' ++ m.enclose s.toList =
      List.replicate d '\t' ++ (m.text.toList ++ [' ']) ++ (s.toList ++ closeMarker.toList) := by
    simp [Marker.enclose]
  have hclosed : ∀ p : List Char, (p ++ closeMarker.toList).getLast? ≠ some '\r' := by
    intro p
    exact getLast?_append_ne (by decide) (by decide)
  have hfin : '>' ∈ last ++ closeMarker.toList := List.mem_append_right _ (by decide)
  rw [hwhole, splitOn_enclosed (by simp [m.feed_notMem]) (by decide) hrows]
  cases init with
  | nil =>
    intro row hrow
    simp only [List.nil_append, List.modifyHead_cons, List.mem_singleton] at hrow
    rw [hrow, ← List.append_assoc]
    exact ⟨isAllBlank_eq_false (c := '<') (by simp [hopen]) (by decide), hclosed _⟩
  | cons first init =>
    have hne : s ≠ "" := by
      rintro rfl
      simp at hrows
    have hbody := hs.rows hne
    rw [hrows] at hbody
    intro row hrow
    simp only [List.cons_append, List.modifyHead_cons, List.mem_cons, List.mem_append,
      List.not_mem_nil, or_false] at hrow
    obtain rfl | hrow | rfl := hrow
    · have hfirst := hbody first (by simp)
      have hfirstne : first ≠ [] := by
        rintro rfl
        cases hfirst.1
      exact ⟨isAllBlank_eq_false (c := '<') (by simp [hopen]) (by decide),
        getLast?_append_ne hfirstne hfirst.2⟩
    · exact hbody row (by simp [hrow])
    · exact ⟨isAllBlank_eq_false hfin (by decide), hclosed _⟩

/-- A block is read back from its rows. -/
theorem Element.ReadBack.of_block {e : Element} (block : Block) {s : String}
    (hkind : e.kind = block.kind s) (hs : Body block.marker s) : e.ReadBack := by
  have hm := block.marker_mem
  have hwritten : e.written = List.replicate e.depth '\t' ++ block.marker.enclose s.toList := by
    rw [Element.written, hkind, block.written_kind]
  refine ⟨?_, ?_⟩
  · unfold Element.rows
    rw [hwritten]
    exact plain_of_mem_enclose hm hs e.depth
  · intro n rest
    obtain ⟨front, fin, hrows, hfront, hfin, r, rows, hfirst⟩ :=
      exists_rows_enclose hm hs.noClose e.depth
    have hall : e.rows = front ++ [fin] := by rw [Element.rows, hwritten, hrows]
    have hjoin : ['\n'].intercalate e.rows = e.written := List.intercalate_splitOn '\n'
    have hbody : blockBody block.marker (numbered n e.rows) = s := by
      rw [blockBody_enclose hm hs.trimmed hs.noTab hs.noClose hs.noMarker e.depth
        (by rw [map_text_numbered, hjoin, hwritten]), String.ofList_toList]
    have hsplit : splitBlock? (numbered n e.rows ++ rest) = some (numbered n e.rows, rest) := by
      have hopen : ∀ l ∈ numbered n front, occursIn closeMarker.toList l.text = false := by
        intro l hl
        refine hfront _ ?_
        rw [← map_text_numbered n front]
        exact List.mem_map_of_mem hl
      have hlines : numbered n e.rows = numbered n front ++ [⟨n + front.length, fin⟩] := by
        rw [hall, numbered_append]
        rfl
      rw [hlines, List.append_assoc, List.singleton_append, splitBlock?_append rest hopen hfin]
    have hcons : numbered n e.rows =
        ⟨n, List.replicate e.depth '\t' ++ (block.marker.text.toList ++ ' ' :: r)⟩ ::
          numbered (n + 1) rows := by
      rw [hall, hfirst]
      rfl
    have hclass := classify_tabs_directive hm e.depth r
    rw [block.form_marker] at hclass
    rw [hcons, List.cons_append] at hsplit ⊢
    rw [lexLines_block (isSeparator_directive hm e.depth r) hclass hsplit, ← hcons, hbody,
      depthOf_directive hm, ← hkind]

/-- A header line is read back from its value. -/
theorem Element.ReadBack.of_header {e : Element} {m : Marker} {kind : String → ElementKind}
    {value : String} (hdepth : e.depth = 0) (hkind : e.kind = kind value)
    (hwritten : (kind value).written = m.text.toList ++ ' ' :: value.toList)
    (hclass : classify (m.text.toList ++ ' ' :: value.toList) =
      headerForm m kind (' ' :: value.toList))
    (hm : m = .title ∨ m = .npc) (hvalue : OneLine value) (hne : value ≠ "") : e.ReadBack := by
  have htext : e.written = m.text.toList ++ ' ' :: value.toList := by
    rw [Element.written, hkind, hwritten, hdepth]
    rfl
  have htrim : trim (' ' :: value.toList) = value.toList :=
    hvalue.trimmed.trim_append (p := [' ']) rfl
  have hne' : value.toList ≠ [] := by simpa using hne
  have hcolon : ':' ∈ m.text.toList := by
    obtain rfl | rfl := hm <;> decide
  refine .of_whole (c := ':') ?_ ?_ ?_ ?_ (by simp [htext, hcolon]) (by decide)
  · rw [htext]
    simp [m.feed_notMem, hvalue.noFeed]
  · rw [htext, hclass, headerForm, htrim, if_neg hne', String.ofList_toList, hkind]
  · rw [hkind, hwritten, List.head?_append]
    obtain rfl | rfl := hm <;> simp [Marker.text]
  · rw [htext]
    refine getLast?_append_ne (by simp) ?_
    rw [← List.singleton_append]
    exact getLast?_append_ne hne' (hvalue.trimmed.getLast?_ne (by decide))

end Dialogue.Script
