import Dialogue.Proofs.Script.Written

/-!
# Written elements are read back

The forms that are left are links, whose argument is told apart by its words, and the lines of
content: a spoken line is known by its first colon and a reply by its arrow, once the text before
them opens no header line and no directive. With these every writable element is read back from its
rows (`Element.Writable.readBack`), so a script of them gives the elements, each on the line where
its text starts (`lex_written`).
-/

namespace Dialogue.Script

open Dialogue.Text

/-! ## Links -/

theorem numeral_ne_current (n : Nat) : numeral n ≠ currentConversation.toList := by
  intro h
  have hsign : '-' ∈ numeral n := by
    rw [h]
    decide
  cases isDigit_of_mem_numeral hsign

theorem trimmed_numeral (n : Nat) : Trimmed (numeral n) :=
  trimmed_of_forall fun _ hc => isBlank_of_isDigit (isDigit_of_mem_numeral hc)

namespace NumericLink

variable (link : NumericLink)

theorem trimmed_written : Trimmed link.written := by
  obtain ⟨conversation, entry⟩ := link
  cases conversation with
  | none => exact trimmed_numeral entry
  | some conversation =>
    have h := (trimmed_numeral conversation).append_append (trimmed_numeral entry)
      (numeral_ne_nil _) (numeral_ne_nil _) [' ']
    rwa [List.append_assoc, List.singleton_append] at h

/-- A link by number is written in digits and blanks. -/
theorem notMem_written {c : Char} (hdigit : c.isDigit = false) (hblank : c ≠ ' ') :
    c ∉ link.written := by
  have hnone : ∀ n, c ∉ numeral n := by
    intro n hc
    rw [isDigit_of_mem_numeral hc] at hdigit
    cases hdigit
  obtain ⟨conversation, entry⟩ := link
  cases conversation with
  | none => exact hnone entry
  | some conversation => simp [written, hnone, hblank]

/-- A link by number is read back from its argument. -/
theorem linkForm_written (hentry : link.entry ≤ maxId)
    (hconversation : ∀ c ∈ link.conversation, c ≤ maxId) :
    linkForm link.written = .whole (.directive (.link link)) := by
  obtain ⟨conversation, entry⟩ := link
  cases conversation with
  | none =>
    have hwords : words (written ⟨none, entry⟩) = [numeral entry] := words_numeral entry
    simp [linkForm, hwords, numericLink?, readId?_numeral hentry]
  | some conversation =>
    have hid : readId? (numeral conversation) = some conversation :=
      readId?_numeral (hconversation _ rfl)
    have hwords : words (written ⟨some conversation, entry⟩) =
        [numeral conversation, numeral entry] := by
      rw [written, words_append_blank (by decide), words_numeral, words_numeral]
      rfl
    simp [linkForm, hwords, numericLink?, linkConversation?, numeral_ne_current, hid,
      readId?_numeral hentry]

end NumericLink

/-- A link by title is read back, if its words write no link by number. -/
theorem linkForm_title {title : List Char} (htrim : Trimmed title) (hne : title ≠ [])
    (hnumeric : numericLink? (words title) = none) :
    linkForm title = .whole (.directive (.titleLink (String.ofList title))) := by
  obtain ⟨c, rest, rfl⟩ := List.exists_cons_of_ne_nil hne
  have hwords := words_ne_nil (s := c :: rest) List.mem_cons_self htrim.head
  simp only [linkForm, hnumeric, if_neg hwords]

/-! ## Lines of content -/

theorem head?_append_ne {s t : List Char} {c : Char} (hs : s.head? ≠ some c)
    (ht : t.head? ≠ some c) : (s ++ t).head? ≠ some c := by
  cases s <;> simp_all

/-- A line that is neither header nor directive is classified by its content. -/
theorem classify_tabs_content {d : Nat} {s : List Char}
    (hheader : ∀ k : Marker, k = .title ∨ k = .npc →
      startsWith k.text.toList (List.replicate d '\t' ++ s) = false)
    (hnone : ∀ m ∈ directiveMarkers, startsWith m.text.toList (trimStart s) = false) :
    classify (List.replicate d '\t' ++ s) = contentForm (List.replicate d '\t' ++ s) := by
  refine classify_eq_contentForm (hheader _ (.inl rfl)) (hheader _ (.inr rfl)) fun m hm => ?_
  rw [trim_tabs]
  exact startsWith_trim_eq_false (hnone m hm)

/-- A trimmed text opens no directive if it does not before something that no marker holds. -/
theorem startsWith_trimStart_append {m : Marker} {s : String} {c : Char} (htrim : Trimmed s.toList)
    (hne : s ≠ "") (hc : c ∉ m.text.toList) (h : startsWith m.text.toList s.toList = false)
    (r : List Char) : startsWith m.text.toList (trimStart (s.toList ++ c :: r)) = false := by
  have hne' : s.toList ≠ [] := by simpa using hne
  rw [trimStart_append_right (htrim.isAllBlank_of_ne_nil hne'), htrim.trimStart_eq,
    startsWith_append_cons hc, h]

/-- A marker that ends in a colon does not start a line whose text before the first colon is another
word. -/
theorem startsWith_colon {w a r : List Char} (hw : ':' ∉ w) (ha : ':' ∉ a) (hne : a ≠ w) :
    startsWith (w ++ [':']) (a ++ ':' :: r) = false := by
  by_contra hstart
  rw [Bool.not_eq_false] at hstart
  obtain ⟨t, ht⟩ := startsWith_iff.1 hstart
  rw [List.append_assoc, List.singleton_append] at ht
  have hfirst := congrArg (List.takeWhile (· ≠ ':')) ht
  have hkeep : ∀ {p : List Char} (q : List Char), ':' ∉ p →
      (p ++ ':' :: q).takeWhile (· ≠ ':') = p := by
    intro p q hp
    have hall : ∀ c ∈ p, c ≠ ':' := by
      rintro c hc rfl
      exact hp hc
    rw [List.takeWhile_append_of_pos (by simpa using hall)]
    simp
  rw [hkeep r ha, hkeep t hw] at hfirst
  exact hne hfirst

/-- A line of speech is no header line, unless the actor at its very start is the word of one. -/
theorem startsWith_header_speech {d : Nat} {actor : String} (hcolon : ':' ∉ actor.toList)
    (hheader : d = 0 → actor ≠ "title" ∧ actor ≠ "npc") {k : Marker} (hk : k = .title ∨ k = .npc)
    (r : List Char) :
    startsWith k.text.toList (List.replicate d '\t' ++ (actor.toList ++ ':' :: r)) = false := by
  have hindent : ':' ∉ List.replicate d '\t' ++ actor.toList := by
    simp [hcolon]
  -- indented, the text before the colon starts with a tab, which the word of a header does not
  have hword : ∀ w : String, '\t' ∉ w.toList → (d = 0 → actor ≠ w) →
      List.replicate d '\t' ++ actor.toList ≠ w.toList := by
    intro w htab hw heq
    cases d with
    | zero => exact hw rfl (String.toList_inj.1 heq)
    | succ d => exact htab (heq ▸ List.mem_append_left _ (by simp))
  rw [← List.append_assoc]
  obtain rfl | rfl := hk
  · exact startsWith_colon (w := "title".toList) (by decide) hindent
      (hword "title" (by decide) fun h => (hheader h).1)
  · exact startsWith_colon (w := "npc".toList) (by decide) hindent
      (hword "npc" (by decide) fun h => (hheader h).2)

/-- A line without a colon is no header line. -/
theorem startsWith_header_of_notMem {s : List Char} (hcolon : ':' ∉ s) {k : Marker}
    (hk : k = .title ∨ k = .npc) : startsWith k.text.toList s = false := by
  by_contra hstart
  rw [Bool.not_eq_false] at hstart
  obtain ⟨t, ht⟩ := startsWith_iff.1 hstart
  have hmarker : ':' ∈ k.text.toList := by
    obtain rfl | rfl := hk <;> decide
  exact hcolon (ht ▸ List.mem_append_left _ hmarker)

/-- What an actor says is classified as that. -/
theorem classify_speech {d : Nat} {actor text : String} (hactor : OneLine actor)
    (htext : OneLine text) (hne : actor ≠ "") (hcolon : ':' ∉ actor.toList)
    (hnothing : OpensNothing actor) (hheader : d = 0 → actor ≠ "title" ∧ actor ≠ "npc") :
    classify (List.replicate d '\t' ++ (actor.toList ++ ':' :: ' ' :: text.toList)) =
      .whole (.content (.speak actor text)) := by
  have hnone : ∀ m ∈ directiveMarkers, startsWith m.text.toList
      (trimStart (actor.toList ++ ':' :: ' ' :: text.toList)) = false := by
    intro m hm
    exact startsWith_trimStart_append hactor.trimmed hne (colon_notMem_directive hm)
      (hnothing m hm) _
  have hspeech := speech?_append (s := List.replicate d '\t' ++ actor.toList) (by simp [hne])
    (by simp [hcolon]) (' ' :: text.toList)
  have hafter : trim (' ' :: text.toList) = text.toList :=
    htext.trimmed.trim_append (p := [' ']) rfl
  rw [List.append_assoc, hactor.trimmed.trim_append (isAllBlank_replicate rfl _), hafter,
    String.ofList_toList, String.ofList_toList] at hspeech
  rw [classify_tabs_content (fun _ hk => startsWith_header_speech hcolon hheader hk _) hnone,
    contentForm, hspeech]

/-- A spoken line is read back. -/
theorem Element.ReadBack.of_speak {e : Element} {actor text : String}
    (hkind : e.kind = .content (.speak actor text)) (he : e.Writable) : e.ReadBack := by
  unfold Element.Writable at he
  rw [hkind] at he
  obtain ⟨hactor, htext, hne, hcolon, hnothing, hheader⟩ := he
  have hwritten : e.written =
      List.replicate e.depth '\t' ++ (actor.toList ++ ':' :: ' ' :: text.toList) := by
    rw [Element.written, hkind]
    rfl
  refine .of_whole (c := ':') ?_ ?_ ?_ ?_ (by simp [hwritten]) (by decide)
  · rw [hwritten]
    simp [hactor.noFeed, htext.noFeed]
  · rw [hwritten, hkind]
    exact classify_speech hactor htext hne hcolon hnothing hheader
  · rw [hkind]
    exact head?_append_ne (hactor.trimmed.head?_ne (by decide)) (by simp)
  · have hend : (' ' :: text.toList).getLast? ≠ some '\r' := by
      by_cases hempty : text.toList = []
      · simp [hempty]
      · exact getLast?_append_ne (s := [' ']) hempty (htext.trimmed.getLast?_ne (by decide))
    have hsplit : e.written =
        List.replicate e.depth '\t' ++ actor.toList ++ [':'] ++ ' ' :: text.toList := by
      simp [hwritten]
    rw [hsplit]
    exact getLast?_append_ne (List.cons_ne_nil _ _) hend

/-- A line that ends in an arrow behind something is a reply. -/
theorem reply?_append {s : List Char} (hne : s ≠ []) :
    reply? (s ++ replyArrow.toList) =
      some (.reply
        (String.ofList (trim (eraseAll replyArrow.toList (s ++ replyArrow.toList))))) := by
  obtain ⟨c, s, rfl⟩ := List.exists_cons_of_ne_nil hne
  rw [List.cons_append, reply?, if_pos (occursIn_append_left _ _)]

/-- The arrow at the end is all that a reply loses. -/
theorem eraseAll_arrow (d : Nat) {s : List Char} (h : occursIn replyArrow.toList s = false) :
    eraseAll replyArrow.toList (List.replicate d '\t' ++ (s ++ ' ' :: replyArrow.toList)) =
      List.replicate d '\t' ++ s ++ [' '] := by
  have htabs : ∀ c ∈ List.replicate d '\t', replyArrow.toList.head? ≠ some c := by
    intro c hc
    rw [List.eq_of_mem_replicate hc]
    decide
  have hlast : eraseAll replyArrow.toList replyArrow.toList = [] := by decide
  rw [eraseAll_append (by decide) htabs, eraseAll_append_cons (by decide) (by decide),
    eraseAll_of_occursIn h, hlast, List.append_assoc]

/-- An answer before an arrow is classified as a reply. -/
theorem classify_reply {d : Nat} {text : String} (htext : OneLine text)
    (hcolon : ':' ∉ text.toList) (harrow : occursIn replyArrow.toList text.toList = false)
    (hnothing : OpensNothing text) :
    classify (List.replicate d '\t' ++ (text.toList ++ ' ' :: replyArrow.toList)) =
      .whole (.content (.reply text)) := by
  have hnocolon : ':' ∉ List.replicate d '\t' ++ (text.toList ++ ' ' :: replyArrow.toList) := by
    simp [hcolon, replyArrow]
  have hnone : ∀ m ∈ directiveMarkers, startsWith m.text.toList
      (trimStart (text.toList ++ ' ' :: replyArrow.toList)) = false := by
    intro m hm
    by_cases hempty : text = ""
    · subst hempty
      revert m
      decide
    · exact startsWith_trimStart_append htext.trimmed hempty m.space_notMem (hnothing m hm) _
  have hsplit : List.replicate d '\t' ++ (text.toList ++ ' ' :: replyArrow.toList) =
      (List.replicate d '\t' ++ text.toList ++ [' ']) ++ replyArrow.toList := by
    simp
  have hreply := reply?_append (s := List.replicate d '\t' ++ text.toList ++ [' ']) (by simp)
  rw [← hsplit, eraseAll_arrow d harrow,
    htext.trimmed.trim_append_append (isAllBlank_replicate rfl _) rfl,
    String.ofList_toList] at hreply
  rw [classify_tabs_content (fun _ hk => startsWith_header_of_notMem hnocolon hk) hnone,
    contentForm, speech?_eq_none hnocolon]
  simp only [hreply]

/-- A reply is read back. -/
theorem Element.ReadBack.of_reply {e : Element} {text : String}
    (hkind : e.kind = .content (.reply text)) (he : e.Writable) : e.ReadBack := by
  unfold Element.Writable at he
  rw [hkind] at he
  obtain ⟨htext, hcolon, harrow, hnothing⟩ := he
  have hwritten : e.written =
      List.replicate e.depth '\t' ++ (text.toList ++ ' ' :: replyArrow.toList) := by
    rw [Element.written, hkind]
    rfl
  refine .of_whole (c := '>') ?_ ?_ ?_ ?_ ?_ (by decide)
  · rw [hwritten]
    simp [htext.noFeed, replyArrow]
  · rw [hwritten, hkind]
    exact classify_reply htext hcolon harrow hnothing
  · rw [hkind]
    exact head?_append_ne (htext.trimmed.head?_ne (by decide)) (by simp)
  · have hsplit : e.written =
        (List.replicate e.depth '\t' ++ text.toList ++ [' ']) ++ replyArrow.toList := by
      simp [hwritten]
    rw [hsplit]
    exact getLast?_append_ne (by decide) (by decide)
  · simp [hwritten, replyArrow]

/-! ## Every form -/

theorem classify_title (value : List Char) :
    classify (Marker.title.text.toList ++ value) = headerForm .title .title value := by
  rw [classify, dropPiece?_eq_some_iff.2 rfl]

theorem classify_npc (value : List Char) :
    classify (Marker.npc.text.toList ++ value) = headerForm .npc .conversant value := by
  have hother : dropPiece? Marker.title.text.toList (Marker.npc.text.toList ++ value) = none := by
    have hstart : startsWith Marker.title.text.toList (Marker.npc.text.toList ++ value) = false :=
      startsWith_cons_of_head? (by decide) (by decide)
    simp [dropPiece?, hstart]
  rw [classify, hother, dropPiece?_eq_some_iff.2 rfl]

theorem close_notMem_written (link : NumericLink) :
    occursIn closeMarker.toList link.written = false := by
  have h := occursIn_close_append (link.notMem_written (c := '>') rfl (by decide)) []
  rwa [List.append_nil] at h

/-- A writable element is read back. -/
theorem Element.Writable.readBack {e : Element} (he : e.Writable) : e.ReadBack := by
  obtain ⟨line, depth, kind⟩ := e
  cases kind with
  | title text =>
    obtain ⟨hdepth, hline, hne⟩ := he
    exact .of_header hdepth rfl rfl (classify_title _) (.inl rfl) hline hne
  | conversant name =>
    obtain ⟨hdepth, hline, hne⟩ := he
    exact .of_header hdepth rfl rfl (classify_npc _) (.inr rfl) hline hne
  | directive d =>
    cases d with
    | script body => exact .of_block .script rfl he
    | condition body => exact .of_block .condition rfl he
    | sequence body => exact .of_block .sequence rfl he
    | title text =>
      refine .of_enclose (m := .entryTitle) (by decide) rfl he.trimmed he.noFeed he.noClose ?_
      intro row hrow
      simp [Marker.form, hrow]
    | link target =>
      refine .of_enclose (m := .link) (by decide) rfl target.trimmed_written
        (target.notMem_written rfl (by decide)) (close_notMem_written target) ?_
      intro row hrow
      rw [Marker.form, hrow]
      exact target.linkForm_written he.1 he.2
    | titleLink title =>
      obtain ⟨hline, hne, hnumeric⟩ := he
      refine .of_enclose (m := .link) (by decide) rfl hline.trimmed hline.noFeed hline.noClose ?_
      intro row hrow
      rw [Marker.form, hrow, linkForm_title hline.trimmed (by simpa using hne) hnumeric,
        String.ofList_toList]
  | content c =>
    cases c with
    | speak actor text => exact .of_speak rfl he
    | reply text => exact .of_reply rfl he
    | group title =>
      refine .of_enclose (m := .group) (by decide) rfl he.trimmed he.noFeed he.noClose ?_
      intro row hrow
      simp [Marker.form, hrow]
    | sequenceNode body => exact .of_block .sequenceNode rfl he

/-! ## Whole scripts -/

variable {es : List Element}

/-- The rows of elements give them back one after another. -/
theorem lexLines_rows (h : ∀ e ∈ es, e.ReadBack) (n : Nat) :
    lexLines (numbered n (es.flatMap Element.rows)) = (placed n es).map .ok := by
  induction es generalizing n with
  | nil => exact lexLines_nil
  | cons e es ih =>
    have hrest := ih (fun e' he' => h e' (List.mem_cons_of_mem e he')) (n + e.rows.length)
    rw [List.flatMap_cons, numbered_append, (h e List.mem_cons_self).lexed, hrest]
    rfl

/-- Lexing reads back what is written: every writable element, with its depth, on the line where its
text starts. -/
theorem lex_written (h : ∀ e ∈ es, e.Writable)
    (hmark : (written es).toList.head? ≠ some '\ufeff') :
    lex (written es) = (placed 1 es).map .ok := by
  by_cases hes : es = []
  · subst hes
    exact lexLines_nil
  · have hback : ∀ e ∈ es, e.ReadBack := fun e he => (h e he).readBack
    have hrows : (written es).toList.splitOn '\n' = es.flatMap Element.rows := by
      rw [written, String.toList_ofList, splitOn_intercalate_eq_flatMap (by simpa using hes),
        List.flatMap_map]
      rfl
    have hplain : ∀ row ∈ (written es).toList.splitOn '\n',
        isAllBlank row = false ∧ row.getLast? ≠ some '\r' := by
      intro row hrow
      rw [hrows, List.mem_flatMap] at hrow
      obtain ⟨e, he, hrow⟩ := hrow
      exact (hback e he).rows row hrow
    rw [lex, sourceLines_eq_numbered hmark hplain, hrows, lexLines_rows hback]

/-- One element of each form, the blocks over several lines or none. -/
def everyForm : List Element :=
  [⟨0, 0, .title "The Hall"⟩, ⟨0, 0, .conversant "Mira: the guide"⟩,
    ⟨0, 0, .content (.speak "Mira" "Who goes -> there?")⟩,
    ⟨0, 1, .directive (.script "a = 1;\n---\n<<cond")⟩,
    ⟨0, 1, .content (.reply "A friend")⟩,
    ⟨0, 2, .content (.sequenceNode "Camera(Full);\n<<seq")⟩,
    ⟨0, 2, .directive (.sequence "")⟩,
    ⟨0, 3, .directive (.condition "x < 2")⟩,
    ⟨0, 0, .directive (.title "aside: >")⟩,
    ⟨0, 0, .content (.group "-> 1 2")⟩,
    ⟨0, 4, .directive (.link ⟨none, 7⟩)⟩,
    ⟨0, 4, .directive (.link ⟨some 3, 4294967295⟩)⟩,
    ⟨0, 4, .directive (.titleLink "-1 door")⟩,
    ⟨0, 1, .content (.speak "title" "")⟩,
    ⟨0, 0, .content (.reply "")⟩]

theorem lex_written_everyForm :
    (∀ e ∈ everyForm, e.Writable) ∧ (written everyForm).toList.head? ≠ some '\ufeff' ∧
      lex (written everyForm) = (placed 1 everyForm).map .ok := by
  have hforms : ∀ e ∈ everyForm, e.Writable := by decide +kernel
  have hmark : (written everyForm).toList.head? ≠ some '\ufeff' := by
    rw [written, String.toList_ofList]
    decide +kernel
  exact ⟨hforms, hmark, lex_written hforms hmark⟩

end Dialogue.Script
