import Dialogue.Proofs.Script.Filled

/-!
# Lines that nobody speaks

The speaker of a spoken line is what stands before a colon, without the blanks around it, and at
least one character has to stand there (`speech?_eq_some_iff`). That one may be a blank. So a line
that is set in and starts with a colon is spoken by nobody, and these are the only ones
(`speaker_eq_empty_iff`). A header line cannot be without its value, so no other element names
anybody by a blank name (`exists_row_of_mem_names`).
-/

namespace Dialogue.Script

open Dialogue.Text

/-- Nothing but blanks stands before a colon. A line that is not set in has none. -/
def NamesNobody (row : List Char) : Prop :=
  ∃ blanks said, blanks ≠ [] ∧ isAllBlank blanks = true ∧ row = blanks ++ ':' :: said

/-- Who is named by an element. -/
def ElementKind.names : ElementKind → List String
  | .conversant name | .content (.speak name _) => [name]
  | .title _ | .directive _ | .content _ => []

/-- The row that an element starts on. -/
def Element.row? (source : String) (e : Element) : Option (List Char) :=
  (lines (dropByteOrderMark source.toList))[e.line - 1]?

variable {text : List Char} {actor said : String}

/-! ## Speech -/

/-- A spoken line is a colon, with something before it in which no other colon stands, unless it is
the first character. -/
theorem speech?_eq_some_iff :
    speech? text = some (.speak actor said) ↔
      ∃ c front back, text = c :: (front ++ ':' :: back) ∧ ':' ∉ front ∧
        actor = String.ofList (trim (c :: front)) ∧ said = String.ofList (trim back) := by
  constructor
  · intro h
    unfold speech? at h
    split at h
    · cases h
    · next c s =>
      split at h
      · cases h
      · next colon back hdrop =>
        have hcolon : colon = ':' := by
          have hhead := List.head?_dropWhile_not (· ≠ ':') s
          rw [hdrop] at hhead
          simpa using hhead
        subst hcolon
        have hfront : ':' ∉ s.takeWhile (· ≠ ':') := by
          intro hmem
          simpa using List.mem_takeWhile_imp hmem
        have hs : s = s.takeWhile (· ≠ ':') ++ ':' :: back := by
          rw [← hdrop, List.takeWhile_append_dropWhile]
        cases h
        exact ⟨c, _, back, congrArg (c :: ·) hs, hfront, rfl, rfl⟩
  · rintro ⟨c, front, back, rfl, hfront, rfl, rfl⟩
    exact speech?_cons_append c hfront back

/-- Only a line that is no header line and no directive is spoken. -/
theorem speech?_of_classify (h : classify text = .whole (.content (.speak actor said))) :
    speech? text = some (.speak actor said) := by
  have hheader : ∀ (marker : Marker) (kind : String → ElementKind) (value : List Char),
      (∀ t, kind t ≠ .content (.speak actor said)) →
        headerForm marker kind value ≠ .whole (.content (.speak actor said)) := by
    intro marker kind value hkind heq
    unfold headerForm at heq
    split at heq
    · cases heq
    · exact hkind _ (Form.whole.inj heq)
  have hlink : ∀ argument, linkForm argument ≠ .whole (.content (.speak actor said)) := by
    intro argument heq
    unfold linkForm at heq
    simp only at heq
    split at heq
    · cases heq
    · split at heq <;> cases heq
  unfold classify at h
  split at h
  · exact absurd h (hheader _ _ _ nofun)
  split at h
  · exact absurd h (hheader _ _ _ nofun)
  -- one step for each marker, in the order in which they are tried
  simp only at h
  split at h
  · cases h
  split at h
  · cases h
  split at h
  · cases h
  split at h
  · exact absurd h (hlink _)
  split at h
  · cases h
  split at h
  · cases h
  split at h
  · cases h
  unfold contentForm at h
  split at h
  · next content hspeech =>
    cases h
    exact hspeech
  · split at h
    · next content hreply =>
      obtain ⟨_, rfl⟩ := exists_of_reply? hreply
      cases h
    · cases h

/-! ## Rows -/

/-- Blanks before a colon start no header line and no directive, and name nobody. -/
theorem classify_of_namesNobody (h : NamesNobody text) :
    ∃ said, classify text = .whole (.content (.speak "" said)) := by
  obtain ⟨blanks, back, hne, hblank, rfl⟩ := h
  obtain ⟨c, blanks, rfl⟩ := List.exists_cons_of_ne_nil hne
  have hc : isBlank c = true := by
    simp only [isAllBlank, List.all_cons, Bool.and_eq_true] at hblank
    exact hblank.1
  have hcolon : ':' ∉ c :: blanks := by
    intro hmem
    have hcontra := List.all_eq_true.1 hblank ':' hmem
    revert hcontra
    decide
  have hheader : ∀ m ∈ [Marker.title, Marker.npc],
      startsWith m.text.toList (c :: blanks ++ ':' :: back) = false := by
    intro m hm
    refine startsWith_cons_of_head? ?_ m.text_ne_nil
    intro hhead
    have hword : ∀ m ∈ [Marker.title, Marker.npc], m.text.toList.head?.all (!isBlank ·) = true := by
      decide
    have hcontra := hword m hm
    rw [hhead] at hcontra
    simp [hc] at hcontra
  have hdirective : ∀ m ∈ directiveMarkers,
      startsWith m.text.toList (trim (c :: blanks ++ ':' :: back)) = false := by
    intro m hm
    refine startsWith_trim_eq_false ?_
    rw [trimStart_append hblank, trimStart_cons (by decide)]
    refine startsWith_cons_of_head? ?_ m.text_ne_nil
    rw [head?_directive hm]
    decide
  refine ⟨String.ofList (trim back), ?_⟩
  rw [classify_eq_contentForm (hheader _ (by simp)) (hheader _ (by simp)) hdirective, contentForm,
    speech?_append (List.cons_ne_nil c blanks) hcolon, trim_of_isAllBlank hblank]

/-- A line whose speaker is blank has nothing but blanks before a colon. -/
theorem namesNobody_of_speech? (h : speech? text = some (.speak actor said))
    (hactor : isAllBlank actor.toList = true) : NamesNobody text := by
  obtain ⟨c, front, back, rfl, -, rfl, -⟩ := speech?_eq_some_iff.1 h
  refine ⟨c :: front, back, List.cons_ne_nil c front, ?_, rfl⟩
  by_contra hblank
  rw [Bool.not_eq_true] at hblank
  obtain ⟨d, hd, hnot⟩ := exists_of_isAllBlank_eq_false hblank
  rw [String.toList_ofList, isAllBlank_eq_false (mem_trim hd hnot) hnot] at hactor
  cases hactor

section element

variable {source : String} {e : Element} (he : e ∈ elementsOf (lex source))
include he

/-- An element that names somebody by a blank name is on a row that names nobody. -/
theorem exists_row_of_mem_names {name : String} (hname : name ∈ e.kind.names)
    (hblank : isAllBlank name.toList = true) : ∃ row, e.row? source = some row ∧ NamesNobody row := by
  obtain ⟨l, hl, hline, hkind⟩ := exists_line_of_mem_elementsOf he
  have hfilled := filled_of_mem_elementsOf he
  have hrow : e.row? source = some l.text := by
    rw [Element.row?, hline]
    exact (mem_sourceLines_iff.1 hl).2.1
  refine ⟨l.text, hrow, ?_⟩
  rcases hk : e.kind with title | npc | directive | content
  · rw [hk] at hname
    cases hname
  · rw [hk] at hname hfilled
    rw [List.mem_singleton.1 hname] at hblank
    rw [ElementKind.Filled, hblank] at hfilled
    cases hfilled
  · rw [hk] at hname
    cases hname
  · rw [hk] at hname hkind
    cases content with
    | speak actor said =>
      rw [List.mem_singleton.1 hname] at hblank
      obtain hwhole | ⟨block, body, -, hbody⟩ := hkind
      · exact namesNobody_of_speech? (speech?_of_classify hwhole) hblank
      · cases block <;> cases hbody
    | reply | group | sequenceNode => cases hname

/-- The element on a row that names nobody is spoken by nobody. -/
theorem exists_speak_of_row? {row : List Char} (hrow : e.row? source = some row)
    (hnobody : NamesNobody row) : ∃ said, e.kind = .content (.speak "" said) := by
  obtain ⟨l, hl, hline, hkind⟩ := exists_line_of_mem_elementsOf he
  rw [Element.row?, hline, (mem_sourceLines_iff.1 hl).2.1] at hrow
  cases hrow
  obtain ⟨said, hspeak⟩ := classify_of_namesNobody hnobody
  rw [hspeak] at hkind
  obtain hwhole | ⟨block, body, hopens, -⟩ := hkind
  · exact ⟨said, (Form.whole.inj hwhole).symm⟩
  · cases hopens

/-- The speaker of a line is missing exactly if nothing but blanks stands before a colon. -/
theorem speaker_eq_empty_iff {actor said : String} (hkind : e.kind = .content (.speak actor said)) :
    actor = "" ↔ ∃ row, e.row? source = some row ∧ NamesNobody row := by
  constructor
  · rintro rfl
    have hname : "" ∈ e.kind.names := by
      rw [hkind]
      exact List.mem_singleton.2 rfl
    exact exists_row_of_mem_names he hname rfl
  · rintro ⟨row, hrow, hnobody⟩
    obtain ⟨said', hsame⟩ := exists_speak_of_row? he hrow hnobody
    rw [hkind] at hsame
    cases hsame
    rfl

end element

end Dialogue.Script
