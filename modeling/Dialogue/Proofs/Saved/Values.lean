import Dialogue.Saved.Codec
import Dialogue.Proofs.Saved.Items

/-!
# Values are read back

A value that is read back from its text, at any depth of the page and whatever stands after it, with
so many levels left for what stands inside it, is one that `Value.Reads`. Flags, ids, texts and
absent values are; an optional value is with one level more than what it holds, and a list or a
record with two levels more than what is in it. Nothing else is ever saved, so these lemmas are all
that the parts of a database need.
-/

namespace Dialogue.Saved

open Dialogue.Text

/-- The value is read back from its text, with so many levels left. -/
structure Value.Reads (n : Nat) (v : Value) : Prop where
  starts : ∀ d, Starts (v.render d)
  reads : ∀ d limit rest, (v.render d).length < limit → Stops rest →
    readValueWithin .standard limit n (v.render d ++ rest) = some (v, rest)

variable {rules : Rules} {limit n d : Nat} {inner : Inner} {s rest : List Char}

/-! ## Texts -/

theorem render_present (d : Nat) (v : Value) :
    (Value.present v).render d = "Some(".toList ++ v.render d ++ [')'] := rfl

theorem render_list (d : Nat) (v : Value) (vs : List Value) :
    (Value.list (v :: vs)).render d =
      ['[', '\n'] ++ renderItems d (v :: vs) ++ indent d ++ [']'] := rfl

theorem render_record (d : Nat) (f : String × Value) (fs : List (String × Value)) :
    (Value.record none (f :: fs)).render d =
      ['(', '\n'] ++ renderFields d (f :: fs) ++ indent d ++ [')'] := rfl

theorem renderItems_eq (d : Nat) (vs : List Value) :
    renderItems d vs = itemLines d (vs.map (Value.render (d + 1))) := by
  induction vs with
  | nil => rfl
  | cons v vs ih =>
    show indent (d + 1) ++ v.render (d + 1) ++ [',', '\n'] ++ renderItems d vs = _
    rw [ih, List.map_cons, itemLines_cons]
    simp

/-- The line of a field, before its comma. -/
def fieldText (d : Nat) (f : String × Value) : List Char :=
  f.1.toList ++ ':' :: ' ' :: f.2.render (d + 1)

theorem renderFields_eq (d : Nat) (fields : List (String × Value)) :
    renderFields d fields = itemLines d (fields.map (fieldText d)) := by
  induction fields with
  | nil => rfl
  | cons f fields ih =>
    show indent (d + 1) ++ f.1.toList ++ [':', ' '] ++ f.2.render (d + 1) ++ [',', '\n'] ++
      renderFields d fields = _
    rw [ih, List.map_cons, itemLines_cons]
    simp [fieldText]

/-! ## Levels -/

theorem exists_inner (rules : Rules) (limit n : Nat) :
    ∃ inner, readValueWithin rules limit n = readValueWith rules limit inner := by
  match n with
  | 0 => exact ⟨_, rfl⟩
  | 1 => exact ⟨_, rfl⟩
  | 2 => exact ⟨_, rfl⟩
  | n + 3 => exact ⟨_, rfl⟩

/-- What an optional value holds is read with one level less. -/
theorem exists_inOptional (rules : Rules) (limit n : Nat) :
    ∃ inner, readValueWithin rules limit (n + 1) = readValueWith rules limit inner ∧
      inner.inOptional = some (readValueWithin rules limit n) := by
  match n with
  | 0 => exact ⟨_, rfl, rfl⟩
  | 1 => exact ⟨_, rfl, rfl⟩
  | n + 2 => exact ⟨_, rfl, rfl⟩

/-- What stands in brackets is read with two levels less. -/
theorem exists_inBrackets (rules : Rules) (limit n : Nat) :
    ∃ inner, readValueWithin rules limit (n + 2) = readValueWith rules limit inner ∧
      inner.inBrackets = some (readValueWithin rules limit n) := by
  match n with
  | 0 => exact ⟨_, rfl, rfl⟩
  | n + 1 => exact ⟨_, rfl, rfl⟩

/-! ## Values that start with a word -/

theorem readValueWith_true (h : leadingWord s = "true".toList) :
    readValueWith rules limit inner s = some (.flag true, s.drop 4) := by
  simp [readValueWith, h]

theorem readValueWith_false (h : leadingWord s = "false".toList) :
    readValueWith rules limit inner s = some (.flag false, s.drop 5) := by
  simp [readValueWith, h]

theorem readValueWith_some (h : leadingWord s = "Some".toList) :
    readValueWith rules limit inner s = readPresent rules limit inner (s.drop 4) := by
  simp [readValueWith, h]

theorem readValueWith_none (h : leadingWord s = "None".toList) :
    readValueWith rules limit inner s = some (.absent, s.drop 4) := by
  simp [readValueWith, h]

/-- A text that starts no word is a value without one. -/
theorem readValueWith_unnamed {c : Char} (hc : isIdentifierStart c = false) :
    readValueWith rules limit inner (c :: s) = readUnnamed limit inner (c :: s) := by
  have hne : ∀ w : List Char, w.head?.any isIdentifierStart = true → leadingWord (c :: s) ≠ w := by
    rintro w hw rfl
    rw [leadingWord, List.takeWhile_cons] at hw
    split at hw
    · simp [hc] at hw
    · simp at hw
  have hnumber : numberWords.contains (leadingWord (c :: s)) = false := by
    rw [List.contains_eq_mem, decide_eq_false_iff_not]
    intro hmem
    have hall : ∀ w ∈ numberWords, w.head?.any isIdentifierStart = true := by decide
    exact hne _ (hall _ hmem) rfl
  have hword : readWord (c :: s) = none := by simp [readWord, hc]
  rw [readValueWith]
  simp only [hne "true".toList (by decide), hne "false".toList (by decide),
    hne "Some".toList (by decide), hne "None".toList (by decide), hnumber, hword, if_false,
    Bool.false_eq_true]

namespace Value

theorem reads_flag (n : Nat) (b : Bool) : Reads n (.flag b) where
  starts d := by
    cases b
    · exact ⟨'f', "alse".toList, rfl, ⟨by decide, by decide⟩, by decide⟩
    · exact ⟨'t', "rue".toList, rfl, ⟨by decide, by decide⟩, by decide⟩
  reads d limit rest _ hrest := by
    obtain ⟨inner, hinner⟩ := exists_inner .standard limit n
    rw [hinner]
    cases b
    · exact readValueWith_false (leadingWord_append (s := "false".toList) (by decide) hrest)
    · exact readValueWith_true (leadingWord_append (s := "true".toList) (by decide) hrest)

theorem reads_absent (n : Nat) : Reads n .absent where
  starts d := ⟨'N', "one".toList, rfl, ⟨by decide, by decide⟩, by decide⟩
  reads d limit rest _ hrest := by
    obtain ⟨inner, hinner⟩ := exists_inner .standard limit n
    rw [hinner]
    exact readValueWith_none (leadingWord_append (s := "None".toList) (by decide) hrest)

theorem reads_text (n : Nat) (t : String) : Reads n (.text t) where
  starts d := ⟨'"', _, rfl, ⟨by decide, by decide⟩, by decide⟩
  reads d limit rest hlimit hrest := by
    obtain ⟨inner, hinner⟩ := exists_inner .standard limit n
    have hshort : t.toList.length < limit := Nat.lt_trans (length_lt_quote t.toList) hlimit
    have htext := readText_quote hshort rest
    rw [hinner]
    show readValueWith .standard limit inner ('"' :: _) = _
    rw [readValueWith_unnamed (by decide)]
    show (readText limit (quote t.toList ++ rest)).map _ = _
    rw [htext]
    simp

theorem readUnnamed_digit {c : Char} (hc : c.isDigit = true) :
    readUnnamed limit inner (c :: s) = readNumber (c :: s) := by
  have hne : ∀ x : Char, x.isDigit = false → c ≠ x := by
    rintro x hx rfl
    rw [hc] at hx
    cases hx
  have hquote : ¬ (c = '"' ∨ c = 'r') := not_or.2 ⟨hne _ rfl, hne _ rfl⟩
  unfold readUnnamed
  split
  case h_1 heq => cases heq
  case h_9 heq =>
    obtain ⟨rfl, rfl⟩ := List.cons.inj heq
    rw [if_neg hquote, if_pos (.inl hc)]
  all_goals
    next heq => exact absurd (List.cons.inj heq).1 (hne _ rfl)

/-- An id is read back. -/
theorem reads_ofId (n : Nat) {id : Nat} (h : id ≤ maxId) : Reads n (.ofId id) := by
  obtain ⟨c, digits, hdigits⟩ := List.exists_cons_of_ne_nil (numeral_ne_nil id)
  have hc : c.isDigit = true := isDigit_of_mem_numeral (hdigits ▸ List.mem_cons_self)
  have hrange := toNat_of_isDigit hc
  have hrender : ∀ d, (ofId id).render d = numeral id := by
    intro d
    exact List.append_nil _
  constructor
  case starts =>
    intro d
    rw [hrender, hdigits]
    refine ⟨c, digits, rfl, ⟨?_, ?_⟩, ?_, ?_⟩
    · simp [isGapBlank]
      omega
    all_goals
      rintro rfl
      cases hc
  case reads =>
    intro d limit rest hlimit hrest
    obtain ⟨inner, hinner⟩ := exists_inner .standard limit n
    have hnumber := readNumber_numeral h hrest
    have hword := isIdentifierStart_of_isDigit hc
    rw [hrender, hinner]
    rw [hdigits, List.cons_append] at hnumber ⊢
    rw [readValueWith_unnamed hword, readUnnamed_digit hc, hnumber]
    rfl

/-! ## Values that hold others -/

theorem readValueWith_square {value : Reader Value} (h : inner.inBrackets = some value) :
    readValueWith rules limit inner ('[' :: s) =
      (readItems value ']' limit true s).map fun (items, rest) => (.list items, rest) := by
  rw [readValueWith_unnamed (by decide), readUnnamed]
  simp only [h, Option.bind_eq_bind, Option.bind_some]

theorem readValueWith_round {value : Reader Value} (h : inner.inBrackets = some value) :
    readValueWith rules limit inner ('(' :: '\n' :: s) =
      readRound limit none value ('\n' :: s) := by
  rw [readValueWith_unnamed (by decide), readUnnamed]
  · simp only [h, Option.bind_eq_bind, Option.bind_some]
  · simp

/-- An optional value is read back, with one level more than what it holds. -/
theorem reads_present {v : Value} (h : Reads n v) : Reads (n + 1) (.present v) where
  starts d := ⟨'S', _, rfl, ⟨by decide, by decide⟩, by decide⟩
  reads d limit rest hlimit hrest := by
    obtain ⟨inner, hinner, hoptional⟩ := exists_inOptional .standard limit n
    have htext : (present v).render d ++ rest =
        "Some".toList ++ '(' :: (v.render d ++ ')' :: rest) := by
      simp [render_present]
    have hshort : (v.render d).length < limit := by
      simp only [render_present, List.length_append] at hlimit
      omega
    have hvalue := h.reads d limit (')' :: rest) hshort fun c hc => .inr (Option.some.inj hc).symm
    have hword : leadingWord ("Some".toList ++ '(' :: (v.render d ++ ')' :: rest)) =
        "Some".toList := by
      refine takeWhile_append_eq (List.all_eq_true.1 (by decide)) ?_
      rintro c hc
      rw [← Option.some.inj hc]
      decide
    have hopen := skipGap_solid (c := '(') ⟨by decide, by decide⟩ (v.render d ++ ')' :: rest)
    have hinside := (h.starts d).skipGap (')' :: rest)
    have hcomma : skipComma (')' :: rest) = some (false, ')' :: rest) := by
      rw [skipComma, skipGap_solid ⟨by decide, by decide⟩]
      rfl
    have hbrackets : Rules.standard.unwrapVariants = false := rfl
    rw [hinner, htext, readValueWith_some hword]
    show readPresent .standard limit inner ('(' :: (v.render d ++ ')' :: rest)) = _
    simp [readPresent, readSingle, hbrackets, hopen, hinside, hoptional, hvalue, hcomma]

theorem reads_ofOptionalId (n : Nat) {id : Option Nat} (h : ∀ i ∈ id, i ≤ maxId) :
    Reads (n + 1) (.ofOptionalId id) := by
  cases id with
  | none => exact reads_absent (n + 1)
  | some id => exact reads_present (reads_ofId n (h id rfl))

/-- A list is read back, with two levels more than its items. -/
theorem reads_list {vs : List Value} (h : ∀ v ∈ vs, Reads n v) : Reads (n + 2) (.list vs) where
  starts d := by
    cases vs <;> exact ⟨'[', _, rfl, ⟨by decide, by decide⟩, by decide⟩
  reads d limit rest hlimit hrest := by
    obtain ⟨inner, hinner, hbrackets⟩ := exists_inBrackets .standard limit n
    have hread : ∀ r, readItems (readValueWithin .standard limit n) ']' limit true r =
        some (vs, rest) → readValueWithin .standard limit (n + 2) ('[' :: r) =
          some (.list vs, rest) := by
      intro r hr
      rw [hinner, readValueWith_square hbrackets, hr, Option.map_some]
    cases vs with
    | nil => exact hread (']' :: rest) (readItems_close (skipGap_solid ⟨by decide, by decide⟩ _))
    | cons v vs =>
      have htext : (list (v :: vs)).render d ++ rest =
          '[' :: '\n' ::
            (itemLines d ((v :: vs).map (render (d + 1))) ++ (indent d ++ ']' :: rest)) := by
        simp [render_list, renderItems_eq]
      obtain ⟨hlines, hshort⟩ := length_le_itemLines d ((v :: vs).map (render (d + 1)))
      have hlength : (itemLines d ((v :: vs).map (render (d + 1)))).length < limit := by
        simp only [render_list, renderItems_eq, List.length_append] at hlimit
        omega
      rw [htext]
      refine hread _ ?_
      rw [readItems_congr (skipGap_blank (by decide) _)]
      refine readItems_lines d rest (.inl rfl) (fun a ha => (h a ha).starts _) ?_ ?_
      · intro a ha rest'
        refine (h a ha).reads _ _ _ ?_ fun c hc => .inl (Option.some.inj hc).symm
        have hone := hshort _ (List.mem_map_of_mem ha)
        omega
      · rw [List.length_map] at hlines
        omega

/-- A list of what parts are written as is read back, where each of them is. -/
theorem reads_map {α : Type} {encode : α → Value} {as : List α}
    (h : ∀ a ∈ as, Reads n (encode a)) : Reads (n + 2) (.list (as.map encode)) := by
  refine reads_list fun v hv => ?_
  obtain ⟨a, ha, rfl⟩ := List.mem_map.1 hv
  exact h a ha

/-- A name starts with no blank and no bracket. -/
theorem starts_fieldText {f : String × Value} (h : IsName f.1) : Starts (fieldText d f) := by
  obtain ⟨c, name, hname⟩ := List.exists_cons_of_ne_nil (l := f.1.toList) (by simpa using h.1)
  have hrange := toNat_of_isNamePart (isNamePart_of_mem h (hname ▸ List.mem_cons_self))
  refine ⟨c, name ++ ':' :: ' ' :: f.2.render (d + 1), ?_, ⟨?_, ?_⟩, ?_, ?_⟩
  · rw [fieldText, hname]
    rfl
  · simp [isGapBlank]
    omega
  · rintro rfl
    exact absurd hrange.1 (by decide)
  · rintro rfl
    exact absurd hrange.1 (by decide)
  · rintro rfl
    exact absurd hrange.1 (by decide)

/-- The name of a field is read back before its colon. -/
theorem readWord_fieldText {f : String × Value} (h : IsName f.1) (rest : List Char) :
    readWord (fieldText d f ++ rest) =
      some (f.1, ':' :: ' ' :: (f.2.render (d + 1) ++ rest)) := by
  have hword := readWord_name h (' ' :: (f.2.render (d + 1) ++ rest))
  rw [fieldText, List.append_assoc]
  exact hword

/-- A field is read back. -/
theorem readField_fieldText {value : Reader Value} {f : String × Value} (hname : IsName f.1)
    (hstarts : Starts (f.2.render (d + 1)))
    (hvalue : value (f.2.render (d + 1) ++ rest) = some (f.2, rest)) :
    readField value (fieldText d f ++ rest) = some (f, rest) := by
  have hcolon := skipGap_solid (c := ':') ⟨by decide, by decide⟩
    (' ' :: (f.2.render (d + 1) ++ rest))
  have hgap : skipGap (' ' :: (f.2.render (d + 1) ++ rest)) =
      some (f.2.render (d + 1) ++ rest) := by
    rw [skipGap_blank (by decide), hstarts.skipGap]
  simp [readField, readWord_fieldText hname, hcolon, skipSign, hgap, hvalue]

/-- Behind an opening bracket and a gap stands a field, so the fields of a record follow. -/
theorem readRound_fieldText {value : Reader Value} {f : String × Value} (hname : IsName f.1)
    {inside after : List Char} (hinside : skipGap inside = some (fieldText d f ++ after))
    {fields : List (String × Value)}
    (hfields : readItems (readField value) ')' limit true inside = some (fields, rest)) :
    readRound limit none value inside = some (.record none fields, rest) := by
  have hstarts := starts_fieldText (d := d) hname
  have hitems : readItems (readField value) ')' limit true (fieldText d f ++ after) =
      some (fields, rest) := by
    rw [← hfields]
    exact readItems_congr ((hstarts.skipGap after).trans hinside.symm)
  have hhead : (fieldText d f ++ after).head? ≠ some ')' := by
    obtain ⟨c, t, ht, -, -, hc⟩ := hstarts
    simpa [ht] using hc
  have hfield : startsField (fieldText d f ++ after) = true := by
    have hcolon := skipGap_solid (c := ':') ⟨by decide, by decide⟩
      (' ' :: (f.2.render (d + 1) ++ after))
    simp [startsField, readWord_fieldText hname, hcolon]
  simp only [readRound, hinside, hfield, hitems, Option.bind_eq_bind, Option.bind_some,
    if_neg hhead, if_true, Option.map_some]

/-- A record is read back, with two levels more than the values of its fields. -/
theorem reads_record {fields : List (String × Value)} (hne : fields ≠ [])
    (hnames : ∀ name ∈ fields.map Prod.fst, IsName name)
    (hvalues : ∀ v ∈ fields.map Prod.snd, Reads n v) : Reads (n + 2) (.record none fields) where
  starts d := by
    cases fields <;> exact ⟨'(', _, rfl, ⟨by decide, by decide⟩, by decide⟩
  reads d limit rest hlimit hrest := by
    obtain ⟨inner, hinner, hbrackets⟩ := exists_inBrackets .standard limit n
    obtain ⟨f, fs, rfl⟩ := List.exists_cons_of_ne_nil hne
    have hname : ∀ a ∈ f :: fs, IsName a.1 := fun a ha => hnames _ (List.mem_map_of_mem ha)
    have hvalue : ∀ a ∈ f :: fs, Reads n a.2 := fun a ha => hvalues _ (List.mem_map_of_mem ha)
    obtain ⟨hlines, hshort⟩ := length_le_itemLines d ((f :: fs).map (fieldText d))
    have htext : (record none (f :: fs)).render d ++ rest =
        '(' :: '\n' ::
          (itemLines d ((f :: fs).map (fieldText d)) ++ (indent d ++ ')' :: rest)) := by
      simp [render_record, renderFields_eq]
    have hlength : (itemLines d ((f :: fs).map (fieldText d))).length < limit := by
      simp only [render_record, renderFields_eq, List.length_append] at hlimit
      omega
    have hfields : readItems (readField (readValueWithin .standard limit n)) ')' limit true
        (itemLines d ((f :: fs).map (fieldText d)) ++ (indent d ++ ')' :: rest)) =
          some (f :: fs, rest) := by
      refine readItems_lines d rest (.inr rfl) (fun a ha => starts_fieldText (hname a ha)) ?_ ?_
      · intro a ha rest'
        refine readField_fieldText (hname a ha) ((hvalue a ha).starts _) ?_
        refine (hvalue a ha).reads _ _ _ ?_ fun c hc => .inl (Option.some.inj hc).symm
        have hone := hshort _ (List.mem_map_of_mem ha)
        simp only [fieldText, List.length_append, List.length_cons] at hone
        omega
      · rw [List.length_map] at hlines
        omega
    have hinside : skipGap ('\n' ::
        (itemLines d ((f :: fs).map (fieldText d)) ++ (indent d ++ ')' :: rest))) =
          some (fieldText d f ++ (',' :: '\n' ::
            (itemLines d (fs.map (fieldText d)) ++ (indent d ++ ')' :: rest)))) := by
      have hstarts := starts_fieldText (d := d) (hname f List.mem_cons_self)
      rw [skipGap_blank (by decide), List.map_cons, itemLines_cons, List.append_assoc,
        List.append_assoc, List.append_assoc, skipGap_indent, hstarts.skipGap]
      rfl
    have hround := readRound_fieldText (hname f List.mem_cons_self) hinside
      ((readItems_congr (skipGap_blank (by decide) _)).trans hfields)
    rw [hinner, htext, readValueWith_round hbrackets, hround]

end Value

end Dialogue.Saved
