import Dialogue.Saved.Token
import Dialogue.Proofs.Saved.Quoting
import Dialogue.Proofs.Text.Erasing

/-!
# Gaps, words and numbers are read back

A value is followed by a comma, a closing bracket or the end of the text (`Stops`). None of these
could go on with a word or with a number, so both are read back whole (`leadingWord_append`,
`readNumber_numeral`), and so is the name of a field before its colon (`readWord_name`). Between
them stand only line feeds and spaces, which a gap takes (`skipGap_indent`).
-/

namespace Dialogue.Saved

open Dialogue.Text

variable {c : Char} {s rest : List Char} {n : Nat}

/-- What may stand after a value. -/
def Stops (rest : List Char) : Prop := ∀ c ∈ rest.head?, c = ',' ∨ c = ')'

/-! ## Gaps -/

/-- A character that no gap starts with. -/
def Solid (c : Char) : Prop := isGapBlank c = false ∧ c ≠ '/'

theorem skipGap_solid (hc : Solid c) (s : List Char) : skipGap (c :: s) = some (c :: s) := by
  obtain ⟨hblank, hslash⟩ := hc
  rw [skipGap, skipGapFrom] <;> simp_all

theorem skipGap_blank (hc : isGapBlank c = true) (s : List Char) :
    skipGap (c :: s) = skipGap s := by
  have hslash : c ≠ '/' := by
    rintro rfl
    cases hc
  rw [skipGap, skipGapFrom] <;> simp_all [skipGap]

theorem skipGap_indent (d : Nat) (s : List Char) : skipGap (indent d ++ s) = skipGap s := by
  unfold indent
  induction 4 * d with
  | zero => rfl
  | succ n ih => rw [List.replicate_succ, List.cons_append, skipGap_blank (by decide), ih]

/-! ## Words -/

/-- A run of characters ends where the first other one stands. -/
theorem takeWhile_append_eq {p : Char → Bool} (hs : ∀ c ∈ s, p c = true)
    (hrest : ∀ c ∈ rest.head?, p c = false) : (s ++ rest).takeWhile p = s := by
  have hnone : rest.takeWhile p = [] := by
    cases rest with
    | nil => rfl
    | cons c rest => rw [List.takeWhile_cons_of_neg (by simpa using hrest)]
  rw [List.takeWhile_append_of_pos hs, hnone, List.append_nil]

theorem dropWhile_append_eq {p : Char → Bool} (hs : ∀ c ∈ s, p c = true)
    (hrest : ∀ c ∈ rest.head?, p c = false) : (s ++ rest).dropWhile p = rest := by
  rw [List.dropWhile_append_of_pos hs]
  cases rest with
  | nil => rfl
  | cons c rest => rw [List.dropWhile_cons_of_neg (by simpa using hrest)]

theorem Stops.not_part {p : Char → Bool} (h : Stops rest) (hcomma : p ',' = false)
    (hclose : p ')' = false) : ∀ c ∈ rest.head?, p c = false := by
  intro c hc
  obtain rfl | rfl := h c hc
  · exact hcomma
  · exact hclose

/-- A word before the end of a value is the whole run of identifier characters. -/
theorem leadingWord_append (hs : s.all isIdentifierPart = true) (h : Stops rest) :
    leadingWord (s ++ rest) = s :=
  takeWhile_append_eq (List.all_eq_true.1 hs) (h.not_part (by decide) (by decide))

/-- A small letter or an underscore. -/
def isNamePart (c : Char) : Bool := c.isLower || c == '_'

/-- A word of small letters and underscores. -/
def IsName (name : String) : Prop :=
  name ≠ "" ∧ name.toList.all isNamePart = true

instance : DecidablePred IsName := fun name =>
  inferInstanceAs (Decidable (name ≠ "" ∧ name.toList.all isNamePart = true))

theorem isNamePart_of_mem {name : String} (h : IsName name) (hc : c ∈ name.toList) :
    isNamePart c = true :=
  List.all_eq_true.1 h.2 c hc

theorem isNamePart_iff : isNamePart c = true ↔ c.isLower = true ∨ c = '_' := by
  simp [isNamePart]

theorem toNat_of_isNamePart (h : isNamePart c = true) : 95 ≤ c.toNat ∧ c.toNat ≤ 122 := by
  obtain h | rfl := isNamePart_iff.1 h
  · delta Char.isLower at h
    simp only [ge_iff_le, Bool.and_eq_true, decide_eq_true_eq, UInt32.le_iff_toNat_le] at h
    have hlow : 97 ≤ c.toNat := h.1
    have hhigh : c.toNat ≤ 122 := h.2
    omega
  · decide

theorem isIdentifierStart_of_isNamePart (h : isNamePart c = true) : isIdentifierStart c = true := by
  have hrange := toNat_of_isNamePart h
  rw [isIdentifierStart, if_pos (by omega)]
  obtain h | rfl := isNamePart_iff.1 h
  · delta Char.isAlpha
    rw [h, Bool.or_true, Bool.true_or]
  · decide

theorem isIdentifierPart_of_isNamePart (h : isNamePart c = true) : isIdentifierPart c = true := by
  have hstart := isIdentifierStart_of_isNamePart h
  unfold isIdentifierStart at hstart
  unfold isIdentifierPart
  split_ifs at hstart ⊢
  · rw [Bool.or_eq_true] at hstart
    obtain hstart | hstart := hstart <;> simp [Char.isAlphanum, hstart]
  · rw [hstart, Bool.true_or]

/-- A name does not start with a piece that has another character in it. -/
theorem startsWith_name {name : String} (h : IsName name) {p : List Char}
    (hcolon : ':' ∉ p) (hp : p.all isNamePart = false) (r : List Char) :
    startsWith p (name.toList ++ ':' :: r) = false := by
  rw [startsWith_append_cons hcolon]
  by_contra hstart
  rw [Bool.not_eq_false] at hstart
  obtain ⟨t, ht⟩ := startsWith_iff.1 hstart
  obtain ⟨c, hc, hother⟩ := List.all_eq_false.1 hp
  exact hother (isNamePart_of_mem h (ht ▸ List.mem_append_left t hc))

/-- The name of a field is read back before its colon. -/
theorem readWord_name {name : String} (h : IsName name) (r : List Char) :
    readWord (name.toList ++ ':' :: r) = some (name, ':' :: r) := by
  have hne : name.toList ≠ [] := by simpa using h.1
  have hstart : (name.toList ++ ':' :: r).head?.any isIdentifierStart = true := by
    obtain ⟨c, t, ht⟩ := List.exists_cons_of_ne_nil hne
    have hc : c ∈ name.toList := ht ▸ List.mem_cons_self
    rw [ht]
    simpa using isIdentifierStart_of_isNamePart (isNamePart_of_mem h hc)
  have hquoted : quotedStarts.any (startsWith · (name.toList ++ ':' :: r)) = false := by
    rw [List.any_eq_false]
    intro p hp
    have hall : ∀ p ∈ quotedStarts, ':' ∉ p ∧ p.all isNamePart = false := by decide
    rw [startsWith_name h (hall p hp).1 (hall p hp).2, Bool.not_eq_true]
  have hmark : dropPiece? ['r', '#'] (name.toList ++ ':' :: r) = none := by
    rw [dropPiece?, startsWith_name h (by decide) (by decide)]
    rfl
  have hlead : leadingWord (name.toList ++ ':' :: r) = name.toList := by
    refine takeWhile_append_eq (fun c hc => ?_) ?_
    · exact isIdentifierPart_of_isNamePart (isNamePart_of_mem h hc)
    · simp only [List.head?_cons, Option.mem_def, Option.some.injEq]
      rintro c rfl
      decide
  have hmarked : (name.toList ++ ':' :: r).takeWhile isMarkedPart = name.toList := by
    refine takeWhile_append_eq (fun c hc => ?_) ?_
    · simp [isMarkedPart, isIdentifierPart_of_isNamePart (isNamePart_of_mem h hc)]
    · simp only [List.head?_cons, Option.mem_def, Option.some.injEq]
      rintro c rfl
      decide
  rw [readWord, hstart, hquoted]
  simp [hmark, hlead, hmarked]

/-! ## Numbers -/

/-- A digit starts no word. -/
theorem isIdentifierStart_of_isDigit (h : c.isDigit = true) : isIdentifierStart c = false := by
  have hrange := toNat_of_isDigit h
  have hval : c.val.toNat = c.toNat := rfl
  have hunder : c ≠ '_' := by
    rintro rfl
    cases h
  have halpha : c.isAlpha = false := by
    delta Char.isAlpha Char.isUpper Char.isLower
    simp [UInt32.le_iff_toNat_le]
    omega
  rw [isIdentifierStart, if_pos (by omega), halpha, Bool.false_or, decide_eq_false hunder]

theorem isIntegerPart_of_isDigit (h : c.isDigit = true) : isIntegerPart c = true := by
  simp [isIntegerPart, hexDigit?, h]

theorem digitsValue?_numeral (n : Nat) : digitsValue? 10 (numeral n) = some n := by
  have hne : (numeral n).isEmpty = false := by simp [numeral_ne_nil]
  have hunder : '_' ∉ numeral n := by
    intro h
    cases isDigit_of_mem_numeral h
  have hhead : (numeral n).head? ≠ some '_' := fun h => hunder (List.mem_of_head? h)
  have hkeep : (numeral n).filter (· ≠ '_') = numeral n := by
    rw [List.filter_eq_self]
    intro c hc
    simpa using fun h : c = '_' => hunder (h ▸ hc)
  rw [digitsValue?, hkeep]
  simp only [hne, hhead, Bool.false_or, decide_false, Bool.false_eq_true, if_false]
  refine foldlM_toDigits (by decide) (fun k d hd => ?_) n
  have hdigit := hexDigit?_digitChar (Nat.lt_trans hd (by decide : 10 < 16))
  simp [hdigit, hd]

/-- A numeral names no other base, whatever follows it. -/
theorem readBase_numeral (n : Nat) (h : Stops rest) :
    readBase (numeral n ++ rest) = (10, numeral n ++ rest) := by
  have hsecond : ∀ c d t, numeral n ++ rest = c :: d :: t →
      d.isDigit = true ∨ d = ',' ∨ d = ')' := by
    intro c d t heq
    have hdigits : ∀ x ∈ numeral n, x.isDigit = true := fun x hx => isDigit_of_mem_numeral hx
    obtain ⟨x, digits, hx⟩ := List.exists_cons_of_ne_nil (numeral_ne_nil n)
    rw [hx] at heq hdigits
    cases digits with
    | nil =>
      refine .inr (h d ?_)
      simp only [List.cons_append, List.nil_append, List.cons.injEq] at heq
      rw [heq.2]
      rfl
    | cons y digits =>
      simp only [List.cons_append, List.cons.injEq] at heq
      exact .inl (heq.2.1 ▸ hdigits y (by simp))
  unfold readBase
  split
  · next t heq => simpa using hsecond _ _ _ heq
  · next t heq => simpa using hsecond _ _ _ heq
  · next t heq => simpa using hsecond _ _ _ heq
  · rfl

/-- No type is named by what may stand after a value. -/
theorem namedType?_numeral (n : Nat) (h : Stops rest) : namedType? (numeral n ++ rest) = none := by
  have hskip : (numeral n ++ rest).dropWhile isIntegerPart = rest :=
    dropWhile_append_eq (fun c hc => isIntegerPart_of_isDigit (isDigit_of_mem_numeral hc))
      (h.not_part (by decide) (by decide))
  have hword : leadingWord rest = [] := by
    have hempty := leadingWord_append (s := []) (by simp) h
    rwa [List.nil_append] at hempty
  rw [namedType?, hskip, hword]
  decide

/-- An id is one of the numbers that need no type. -/
theorem holds_of_le_maxId (hn : n ≤ maxId) : (⟨false, 64⟩ : IntegerType).holds n = true := by
  have hsize : IntegerType.size ⟨false, 64⟩ = 18446744073709551616 := rfl
  have hlow : (0 : Int) ≤ n := Int.natCast_nonneg n
  have hhigh : (n : Int) < IntegerType.size ⟨false, 64⟩ := by
    unfold maxId at hn
    rw [hsize]
    omega
  rw [IntegerType.holds, Bool.and_eq_true, decide_eq_true_eq, decide_eq_true_eq]
  exact ⟨hlow, hhigh⟩

theorem takeWhile_numeral {p : Char → Bool} (hp : ∀ c, c.isDigit = true → p c = true)
    (hcomma : p ',' = false) (hclose : p ')' = false) (n : Nat) (h : Stops rest) :
    (numeral n ++ rest).takeWhile p = numeral n :=
  takeWhile_append_eq (fun c hc => hp c (isDigit_of_mem_numeral hc)) (h.not_part hcomma hclose)

theorem readUnsigned_numeral (hn : n ≤ maxId) (h : Stops rest) :
    readUnsigned false (numeral n ++ rest) = some (((n : Int), none), rest) := by
  have hdigits := takeWhile_numeral (fun _ => isIntegerPart_of_isDigit) (by decide) (by decide) n h
  unfold readUnsigned
  simp only [namedType?_numeral n h, readBase_numeral n h, hdigits, digitsValue?_numeral]
  -- step by step, so that the size of a type is never computed with
  rw [Option.bind_eq_bind, Option.bind_some]
  refine (if_pos ?_).trans ?_
  · exact holds_of_le_maxId hn
  · simp

/-- A number is read back. -/
theorem readNumber_numeral (hn : n ≤ maxId) (h : Stops rest) :
    readNumber (numeral n ++ rest) = some (.number n none, rest) := by
  have hinteger := takeWhile_numeral (fun _ => isIntegerPart_of_isDigit) (by decide) (by decide) n h
  have hfraction : (numeral n ++ rest).takeWhile isFractionPart = numeral n := by
    refine takeWhile_numeral (fun c hc => ?_) (by decide) (by decide) n h
    simp [isFractionPart, hc]
  have hvalue := readUnsigned_numeral hn h
  obtain ⟨c, digits, hdigits⟩ := List.exists_cons_of_ne_nil (numeral_ne_nil n)
  have hc : c.isDigit = true := isDigit_of_mem_numeral (hdigits ▸ List.mem_cons_self)
  rw [hdigits, List.cons_append] at hfraction hinteger hvalue ⊢
  -- a digit is no sign, and starts no byte
  have hsign : dropSign (c :: (digits ++ rest)) = c :: (digits ++ rest) := by
    have hplus : c ≠ '+' ∧ c ≠ '-' := by
      constructor <;> rintro rfl <;> cases hc
    simp [dropSign, hplus]
  have hplain : readInteger (c :: (digits ++ rest)) =
      readUnsigned false (c :: (digits ++ rest)) := by
    unfold readInteger
    split
    · simp_all
    · simp_all
    · simp_all
    · rfl
  unfold readNumber
  simp only [hsign, hfraction, hinteger, hplain, hvalue, Nat.lt_irrefl, if_false]

end Dialogue.Saved
