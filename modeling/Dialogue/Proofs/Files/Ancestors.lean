import Mathlib.Data.List.Basic
import Dialogue.Files.Tree

/-!
# The paths above a path

What stands after the last part of a path is slack: slashes, and dots between them. A path above
another one is a piece of its text that ends before a slash and has no slack (`Above`), unless it is
empty or the root. So the steps of a path go on from those of each path above it
(`exists_steps`).
-/

namespace Dialogue.Path

/-! ## Slack -/

/-- What remains without slack does not start with a slash, unless it is the root. -/
theorem head?_dropSlack (s : List Char) :
    dropSlack s = ['/'] ∨ (dropSlack s).head? ≠ some '/' := by
  fun_induction dropSlack s with
  | case1 => exact .inl rfl
  | case2 s hs ih => exact ih
  | case3 => exact .inl rfl
  | case4 s hs ih => exact ih
  | case5 s hslash hdot =>
    refine .inr fun hhead => ?_
    obtain ⟨s', rfl⟩ := List.head?_eq_some_iff.1 hhead
    exact hslash s' rfl

/-- What remains without slack after a slash follows a slash, unless it is the root. -/
theorem exists_slack (s : List Char) :
    dropSlack s = ['/'] ∨ ∃ slack, '/' :: s = slack ++ '/' :: dropSlack s := by
  fun_induction dropSlack s with
  | case1 => exact .inl rfl
  | case2 s hs ih =>
    refine ih.imp_right ?_
    rintro ⟨slack, hslack⟩
    exact ⟨'/' :: slack, congrArg _ hslack⟩
  | case3 => exact .inl rfl
  | case4 s hs ih =>
    refine ih.imp_right ?_
    rintro ⟨slack, hslack⟩
    exact ⟨'/' :: '.' :: slack, congrArg (fun rest => '/' :: '.' :: rest) hslack⟩
  | case5 s => exact .inr ⟨[], rfl⟩

theorem dropSlack_suffix (s : List Char) : dropSlack s <:+ s := by
  fun_induction dropSlack s with
  | case1 s hs =>
    obtain rfl := List.isEmpty_iff.1 hs
    exact List.suffix_refl _
  | case2 s hs ih => exact ih.trans (List.suffix_cons _ _)
  | case3 s hs =>
    obtain rfl := List.isEmpty_iff.1 hs
    exact List.suffix_cons _ _
  | case4 s hs ih => exact ih.trans ((List.suffix_cons _ _).trans (List.suffix_cons _ _))
  | case5 s => exact List.suffix_refl _

/-! ## One path above another -/

/-- The second path is above the first: it is empty, or the root, or ends before a slash of the
first. -/
inductive Above (p : Path) : Path → Prop
  | empty : Above p ⟨""⟩
  | root : Above p ⟨"/"⟩
  | before {q : Path} {rest : List Char} (hnil : q.text.toList ≠ [])
    (hslash : q.text.toList.getLast? ≠ some '/')
    (h : p.text.toList = q.text.toList ++ '/' :: rest) : Above p q

variable {p q r : Path}

/-- A piece of the text that ends before a slash makes a path above. -/
theorem above_of_reverse {after s : List Char} (h : p.text.toList.reverse = after ++ '/' :: s)
    (hs : s.head? ≠ some '/') : p.Above ⟨String.ofList s.reverse⟩ := by
  by_cases hnil : s = []
  · rw [hnil]
    exact .empty
  · have hp : p.text.toList =
        (Path.mk (String.ofList s.reverse)).text.toList ++ '/' :: after.reverse := by
      have hreverse := congrArg List.reverse h
      rw [List.reverse_reverse] at hreverse
      simp [hreverse]
    exact .before (by simpa using hnil) (by simpa using hs) hp

/-- The parent of a path is above it. -/
theorem above_of_parent? (h : p.parent? = some q) : p.Above q := by
  unfold parent? at h
  split at h
  · cases h
  · cases h
    obtain ⟨pre, hpre⟩ := dropSlack_suffix p.text.toList.reverse
    have hbody := List.takeWhile_append_dropWhile (p := (· ≠ '/')) (l := p.reversedBody)
    rcases hrest : p.reversedBody.dropWhile (· ≠ '/') with _ | ⟨c, s⟩
    · exact .empty
    · have hc : c = '/' := by
        have hhead := List.head?_dropWhile_not (· ≠ '/') p.reversedBody
        rw [hrest] at hhead
        simpa using hhead
      subst hc
      rcases head?_dropSlack ('/' :: s) with hroot | hhead
      · rw [hroot]
        exact .root
      · rw [dropSlack] at hhead ⊢
        split at hhead
        · exact absurd rfl hhead
        · next hs =>
          rw [if_neg hs]
          rcases exists_slack s with hroot | ⟨slack, hslack⟩
          · rw [hroot] at hhead
            exact absurd rfl hhead
          · have htext : p.text.toList.reverse =
                pre ++ p.reversedBody.takeWhile (· ≠ '/') ++ slack ++ '/' :: dropSlack s := by
              rw [List.append_assoc, ← hslack, List.append_assoc, ← hrest, hbody]
              exact hpre.symm
            exact above_of_reverse htext hhead

/-- What is above a path above is above. -/
theorem Above.parent? (h : p.Above q) (hr : q.parent? = some r) : p.Above r := by
  cases h with
  | empty => cases hr
  | root => cases hr
  | before hnil hslash h =>
    cases above_of_parent? hr with
    | empty => exact .empty
    | root => exact .root
    | before hnil' hslash' h' =>
      rw [h', List.append_assoc] at h
      exact .before hnil' hslash' h

/-- Every path that comes up between the directory of a path and the root is above it. -/
theorem above_of_mem_ancestors (h : q ∈ p.directory.ancestors) : p.Above q := by
  have hdirectory : p.Above p.directory := by
    unfold directory
    rcases hparent : p.parent? with _ | q
    · exact .empty
    · exact above_of_parent? hparent
  have hwithin : ∀ (n : Nat) {r : Path}, p.Above r → q ∈ ancestorsWithin n r → p.Above q := by
    intro n
    induction n with
    | zero =>
      intro r hr hq
      rwa [List.mem_singleton.1 hq]
    | succ n ih =>
      intro r hr hq
      rw [ancestorsWithin] at hq
      split at hq
      · rwa [List.mem_singleton.1 hq]
      · next hparent =>
        rcases List.mem_cons.1 hq with rfl | hq
        · exact hr
        · exact ih (hr.parent? hparent) hq
  exact hwithin _ hdirectory h

/-- The step that a piece of a path is, if it is one. -/
def stepOf? (piece : String) : Option Step :=
  if piece = "" then none
  else if piece = "." then some .stay
  else if piece = ".." then some .up
  else some (.enter piece)

theorem stepOf?_eq_up_iff {piece : String} : stepOf? piece = some .up ↔ piece = ".." := by
  unfold stepOf?
  split_ifs <;> simp_all

theorem pieces_append {rest : List Char} (h : p.text.toList = q.text.toList ++ '/' :: rest) :
    p.pieces = q.pieces ++ (Path.mk (String.ofList rest)).pieces := by
  unfold pieces
  rw [h, List.splitOn_append_cons_self, List.map_append, String.toList_ofList]

/-- A path goes up where a piece of it is two dots. -/
theorem up_mem_steps_iff : .up ∈ p.steps ↔ ".." ∈ p.pieces := by
  have hslash : Step.up ∉ (if p.text.toList.getLast? = some '/' then [Step.slash] else []) := by
    split <;> simp
  show .up ∈ p.pieces.filterMap stepOf? ++ _ ↔ _
  rw [List.mem_append, List.mem_filterMap]
  simp only [stepOf?_eq_up_iff, exists_eq_right, hslash, or_false]

/-- The steps of a path go on from those of a path that ends before one of its slashes, and go up
only where what follows the slash does. -/
theorem exists_steps {rest : List Char} (hnil : q.text.toList ≠ [])
    (hslash : q.text.toList.getLast? ≠ some '/')
    (h : p.text.toList = q.text.toList ++ '/' :: rest) :
    p.isAbsolute = q.isAbsolute ∧ ∃ more, p.steps = q.steps ++ more ∧
      (.up ∈ more → .up ∈ (Path.mk (String.ofList rest)).steps) := by
  constructor
  · unfold isAbsolute
    rw [h, List.head?_append_of_ne_nil _ hnil]
  · have hq : q.steps = q.pieces.filterMap stepOf? := by
      unfold steps
      rw [if_neg hslash, List.append_nil]
      rfl
    have hp : p.steps = p.pieces.filterMap stepOf? ++
        if p.text.toList.getLast? = some '/' then [.slash] else [] := rfl
    rw [hp, pieces_append h, List.filterMap_append, List.append_assoc, ← hq]
    refine ⟨_, rfl, fun hup => ?_⟩
    rw [up_mem_steps_iff]
    obtain hup | hup := List.mem_append.1 hup
    · obtain ⟨piece, hpiece, heq⟩ := List.mem_filterMap.1 hup
      exact stepOf?_eq_up_iff.1 heq ▸ hpiece
    · split at hup <;> simp at hup

end Dialogue.Path
