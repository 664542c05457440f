import Mathlib.Data.List.Nodup
import Dialogue.Database.Basic

/-!
# Lists whose elements have keys of their own

A database finds everything by its first match. Where the keys of a list are distinct the first
match is the only one, so a look-up finds each element by its key (`find?_of_nodup`), a change to
the first element of a key is a change to all elements of it (`updateFirst_eq_map`), and all
elements of a key are one (`filter_of_nodup`). What belongs to some elements can be picked out of
what is collected from all of them (`filter_flatMap_eq`). The next id is a key that none has
(`nextId_not_mem`), unless the last id is in use, and then it is 0 (`nextId_eq_zero_iff`).
-/

namespace Dialogue

section keys

variable {α β κ : Type} {key : α → κ}

/-- A look-up by the key of an element finds that element. -/
theorem find?_of_nodup [DecidableEq κ] {l : List α} (h : (l.map key).Nodup) {a : α} (ha : a ∈ l)
    {k : κ} (hk : key a = k) : l.find? (fun b => key b = k) = some a := by
  rcases hb : l.find? (fun b => key b = k) with _ | b
  · have hne := List.find?_eq_none.1 hb a ha
    simp [hk] at hne
  · have hkb : key b = k := by simpa using List.find?_some hb
    rw [List.inj_on_of_nodup_map h (List.mem_of_find?_eq_some hb) ha (hkb.trans hk.symm)]

/-- With distinct keys, the first element of a key is every element of it. -/
theorem updateFirst_eq_map [DecidableEq κ] {l : List α} (h : (l.map key).Nodup) (k : κ)
    (f : α → α) :
    updateFirst (fun a => key a = k) f l = l.map fun a => if key a = k then f a else a := by
  induction l with
  | nil => rfl
  | cons a l ih =>
      rw [List.map_cons, List.nodup_cons] at h
      rw [updateFirst, List.map_cons]
      by_cases ha : key a = k
      · have hrest : ∀ b ∈ l, (if key b = k then f b else b) = b := by
          intro b hb
          have hne : key b ≠ k := fun hbk =>
            h.1 (ha.trans hbk.symm ▸ List.mem_map_of_mem hb)
          rw [if_neg hne]
        rw [List.map_congr_left hrest]
        simp [ha]
      · rw [ih h.2]
        simp [ha]

/-- What is collected from the elements of a list, kept where it comes from some of them, is what is
collected from those. -/
theorem filter_flatMap_eq {l : List α} {f : α → List β} {p : β → Bool} {q : α → Bool}
    (h : ∀ a ∈ l, ∀ x ∈ f a, p x = q a) : (l.flatMap f).filter p = (l.filter q).flatMap f := by
  induction l with
  | nil => rfl
  | cons a l ih =>
      have hrest := ih fun b hb => h b (List.mem_cons_of_mem a hb)
      have ha := h a List.mem_cons_self
      rw [List.flatMap_cons, List.filter_append, hrest]
      rcases hq : q a with _ | _
      · have hnone : (f a).filter p = [] := by
          rw [List.filter_eq_nil_iff]
          intro x hx
          simp [ha x hx, hq]
        rw [hnone, List.nil_append, List.filter_cons_of_neg (by simp [hq])]
      · have hall : (f a).filter p = f a := by
          rw [List.filter_eq_self]
          intro x hx
          rw [ha x hx, hq]
        rw [hall, List.filter_cons_of_pos hq, List.flatMap_cons]

/-- With distinct keys, the elements of the key of one are that one alone. -/
theorem filter_of_nodup [DecidableEq κ] {l : List α} (h : (l.map key).Nodup) {a : α} (ha : a ∈ l) :
    l.filter (fun b => key b = key a) = [a] := by
  induction l with
  | nil => cases ha
  | cons b l ih =>
      rw [List.map_cons, List.nodup_cons] at h
      rcases List.mem_cons.1 ha with rfl | ha
      · have hrest : l.filter (fun b => key b = key a) = [] := by
          rw [List.filter_eq_nil_iff]
          intro c hc
          have hne : key c ≠ key a := fun hca => h.1 (hca ▸ List.mem_map_of_mem hc)
          simpa using hne
        rw [List.filter_cons_of_pos (by simp), hrest]
      · have hne : key b ≠ key a := fun hba => h.1 (hba ▸ List.mem_map_of_mem ha)
        rw [List.filter_cons_of_neg (by simpa using hne)]
        exact ih h.2 ha

/-- With distinct keys, what is collected from the elements of the key of one comes from that
one. -/
theorem flatMap_ite_of_nodup [DecidableEq κ] {l : List α} (h : (l.map key).Nodup) {a : α}
    (ha : a ∈ l) (f : α → List β) :
    (l.flatMap fun b => if key b = key a then f b else []) = f a := by
  have hall : ∀ l : List α, (l.flatMap fun b => if key b = key a then f b else []) =
      (l.filter fun b => key b = key a).flatMap f := by
    intro l
    induction l with
    | nil => rfl
    | cons b l ih =>
        rw [List.flatMap_cons, ih]
        by_cases hb : key b = key a <;> simp [hb]
  rw [hall, filter_of_nodup h ha, List.flatMap_singleton]

/-- One more element is new to a list, or it is a repetition. -/
theorem eraseDups_append_singleton [DecidableEq α] (l : List α) (a : α) :
    (l ++ [a]).eraseDups = if a ∈ l then l.eraseDups else l.eraseDups ++ [a] := by
  rw [List.eraseDups_append, List.removeAll]
  by_cases h : a ∈ l
  · rw [List.filter_cons_of_neg (by simpa using h), List.filter_nil, List.eraseDups_nil,
      List.append_nil, if_pos h]
  · rw [List.filter_cons_of_pos (by simpa using h), List.filter_nil, List.eraseDups_cons,
      List.filter_nil, List.eraseDups_nil, if_neg h]

end keys

/-! ## The next id -/

section nextId

variable {used : List Nat}

/-- The next id is 0 exactly if the last one is in use. -/
theorem nextId_eq_zero_iff : nextId used = 0 ↔ ∃ i ∈ used, maxId ≤ i := by
  unfold nextId
  rcases hm : used.max? with _ | m
  · rw [List.max?_eq_none_iff.1 hm]
    simp
  · obtain ⟨hmem, hle⟩ := List.max?_eq_some_iff.1 hm
    rw [Option.map_some, Option.getD_some]
    split
    · next hlt =>
      refine iff_of_false (Nat.succ_ne_zero m) ?_
      rintro ⟨i, hi, hmax⟩
      exact Nat.not_le_of_lt hlt (Nat.le_trans hmax (hle i hi))
    · next hlast => exact iff_of_true rfl ⟨m, hmem, Nat.le_of_not_lt hlast⟩

/-- Any other next id is one more than the largest, or than nothing. -/
theorem nextId_eq (h : nextId used ≠ 0) : nextId used = used.max?.getD 0 + 1 := by
  unfold nextId at h ⊢
  rcases hm : used.max? with _ | m
  · rfl
  · rw [hm, Option.map_some, Option.getD_some] at h
    rw [Option.map_some, Option.getD_some, Option.getD_some]
    split at h
    · next hlt => rw [if_pos hlt]
    · exact absurd rfl h

/-- Every id in use is smaller than the next one, unless that is 0. -/
theorem lt_nextId (h : nextId used ≠ 0) {i : Nat} (hi : i ∈ used) : i < nextId used := by
  rw [nextId_eq h]
  exact Nat.lt_succ_of_le (List.le_max?_getD_of_mem hi)

/-- The next id is in use nowhere, unless it is 0. -/
theorem nextId_not_mem (h : nextId used ≠ 0) : nextId used ∉ used :=
  fun hi => Nat.lt_irrefl _ (lt_nextId h hi)

/-- Once the next id is in use, it is the largest. -/
theorem max?_append_nextId (h : nextId used ≠ 0) :
    (used ++ [nextId used]).max? = some (nextId used) := by
  refine List.max?_eq_some_iff.2 ⟨List.mem_append_right _ (List.mem_singleton.2 rfl), ?_⟩
  intro i hi
  rcases List.mem_append.1 hi with hi | hi
  · exact Nat.le_of_lt (lt_nextId h hi)
  · exact Nat.le_of_eq (List.mem_singleton.1 hi)

/-- Where the same ids are in use, the largest is the same. -/
theorem max?_congr {used' : List Nat} (h : ∀ i, i ∈ used ↔ i ∈ used') : used.max? = used'.max? := by
  refine Option.ext fun k => ?_
  simp only [List.max?_eq_some_iff, h]

end nextId

end Dialogue
