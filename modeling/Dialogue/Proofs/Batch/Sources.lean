import Mathlib.Data.List.Dedup
import Mathlib.Data.List.Induction
import Mathlib.Data.List.Nodup
import Dialogue.Batch
import Dialogue.Proofs.Conversation.Outline
import Dialogue.Proofs.Database.Keys

/-!
# What the sources of a batch ask for

A source asks for the outline of its forest, or for nothing. Of the outlines of a list of sources
only those survive whose title no later one has (`survivors`), and a survivor is the outline of the
last source of its title (`lastTitled?_bind_outline?`). An outline that comes from a source has a
title that is not blank, is sound and names everybody whom it needs.
-/

namespace Dialogue

open Script

namespace Source

/-- The forest of a source, if it gives one. -/
def forest? (s : Source) : Option Forest :=
  (Script.parse s.text).forest.toOption

/-- The outline of a source, if it gives a forest. -/
def outline? (s : Source) : Option Outline :=
  s.forest?.bind Forest.outline?

/-- The title of a source, if it gives a forest. -/
def title? (s : Source) : Option String :=
  s.forest?.bind Forest.title?

/-- What there is to say about a source on its own. -/
def remarks (s : Source) : List Diagnostic :=
  ((Script.parse s.text).diagnostics ++
    match (Script.parse s.text).forest with
    | .ok _ => []
    | .error e => [.ofCause (.malformedSource e)]).map (·.inFile s.file)

variable {s : Source}

theorem forest?_eq_some_iff {nodes : Forest} :
    s.forest? = some nodes ↔ (Script.parse s.text).forest = .ok nodes := by
  unfold forest?
  rcases (Script.parse s.text).forest with e | nodes'
  · constructor <;> intro h <;> cases h
  · exact ⟨fun h => congrArg _ (Option.some.inj h), fun h => congrArg _ (Except.ok.inj h)⟩

/-- A source that gives a forest gives one that a script makes. -/
theorem grown_of_forest? {nodes : Forest} (h : s.forest? = some nodes) : nodes.Grown :=
  .of_parse (forest?_eq_some_iff.1 h)

/-- A source has an outline exactly when it gives a forest, and it is that of the forest. -/
theorem outline?_eq_some_iff {o : Outline} :
    s.outline? = some o ↔ ∃ nodes, s.forest? = some nodes ∧ nodes.outline? = some o := by
  unfold outline?
  exact Option.bind_eq_some_iff

/-- A source has the title of its outline. -/
theorem title?_eq (s : Source) : s.title? = s.outline?.map Outline.title := by
  unfold title? outline?
  rw [Option.map_bind]
  congr 1
  funext nodes
  exact nodes.title?_eq

theorem forest?_eq_none (h : s.outline? = none) : s.forest? = none := by
  rcases hf : s.forest? with _ | nodes
  · rfl
  · obtain ⟨o, ho⟩ := (grown_of_forest? hf).exists_outline?
    rw [outline?_eq_some_iff.2 ⟨nodes, hf, ho⟩] at h
    cases h

end Source

/-! ## All outlines of a list of sources -/

/-- The outlines of those sources that have one, in order. -/
def outlines (sources : List Source) : List Outline :=
  sources.filterMap Source.outline?

/-- Two scripts, the first with a link to the second, on which the theorems are tried out. -/
def linkedScripts : List Source :=
  [⟨none, "title: Gate\nBob: Halt!\n\t<<link Inside>>\n\tOpen up. ->\n\tI go. ->"⟩,
    ⟨none, "title: Hall\nnpc: Bob\n<<title Inside>>\nHello. ->\n\t<<link 2>>\n\tBob: Come in."⟩]

variable {os : List Outline} {o : Outline} {sources : List Source}

@[simp] theorem outlines_nil : outlines [] = [] := rfl

theorem outlines_cons_of_none {s : Source} (h : s.outline? = none) (sources : List Source) :
    outlines (s :: sources) = outlines sources :=
  List.filterMap_cons_none h

theorem outlines_cons_of_some {s : Source} (h : s.outline? = some o) (sources : List Source) :
    outlines (s :: sources) = o :: outlines sources :=
  List.filterMap_cons_some h

theorem outlines_append (sources sources' : List Source) :
    outlines (sources ++ sources') = outlines sources ++ outlines sources' :=
  List.filterMap_append

/-- The titles of sources are those of their outlines. -/
theorem filterMap_title? (sources : List Source) :
    sources.filterMap Source.title? = (outlines sources).map Outline.title := by
  rw [outlines, List.map_filterMap]
  exact List.filterMap_congr fun s _ => s.title?_eq

/-- The outlines of sources are those of their forests. -/
theorem outlines_eq (sources : List Source) :
    outlines sources = (sources.filterMap Source.forest?).filterMap Forest.outline? :=
  List.filterMap_filterMap.symm

/-- Every outline is that of a forest that a source gives. -/
theorem exists_forest?_of_mem_outlines (h : o ∈ outlines sources) :
    ∃ s ∈ sources, ∃ nodes, s.forest? = some nodes ∧ nodes.outline? = some o := by
  obtain ⟨s, hs, ho⟩ := List.mem_filterMap.1 h
  exact ⟨s, hs, Source.outline?_eq_some_iff.1 ho⟩

/-- An outline of a source is sound. -/
theorem sound_of_mem_outlines (h : o ∈ outlines sources) : o.Sound := by
  obtain ⟨s, -, nodes, hforest, ho⟩ := exists_forest?_of_mem_outlines h
  exact (Source.grown_of_forest? hforest).sound ho

/-- An outline of a source names everybody whom it needs. -/
theorem complete_of_mem_outlines (h : o ∈ outlines sources) : o.Complete := by
  obtain ⟨s, -, nodes, -, ho⟩ := exists_forest?_of_mem_outlines h
  exact Forest.complete_of_outline? ho

/-- The title of an outline of a source is not blank. -/
theorem isAllBlank_of_mem_outlines (h : o ∈ outlines sources) :
    Text.isAllBlank o.title.toList = false := by
  obtain ⟨s, -, nodes, hforest, ho⟩ := exists_forest?_of_mem_outlines h
  have hfilled := filled_of_parse (Source.forest?_eq_some_iff.1 hforest)
  have htitle := nodes.title?_eq
  rw [ho] at htitle
  unfold Forest.title? at htitle
  split at htitle
  · cases htitle
    exact hfilled _ List.mem_cons_self
  · cases htitle

/-! ## Outlines that survive -/

/-- The outlines whose title no later one has. -/
def survivors : List Outline → List Outline
  | [] => []
  | o :: os => if os.any (·.title = o.title) then survivors os else o :: survivors os

/-- One more outline drives out those of its title. -/
theorem survivors_append_singleton (os : List Outline) (o : Outline) :
    survivors (os ++ [o]) = (survivors os).filter (·.title ≠ o.title) ++ [o] := by
  induction os with
  | nil => rfl
  | cons first os ih =>
      rw [List.cons_append, survivors, survivors, ih]
      by_cases hrest : os.any (·.title = first.title) = true
      · rw [if_pos hrest, if_pos (by rw [List.any_append, hrest, Bool.true_or])]
      · by_cases hnew : o.title = first.title
        · rw [if_pos (by simp [hnew]), if_neg hrest, List.filter_cons_of_neg (by simp [hnew])]
        · rw [if_neg (by simpa [hnew] using hrest), if_neg hrest,
            List.filter_cons_of_pos (by simpa using fun h => hnew h.symm), List.cons_append]

theorem survivors_sublist (os : List Outline) : (survivors os).Sublist os := by
  induction os with
  | nil => exact List.Sublist.refl _
  | cons first os ih =>
      rw [survivors]
      split
      · exact ih.cons first
      · exact ih.cons_cons first

theorem mem_of_mem_survivors (h : o ∈ survivors os) : o ∈ os :=
  (survivors_sublist os).subset h

/-- Every title that an outline has, a survivor has. -/
theorem exists_survivor (h : o ∈ os) : ∃ o' ∈ survivors os, o'.title = o.title := by
  induction os using List.reverseRecOn with
  | nil => cases h
  | append_singleton os new ih =>
      rw [survivors_append_singleton]
      by_cases hnew : o.title = new.title
      · exact ⟨new, List.mem_append_right _ (List.mem_singleton.2 rfl), hnew.symm⟩
      · have hold : o ∈ os := by
          rcases List.mem_append.1 h with h | h
          · exact h
          · exact absurd (congrArg Outline.title (List.mem_singleton.1 h)) hnew
        obtain ⟨o', ho', ht⟩ := ih hold
        refine ⟨o', List.mem_append_left _ (List.mem_filter.2 ⟨ho', ?_⟩), ht⟩
        simpa [ht] using hnew

/-- The titles of the survivors are those of all outlines. -/
theorem mem_titles_survivors {title : String} :
    title ∈ (survivors os).map Outline.title ↔ title ∈ os.map Outline.title := by
  constructor
  · intro h
    exact ((survivors_sublist os).map _).subset h
  · intro h
    obtain ⟨o, ho, rfl⟩ := List.mem_map.1 h
    obtain ⟨o', ho', ht⟩ := exists_survivor ho
    exact ht ▸ List.mem_map_of_mem ho'

/-- No two survivors have one title. -/
theorem nodup_titles_survivors (os : List Outline) : ((survivors os).map Outline.title).Nodup := by
  induction os with
  | nil => exact List.nodup_nil
  | cons first os ih =>
      rw [survivors]
      split
      · exact ih
      · next hrest =>
        rw [List.map_cons, List.nodup_cons]
        refine ⟨fun hmem => hrest ?_, ih⟩
        obtain ⟨o, ho, ht⟩ := List.mem_map.1 hmem
        exact List.any_eq_true.2 ⟨o, mem_of_mem_survivors ho, by simpa using ht⟩

/-- Whether an outline has a title. -/
theorem any_title (os : List Outline) (title : String) :
    os.any (·.title = title) = decide (title ∈ os.map Outline.title) := by
  rw [Bool.eq_iff_iff]
  simp only [List.any_eq_true, decide_eq_true_eq, List.mem_map]

/-- The titles of the survivors stand where they stand for the last time. -/
theorem titles_survivors (os : List Outline) :
    (survivors os).map Outline.title = (os.map Outline.title).dedup := by
  induction os with
  | nil => rfl
  | cons first os ih =>
      rw [survivors, any_title, List.map_cons]
      by_cases h : first.title ∈ os.map Outline.title
      · rw [if_pos (decide_eq_true h), List.dedup_cons_of_mem h, ih]
      · rw [if_neg (by simpa using h), List.dedup_cons_of_notMem h, List.map_cons, ih]

/-- The survivor of a title is the last outline of it. -/
theorem find?_survivors (os : List Outline) (title : String) :
    (survivors os).find? (·.title = title) = os.reverse.find? (·.title = title) := by
  induction os using List.reverseRecOn with
  | nil => rfl
  | append_singleton os o ih =>
      rw [survivors_append_singleton, List.find?_append, List.reverse_append]
      by_cases ht : o.title = title
      · have hnone : ((survivors os).filter (·.title ≠ o.title)).find? (·.title = title) =
            none := by
          rw [List.find?_eq_none]
          intro o' ho'
          simpa [ht] using (List.mem_filter.1 ho').2
        rw [hnone]
        simp [ht]
      · have hsame : ((survivors os).filter (·.title ≠ o.title)).find? (·.title = title) =
            (survivors os).find? (·.title = title) := by
          rw [List.find?_filter]
          congr 1
          funext o'
          by_cases ht' : o'.title = title
          · simp [ht', Ne.symm ht]
          · simp [ht']
        rw [hsame, ih]
        simp [ht]

/-! ## The last source of a title -/

/-- The forest of the last source of this title. -/
def lastTitled? (sources : List Source) (title : String) : Option Forest :=
  (sources.filterMap Source.forest?).reverse.find? (·.title? = some title)

/-- The outline of the last source of a title is the one that survives. -/
theorem lastTitled?_bind_outline? (sources : List Source) (title : String) :
    (lastTitled? sources title).bind Forest.outline? =
      (survivors (outlines sources)).find? (·.title = title) := by
  have htitle : ∀ nodes : Forest, nodes.outline?.any (·.title = title) =
      decide (nodes.title? = some title) := by
    intro nodes
    rw [nodes.title?_eq]
    rcases nodes.outline? with _ | o <;> simp
  rw [find?_survivors, outlines_eq, ← List.filterMap_reverse, List.find?_filterMap, lastTitled?]
  simp only [htitle]

/-- The last source of a title is among the later sources, if one of them has the title. -/
theorem lastTitled?_append (sources sources' : List Source) (title : String) :
    lastTitled? (sources ++ sources') title =
      (lastTitled? sources' title).or (lastTitled? sources title) := by
  rw [lastTitled?, List.filterMap_append, List.reverse_append, List.find?_append]
  rfl

/-- The last source of a title is a source, and its outline survives. -/
theorem exists_survivor_of_lastTitled? {title : String} {nodes : Forest}
    (h : lastTitled? sources title = some nodes) :
    ∃ o ∈ survivors (outlines sources), nodes.outline? = some o ∧ o.title = title ∧
      ∃ s ∈ sources, s.forest? = some nodes := by
  obtain ⟨s, hs, hforest⟩ :=
    List.mem_filterMap.1 (List.mem_reverse.1 (List.mem_of_find?_eq_some h))
  obtain ⟨o, ho⟩ := (Source.grown_of_forest? hforest).exists_outline?
  have hfind := lastTitled?_bind_outline? sources title
  rw [h, Option.bind_some, ho] at hfind
  exact ⟨o, List.mem_of_find?_eq_some hfind.symm, ho, by simpa using List.find?_some hfind.symm, s,
    hs, hforest⟩

/-- A survivor is the outline of the last source of its title. -/
theorem exists_lastTitled?_of_survivor (h : o ∈ survivors (outlines sources)) :
    ∃ nodes, lastTitled? sources o.title = some nodes ∧ nodes.outline? = some o := by
  have hfind := lastTitled?_bind_outline? sources o.title
  rw [find?_of_nodup (nodup_titles_survivors _) h rfl] at hfind
  exact Option.bind_eq_some_iff.1 hfind

/-- There is no last source of a title exactly if no source has it. -/
theorem lastTitled?_eq_none_iff {title : String} :
    lastTitled? sources title = none ↔ title ∉ (outlines sources).map Outline.title := by
  rcases h : lastTitled? sources title with _ | nodes
  · refine iff_of_true rfl fun ht => ?_
    rw [← mem_titles_survivors] at ht
    obtain ⟨o, ho, rfl⟩ := List.mem_map.1 ht
    obtain ⟨nodes, hlast, -⟩ := exists_lastTitled?_of_survivor ho
    rw [h] at hlast
    cases hlast
  · refine iff_of_false (by simp) fun ht => ht ?_
    obtain ⟨o, ho, -, hot, -⟩ := exists_survivor_of_lastTitled? h
    exact hot ▸ List.mem_map_of_mem (mem_of_mem_survivors ho)

end Dialogue
