import Mathlib.Data.List.Induction
import Dialogue.Script.Forest

/-!
# How the forest of a script grows

A forest starts as its title and grows by one node at a time. `Forest.Grown` says what every node
that joins it is like: its id is the number of nodes before it, it is no title, and its parent, if
it has one, is a node before it that is no header line. `buildForest` makes no other forest
(`Forest.Grown.of_buildForest`): the id is never taken (`Forest.Grown.nextNodeId`), and the two ways
to find a parent, from the node just before or beside an earlier one, both give such a node
(`Forest.Grown.parentFor`).
-/

namespace Dialogue.Script

/-- A forest as a script makes it: a title, and below it nodes that are no titles, numbered by
their place, each hanging from nothing or from an entry before it. -/
inductive Forest.Grown : Forest → Prop
  | title (line depth : Nat) (text : String) : Grown [⟨0, depth, line, none, .title text⟩]
  | node {nodes : Forest} (h : Grown nodes) (line depth : Nat) (parent : Option Nat)
      (kind : NodeKind) (hkind : ∀ text, kind ≠ .title text)
      (hparent : ∀ p, parent = some p → ∃ m, nodes[p]? = some m ∧ m.kind.isHeader = false) :
      Grown (nodes ++ [⟨nodes.length, depth, line, parent, kind⟩])

namespace Forest.Grown

variable {nodes : Forest}

/-- There is always the title. -/
theorem length_pos (h : Grown nodes) : 0 < nodes.length := by
  induction h with
  | title => exact Nat.one_pos
  | node => simp

/-- The id of a node is its place. -/
theorem id_eq (h : Grown nodes) {i : Nat} {n : Node} (hn : nodes[i]? = some n) : n.id = i := by
  induction h with
  | title line depth text =>
      rw [List.getElem?_singleton] at hn
      split at hn
      · next hi => simpa [hi] using congrArg (Option.map Node.id) hn.symm
      · cases hn
  | @node nodes h line depth parent kind hkind hparent ih =>
      rcases Nat.lt_trichotomy i nodes.length with hi | hi | hi
      · rw [List.getElem?_append_left hi] at hn
        exact ih hn
      · subst hi
        rw [List.getElem?_concat_length] at hn
        cases hn
        rfl
      · rw [List.getElem?_eq_none (by simp; omega)] at hn
        cases hn

/-- No two nodes have one id. -/
theorem nodup_ids (h : Grown nodes) : (nodes.map (·.id)).Nodup := by
  have hrange : nodes.map (·.id) = List.range nodes.length := by
    refine List.ext_getElem (by simp) fun i hi _ => ?_
    rw [List.getElem_map, List.getElem_range]
    exact h.id_eq (List.getElem?_eq_getElem (by simpa using hi))
  rw [hrange]
  exact List.nodup_range

/-- A node is found by its id. -/
theorem getElem?_id (h : Grown nodes) {n : Node} (hn : n ∈ nodes) : nodes[n.id]? = some n := by
  obtain ⟨i, hi, rfl⟩ := List.getElem_of_mem hn
  rw [h.id_eq (List.getElem?_eq_getElem hi)]
  exact List.getElem?_eq_getElem hi

/-- Only the title has the id that `START` has. -/
theorem start_lt (h : Grown nodes) {n : Node} (hn : n ∈ nodes) (hentry : n.kind.isHeader = false) :
    startId < n.id := by
  induction h with
  | title line depth text =>
      rw [List.mem_singleton.1 hn] at hentry
      cases hentry
  | @node nodes h line depth parent kind hkind hparent ih =>
      rcases List.mem_append.1 hn with hn | hn
      · exact ih hn
      · rw [List.mem_singleton.1 hn]
        exact h.length_pos

/-- Ids are smaller than the number of nodes. -/
theorem id_lt (h : Grown nodes) {n : Node} (hn : n ∈ nodes) : n.id < nodes.length := by
  obtain ⟨i, hi, rfl⟩ := List.getElem_of_mem hn
  rw [h.id_eq (List.getElem?_eq_getElem hi)]
  exact hi

/-- The parent of a node is an entry before it. -/
theorem parent_isEntry (h : Grown nodes) {n : Node} (hn : n ∈ nodes) {p : Nat}
    (hp : n.parent = some p) : p < n.id ∧ ∃ m, nodes[p]? = some m ∧ m.kind.isHeader = false := by
  induction h with
  | title line depth text =>
      rw [List.mem_singleton.1 hn] at hp
      cases hp
  | @node nodes h line depth parent kind hkind hparent ih =>
      have hold : ∀ {m : Node}, nodes[p]? = some m →
          (nodes ++ [⟨nodes.length, depth, line, parent, kind⟩])[p]? = some m := by
        intro m hm
        rw [List.getElem?_append_left (List.getElem?_eq_some_iff.1 hm).1]
        exact hm
      rcases List.mem_append.1 hn with hn | hn
      · obtain ⟨hlt, m, hm, hentry⟩ := ih hn
        exact ⟨hlt, m, hold hm, hentry⟩
      · rw [List.mem_singleton.1 hn] at hp ⊢
        obtain ⟨m, hm, hentry⟩ := hparent p hp
        exact ⟨(List.getElem?_eq_some_iff.1 hm).1, m, hold hm, hentry⟩

/-- The number of nodes is an id that no node has. -/
theorem nextNodeId (h : Grown nodes) : nodes.nextNodeId = nodes.length := by
  have hfree : nodes.any (·.id = nodes.length) = false := by
    rw [List.any_eq_false]
    intro n hn
    simpa using Nat.ne_of_lt (h.id_lt hn)
  simp [Forest.nextNodeId, hfree]

/-- The parent found for a further node is an entry of the forest. -/
theorem parentFor (h : Grown nodes) {depth p : Nat} (hp : nodes.parentFor depth = some p) :
    ∃ m, nodes[p]? = some m ∧ m.kind.isHeader = false := by
  unfold Forest.parentFor at hp
  split at hp
  · cases hp
  · next previous hlast =>
    split at hp
    · split at hp
      · cases hp
      · next hentry =>
        obtain rfl : nodes.length - 1 = p := by simpa using hp
        rw [List.getLast?_eq_getElem?] at hlast
        exact ⟨previous, hlast, by simpa using hentry⟩
    · obtain ⟨sibling, hfind, hparent⟩ := Option.bind_eq_some_iff.1 hp
      have hmem : sibling ∈ nodes := List.mem_reverse.1 (List.mem_of_find?_eq_some hfind)
      exact (h.parent_isEntry hmem hparent).2

/-- The forest with one more node, if that is no title. -/
theorem grow (h : Grown nodes) (line depth : Nat) {kind : NodeKind}
    (hkind : ∀ text, kind ≠ .title text) : Grown (nodes.grow line depth kind) := by
  unfold Forest.grow
  rw [h.nextNodeId]
  exact .node h line depth _ kind hkind fun p hp => h.parentFor hp

/-- Every element keeps the forest grown. -/
theorem step {g : Growth} (h : Grown g.nodes) (e : Element) : Grown (g.step e).nodes := by
  unfold Growth.step
  split
  · exact h
  · exact h
  · exact h.grow e.line e.depth (by simp)
  · exact h.grow e.line e.depth (by simp)

theorem foldl_step {g : Growth} (h : Grown g.nodes) (elements : List Element) :
    Grown (elements.foldl Growth.step g).nodes := by
  induction elements generalizing g with
  | nil => exact h
  | cons e elements ih => exact ih (h.step e)

/-- Whatever forest is built is grown. -/
theorem of_buildForest {elements : List Element} (h : (buildForest elements).forest = .ok nodes) :
    Grown nodes := by
  obtain ⟨line, depth, text, rest, -, rfl⟩ := exists_of_buildForest h
  exact foldl_step (.title line depth text) rest

theorem of_parse {source : String} (h : (parse source).forest = .ok nodes) : Grown nodes :=
  of_buildForest h

end Forest.Grown

end Dialogue.Script
