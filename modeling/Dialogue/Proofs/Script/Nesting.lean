import Mathlib.Data.List.Chain
import Dialogue.Proofs.Script.Grown
import Dialogue.Proofs.Script.Held

/-!
# Where the nodes of a script stand

A script makes its nodes in order, each from one element (`Growth.elements_foldl_step`). What holds
of every node and those before it (`Forest.Each`) is shown for one more node, and from there for a
whole script (`Forest.each_of_buildForest`).

All that is to be known about parents is in `Forest.Hangs`: a node hangs from the one just before
it, which is no deeper, or it is less deep than that one and hangs from what the latest node of its
own depth hangs from. So what a node hangs from is never deeper than the node (`Node.PutAfter`).

The search for a node of the same depth looks past nodes that are less deep. Where depth never grows
by more than one from node to node there are none to look past: to come back above a depth, a script
has to pass through it (`lt_depth_of_ne`). So no node hangs from anything across a shallower one
(`Node.Enclosed`).
-/

namespace Dialogue.Script

/-- What the node stands for, without what directives say about it. -/
def NodeKind.element : NodeKind → ElementKind
  | title text => .title text
  | conversant name => .conversant name
  | entry content _ => .content content

/-- The element that the node is made from. -/
def Node.element (n : Node) : Element := ⟨n.line, n.depth, n.kind.element⟩

/-- Every node of the forest is like this, given those before it. -/
def Forest.Each (P : Forest → Node → Prop) (nodes : Forest) : Prop :=
  ∀ before n after, nodes = before ++ n :: after → P before n

/-- The node stands behind these as a script puts it there: its id is how many they are, it is a
title only if it comes first, and if it hangs from anything, then from an entry among them that is
no deeper than itself. -/
structure Node.PutAfter (before : Forest) (n : Node) : Prop where
  id : n.id = before.length
  title : ∀ text, n.kind = .title text → before = []
  parent : ∀ p, n.parent = some p →
    ∃ m, before[p]? = some m ∧ m.kind.isHeader = false ∧ m.depth ≤ n.depth

/-- What the node hangs from among these, if anything, is no deeper than itself, and all that stands
in between is at least as deep. -/
def Node.Enclosed (before : Forest) (n : Node) : Prop :=
  ∀ p, n.parent = some p → ∃ m, before[p]? = some m ∧ m.depth ≤ n.depth ∧
    ∀ q ∈ before.drop (p + 1), n.depth ≤ q.depth

/-- How a further node of this depth comes to hang from the node in this place. -/
inductive Forest.Hangs (nodes : Forest) (depth p : Nat) : Prop
  /-- It hangs from the last node. -/
  | below (m : Node) (hm : nodes[p]? = some m) (hlast : p + 1 = nodes.length)
      (hentry : m.kind.isHeader = false) (hdepth : m.depth ≤ depth)
  /-- It stands beside the latest node of its depth, and the last node is deeper. -/
  | beside (before : Forest) (sibling : Node) (after : Forest)
      (hnodes : nodes = before ++ sibling :: after) (hdepth : sibling.depth = depth)
      (hparent : sibling.parent = some p) (hafter : ∀ m ∈ after, m.depth ≠ depth)
      (hlast : ∀ m, after.getLast? = some m → depth < m.depth)

/-! ## Elements -/

/-- An element makes one node or none. -/
theorem Growth.elements_step (g : Growth) (e : Element) :
    (g.step e).nodes.map Node.element =
      g.nodes.map Node.element ++ [e].filter Element.makesNode := by
  obtain ⟨line, depth, kind⟩ := e
  cases kind <;>
    simp [Growth.step, Forest.grow, List.filter_cons, Element.makesNode, Node.element,
      NodeKind.element]

/-- The nodes are made from the elements that make any. -/
theorem Growth.elements_foldl_step (g : Growth) (elements : List Element) :
    (elements.foldl Growth.step g).nodes.map Node.element =
      g.nodes.map Node.element ++ elements.filter Element.makesNode := by
  induction elements generalizing g with
  | nil => simp
  | cons e elements ih =>
    rw [List.foldl_cons, ih, g.elements_step, List.append_assoc, ← List.filter_append,
      List.singleton_append]

/-! ## Every node, given those before it -/

namespace Forest

variable {P : Forest → Node → Prop} {nodes : Forest} {depth p : Nat}

theorem each_nil : Forest.Each P [] := by
  intro before n after h
  simp at h

theorem each_append_singleton {n : Node} :
    Forest.Each P (nodes ++ [n]) ↔ nodes.Each P ∧ P nodes n := by
  constructor
  · intro h
    refine ⟨?_, h nodes n [] rfl⟩
    intro before m after hsplit
    apply h before m (after ++ [n])
    rw [hsplit, List.append_assoc, List.cons_append]
  · rintro ⟨hnodes, hn⟩ before m after hsplit
    obtain rfl | ⟨after, last, rfl⟩ := List.eq_nil_or_concat after
    · obtain ⟨rfl, hm⟩ := List.append_inj' hsplit rfl
      cases hm
      exact hn
    · rw [List.concat_eq_append, ← List.cons_append, ← List.append_assoc] at hsplit
      exact hnodes before m after (List.append_inj' hsplit rfl).1

/-- The parent found for a further node is found in one of two ways. -/
theorem hangs_of_parentFor (h : nodes.parentFor depth = some p) : nodes.Hangs depth p := by
  unfold parentFor at h
  split at h
  · cases h
  · next last hlast =>
    split at h
    · next hdepth =>
      split at h
      · cases h
      · next hentry =>
        obtain rfl : nodes.length - 1 = p := by simpa using h
        have hne : nodes ≠ [] := by
          rintro rfl
          simp at hlast
        have hpos := List.length_pos_iff.2 hne
        rw [List.getLast?_eq_getElem?] at hlast
        exact .below last hlast (by omega) (by simpa using hentry) hdepth
    · next hdepth =>
      obtain ⟨sibling, hfind, hparent⟩ := Option.bind_eq_some_iff.1 h
      obtain ⟨hsibling, later, earlier, hsplit, hlater⟩ := List.find?_eq_some_iff_append.1 hfind
      have hnodes : nodes = earlier.reverse ++ sibling :: later.reverse := by
        rw [← List.reverse_reverse nodes, hsplit]
        simp
      apply Hangs.beside _ _ _ hnodes (by simpa using hsibling) hparent
      · intro m hm
        simpa using hlater m (List.mem_reverse.1 hm)
      · intro m hm
        have hsame : nodes.getLast? = some m := by
          rw [hnodes, List.getLast?_append_cons, List.getLast?_cons, hm]
          simp
        rw [hlast, Option.some.injEq] at hsame
        rw [← hsame]
        omega

end Forest

/-! ## One more node -/

section node

variable {P : Forest → Node → Prop} {nodes : Forest}

/-- What a further node of a script keeps true, an element keeps true. -/
theorem Growth.each_step
    (hP : ∀ {nodes : Forest}, nodes.Grown → nodes.Each P → ∀ line depth {kind : NodeKind},
      (∀ text, kind ≠ .title text) →
        P nodes ⟨nodes.length, depth, line, nodes.parentFor depth, kind⟩)
    {g : Growth} (hgrown : g.nodes.Grown) (h : g.nodes.Each P) (e : Element) :
    (g.step e).nodes.Each P := by
  unfold Growth.step
  split
  · exact h
  · exact h
  · rw [Forest.grow, hgrown.nextNodeId, Forest.each_append_singleton]
    exact ⟨h, hP hgrown h e.line e.depth (by simp)⟩
  · rw [Forest.grow, hgrown.nextNodeId, Forest.each_append_singleton]
    exact ⟨h, hP hgrown h e.line e.depth (by simp)⟩

/-- What a further node of a script keeps true is true of every script. -/
theorem Forest.each_of_buildForest
    (hP : ∀ {nodes : Forest}, nodes.Grown → nodes.Each P → ∀ line depth {kind : NodeKind},
      (∀ text, kind ≠ .title text) →
        P nodes ⟨nodes.length, depth, line, nodes.parentFor depth, kind⟩)
    (htitle : ∀ line depth text, P [] ⟨0, depth, line, none, .title text⟩)
    {elements : List Element} (h : (buildForest elements).forest = .ok nodes) : nodes.Each P := by
  have hrun : ∀ (rest : List Element) (g : Growth), g.nodes.Grown → g.nodes.Each P →
      (rest.foldl Growth.step g).nodes.Each P := by
    intro rest
    induction rest with
    | nil => exact fun g _ h => h
    | cons e rest ih =>
      exact fun g hgrown h => ih _ (hgrown.step e) (Growth.each_step hP hgrown h e)
  obtain ⟨line, depth, text, rest, -, rfl⟩ := exists_of_buildForest h
  apply hrun rest (.start line depth text) (.title line depth text)
  exact Forest.each_append_singleton.2 ⟨Forest.each_nil, htitle line depth text⟩

end node

namespace Forest

variable {nodes : Forest}

/-- Every node of a script stands as the script puts it there. -/
theorem putAfter_of_buildForest {elements : List Element}
    (h : (buildForest elements).forest = .ok nodes) : nodes.Each Node.PutAfter := by
  refine each_of_buildForest ?_ ?_ h
  · intro nodes _ hnodes line depth kind hkind
    refine ⟨rfl, fun text htext => absurd htext (hkind text), ?_⟩
    intro p hp
    cases hangs_of_parentFor hp with
    | below m hm _ hentry hdepth => exact ⟨m, hm, hentry, hdepth⟩
    | beside before sibling after hsplit hdepth hparent _ _ =>
      -- the parent of the sibling was found no deeper than the sibling, which is as deep
      obtain ⟨m, hm, hentry, hle⟩ := (hnodes before sibling after hsplit).parent p hparent
      refine ⟨m, ?_, hentry, hdepth ▸ hle⟩
      rw [hsplit, List.getElem?_append_left (List.getElem?_eq_some_iff.1 hm).1]
      exact hm
  · intro line depth text
    exact ⟨rfl, fun _ _ => rfl, nofun⟩

/-- The number of the nodes before any time is an id that none of them has. -/
theorem any_id_eq_false (h : nodes.Each Node.PutAfter) {before : Forest} (hb : before <+: nodes) :
    before.any (·.id = before.length) = false := by
  obtain ⟨later, rfl⟩ := hb
  rw [List.any_eq_false]
  intro n hn
  obtain ⟨earlier, after, rfl⟩ := List.append_of_mem hn
  have hid := (h earlier n (after ++ later) (by simp)).id
  simp [hid]

end Forest

/-- What a script makes of its elements. The first element gives the title, and after it every
`npc:` line and every piece of content gives one node, in order and with its line and its depth.
Nodes are numbered by their place, for which no number is ever taken, and a node hangs from nothing
or from an entry before it that is no deeper. -/
theorem buildForest_putAfter (line depth : Nat) (text : String) (rest : List Element) :
    ∃ nodes, (buildForest (⟨line, depth, .title text⟩ :: rest)).forest = .ok nodes ∧
      nodes.map Node.element = ⟨line, depth, .title text⟩ :: rest.filter Element.makesNode ∧
      nodes.Each Node.PutAfter ∧
      ∀ before, before <+: nodes → before.any (·.id = before.length) = false := by
  have hforest : (buildForest (⟨line, depth, .title text⟩ :: rest)).forest =
      .ok (rest.foldl Growth.step (.start line depth text)).nodes := rfl
  have hall := Forest.putAfter_of_buildForest hforest
  refine ⟨_, hforest, ?_, hall, fun before hb => Forest.any_id_eq_false hall hb⟩
  exact Growth.elements_foldl_step _ rest

/-! ## Depths that grow by one -/

/-- From node to node depth grows by one at most. -/
def Forest.Gradual (nodes : Forest) : Prop := nodes.IsChain fun m n => n.depth ≤ m.depth + 1

/-- Nodes that end deeper than this and never are as deep as this are all deeper: a first one that
is less deep would have to be followed by one that is just as deep. -/
theorem Forest.Gradual.lt_depth_of_ne {nodes : Forest} (h : nodes.Gradual) {depth : Nat}
    (hne : ∀ m ∈ nodes, m.depth ≠ depth)
    (hlast : ∀ m, nodes.getLast? = some m → depth < m.depth) : ∀ m ∈ nodes, depth < m.depth := by
  induction nodes with
  | nil => simp
  | cons n nodes ih =>
    rcases nodes with _ | ⟨next, nodes⟩
    · simpa using hlast
    · obtain ⟨hstep, hrest⟩ := List.isChain_cons_cons.1 h
      rw [List.getLast?_cons_cons] at hlast
      have hlater := ih hrest (fun m hm => hne m (List.mem_cons_of_mem n hm)) hlast
      intro m hm
      rcases List.mem_cons.1 hm with rfl | hm
      · have hnext := hlater next List.mem_cons_self
        have hm := hne m List.mem_cons_self
        omega
      · exact hlater m hm

/-- In a script whose depth grows by one at most, no node hangs from anything across a shallower
one. -/
theorem Forest.enclosed_of_buildForest {elements : List Element} {nodes : Forest}
    (h : (buildForest elements).forest = .ok nodes) (hgradual : nodes.Gradual) :
    nodes.Each Node.Enclosed := by
  -- what is asked of a node only asks something of the depths up to it
  have heach : nodes.Each fun before n => Gradual (before ++ [n]) → n.Enclosed before := by
    refine each_of_buildForest ?_ ?_ h
    · intro nodes _ hnodes line depth kind _ hgradual p hp
      have hbefore : nodes.Gradual := hgradual.left_of_append
      cases hangs_of_parentFor hp with
      | below m hm hlast _ hdepth =>
        refine ⟨m, hm, hdepth, ?_⟩
        rw [hlast, List.drop_length]
        simp
      | beside before sibling after hsplit hdepth hparent hafter hlast =>
        rw [hsplit, ← List.singleton_append, ← List.append_assoc] at hbefore
        obtain ⟨m, hm, hle, hbetween⟩ :=
          hnodes before sibling after hsplit hbefore.left_of_append p hparent
        have hdeeper := Gradual.lt_depth_of_ne hbefore.right_of_append hafter hlast
        have hp : p < before.length := (List.getElem?_eq_some_iff.1 hm).1
        refine ⟨m, ?_, hdepth ▸ hle, ?_⟩
        · rw [hsplit, List.getElem?_append_left hp]
          exact hm
        · intro q hq
          rw [hsplit, List.drop_append_of_le_length hp, List.mem_append, List.mem_cons] at hq
          rcases hq with hq | rfl | hq
          · exact hdepth ▸ hbetween q hq
          · exact Nat.le_of_eq hdepth.symm
          · exact Nat.le_of_lt (hdeeper q hq)
    · intro line depth text _ p hp
      cases hp
  intro before n after hsplit
  apply heach before n after hsplit
  rw [hsplit, ← List.singleton_append, ← List.append_assoc] at hgradual
  exact hgradual.left_of_append

/-- Blocks are respected. Where depth never grows by more than one from node to node, what a node
hangs from is no deeper than the node, and all that stands between the two is at least as deep. -/
theorem buildForest_enclosed (line depth : Nat) (text : String) {rest : List Element}
    (h : (⟨line, depth, .title text⟩ :: rest.filter Element.makesNode).IsChain
      fun e e' => e'.depth ≤ e.depth + 1) :
    ∃ nodes, (buildForest (⟨line, depth, .title text⟩ :: rest)).forest = .ok nodes ∧
      nodes.Each Node.Enclosed := by
  have hnodes : (rest.foldl Growth.step (.start line depth text)).nodes.map Node.element =
      ⟨line, depth, .title text⟩ :: rest.filter Element.makesNode :=
    Growth.elements_foldl_step _ rest
  have hforest : (buildForest (⟨line, depth, .title text⟩ :: rest)).forest =
      .ok (rest.foldl Growth.step (.start line depth text)).nodes := rfl
  rw [← hnodes, List.isChain_map] at h
  exact ⟨_, hforest, Forest.enclosed_of_buildForest hforest h⟩

/-- Replies of these depths, one a line, below a title in the first line. -/
def repliesAt (depths : List Nat) : List Element :=
  depths.mapIdx fun i depth => ⟨i + 2, depth, .content (.reply "Well?")⟩

/-- The last reply comes back from a depth of three to hang from the first one. -/
theorem buildForest_enclosed_repliesAt :
    (⟨1, 0, .title "Hall"⟩ :: (repliesAt [0, 1, 2, 1, 2, 3, 1]).filter Element.makesNode).IsChain
        (fun e e' => e'.depth ≤ e.depth + 1) ∧
      ∃ nodes, (buildForest (⟨1, 0, .title "Hall"⟩ :: repliesAt [0, 1, 2, 1, 2, 3, 1])).forest =
          .ok nodes ∧
        nodes.map (·.parent) =
          [none, none, some 1, some 2, some 1, some 4, some 5, some 1] ∧
        nodes.Each Node.Enclosed := by
  have hchain : (⟨1, 0, .title "Hall"⟩ ::
      (repliesAt [0, 1, 2, 1, 2, 3, 1]).filter Element.makesNode).IsChain
        (fun e e' => e'.depth ≤ e.depth + 1) := by decide +kernel
  obtain ⟨nodes, hnodes, henclosed⟩ := buildForest_enclosed 1 0 "Hall" hchain
  have hparents : (buildForest (⟨1, 0, .title "Hall"⟩ ::
      repliesAt [0, 1, 2, 1, 2, 3, 1])).forest.toOption.map (·.map (·.parent)) =
        some [none, none, some 1, some 2, some 1, some 4, some 5, some 1] := by decide +kernel
  rw [hnodes] at hparents
  exact ⟨hchain, nodes, hnodes, Option.some.inj hparents, henclosed⟩

/-- Where depth grows by more, a shallower node may stand in between: the fifth reply hangs from the
first one, across the third. -/
example : (buildForest (⟨1, 0, .title "Hall"⟩ ::
    repliesAt [0, 1, 0, 2, 1])).forest.toOption.map (·.map fun n => (n.depth, n.parent)) =
      some [(0, none), (0, none), (1, some 1), (0, none), (2, some 3), (1, some 1)] := by
  decide +kernel

end Dialogue.Script
