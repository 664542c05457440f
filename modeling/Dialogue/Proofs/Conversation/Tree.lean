import Mathlib.Logic.Relation
import Dialogue.Proofs.Conversation.Assembly
import Dialogue.Proofs.Conversation.Links

/-!
# An assembled conversation is a tree

Whatever a script asks for, its conversation hangs together. Without the links by number and by
title, which come first in every entry, the links that are left (`Script.Forest.treeLinks`) make a
tree with `START` at its root (`Conversation.TreeBy`): each other entry has one link to it, from an
entry before it. So all entries can be reached from `START` (`Conversation.TreeBy.reached`), and
assembling never finds that a parent is missing.

That each piece hangs from `START` or from a piece with a smaller id is `Outline.Sound`, which every
forest of a script has. Here it is carried to the links of the entries: the links to a piece are one
link, from its parent (`Outline.Sound.filter_edges`).
-/

namespace Dialogue

open Script

/-- One of these links leads from the first entry of the conversation to the second, by their
ids. -/
def Conversation.Leads (c : Conversation) (links : Entry → List Link) (a b : EntryId) : Prop :=
  ∃ e ∈ c.entries, e.id = a ∧ ⟨⟨c.id, a⟩, ⟨c.id, b⟩⟩ ∈ links e

/-- These of the links of a conversation make a tree with `START` at its root. -/
structure Conversation.TreeBy (c : Conversation) (links : Entry → List Link) : Prop where
  sublist : ∀ e ∈ c.entries, (links e).Sublist e.links
  ids : (c.entries.map (·.id)).Nodup
  root : c.entries.head?.map (·.id) = some startId
  /-- A link leads from the entry that holds it to an entry of the conversation other than
  `START`. -/
  edge : ∀ e ∈ c.entries, ∀ l ∈ links e, ∃ child ∈ c.entries.tail,
    l = ⟨⟨c.id, e.id⟩, ⟨c.id, child.id⟩⟩
  /-- Each other entry has exactly one link to it, from an entry before it. -/
  parent : ∀ before e after, c.entries = before ++ e :: after → before ≠ [] →
    ∃ p ∈ before, (c.entries.flatMap links).filter (·.destination = ⟨c.id, e.id⟩) =
      [⟨⟨c.id, p.id⟩, ⟨c.id, e.id⟩⟩]

/-- The links of an entry without those by number and by title, which come first. -/
def Script.Forest.treeLinks (nodes : Forest) (c : Conversation) (e : Entry) : List Link :=
  e.links.drop (nodes.ownLinks c e.id).length

/-! ## Trees -/

namespace Conversation

variable {c : Conversation} {links links' : Entry → List Link} {a b : EntryId}

/-- More links lead further. -/
theorem Leads.mono (h : c.Leads links a b) (hsub : ∀ e ∈ c.entries, links e ⊆ links' e) :
    c.Leads links' a b := by
  obtain ⟨e, he, hid, hl⟩ := h
  exact ⟨e, he, hid, hsub e he hl⟩

/-- In a tree every entry can be reached from `START`. -/
theorem TreeBy.reached (h : c.TreeBy links) {e : Entry} (he : e ∈ c.entries) :
    Relation.ReflTransGen (c.Leads links) startId e.id := by
  obtain ⟨before, after, hsplit⟩ := List.append_of_mem he
  -- the induction is on how many entries come before, of which the parent is one
  induction hn : before.length using Nat.strongRecOn generalizing e before after with
  | ind n ih =>
      by_cases hbefore : before = []
      · have hroot := h.root
        rw [hsplit, hbefore, List.nil_append, List.head?_cons, Option.map_some] at hroot
        rw [Option.some.inj hroot]
      · obtain ⟨p, hp, hone⟩ := h.parent before e after hsplit hbefore
        obtain ⟨before', between, hsplit'⟩ := List.append_of_mem hp
        have hlt : before'.length < n := by
          rw [← hn, hsplit', List.length_append, List.length_cons]
          omega
        have hmem : p ∈ c.entries := by
          rw [hsplit]
          exact List.mem_append_left _ hp
        have hreached := ih before'.length hlt hmem before' (between ++ e :: after)
          (by rw [hsplit, hsplit', List.append_assoc, List.cons_append]) rfl
        refine hreached.tail ?_
        have hlink : (⟨⟨c.id, p.id⟩, ⟨c.id, e.id⟩⟩ : Link) ∈ c.entries.flatMap links := by
          apply List.mem_of_mem_filter
          rw [hone]
          exact List.mem_singleton.2 rfl
        obtain ⟨e', he', hl⟩ := List.mem_flatMap.1 hlink
        obtain ⟨child, -, hedge⟩ := h.edge e' he' _ hl
        have hid : e'.id = p.id := by
          simp only [Link.mk.injEq, EntryRef.mk.injEq] at hedge
          exact hedge.1.2.symm
        exact ⟨e', he', hid, hl⟩

end Conversation

/-! ## The tree of an outline -/

namespace Outline.Sound

variable {o : Outline} {q : Piece}

/-- The ids of `START` and of the pieces increase. -/
theorem pairwise_ids (h : o.Sound) : (startId :: o.pieces.map Piece.id).Pairwise (· < ·) := by
  rw [List.pairwise_cons, List.pairwise_map]
  refine ⟨fun id hid => ?_, h.increasing⟩
  obtain ⟨p, hp, rfl⟩ := List.mem_map.1 hid
  exact h.pos p hp

/-- What a piece hangs from is `START` or a piece. -/
theorem parent_mem (h : o.Sound) (hq : q ∈ o.pieces) :
    q.parent ∈ startId :: o.pieces.map Piece.id := by
  obtain hroot | ⟨p, hp, hid, -⟩ := h.parent q hq
  · rw [hroot]
    exact List.mem_cons_self
  · rw [← hid]
    exact List.mem_cons_of_mem _ (List.mem_map_of_mem hp)

/-- Among what hangs from an entry, a piece stands once if it hangs from it, and else not at all. -/
theorem filter_children (h : o.Sound) (hq : q ∈ o.pieces) (id : EntryId) :
    (Piece.children o.pieces id).filter (· = q.id) = if id = q.parent then [q.id] else [] := by
  have hnodup : (o.pieces.map Piece.id).Nodup := (List.nodup_cons.1 h.nodup).2
  have hone := filter_of_nodup hnodup hq
  have hswap : (Piece.children o.pieces id).filter (· = q.id) =
      ((o.pieces.filter (·.id = q.id)).filter (·.parent = id)).map Piece.id := by
    rw [Piece.children, List.filter_map, List.filter_filter, List.filter_filter]
    congr 1
    refine List.filter_congr fun p _ => ?_
    exact Bool.and_comm _ _
  rw [hswap, hone]
  by_cases hid : id = q.parent
  · simp [hid]
  · have hne : ¬ q.parent = id := fun heq => hid heq.symm
    simp [hid, hne]

/-- All links to a piece, from whatever hangs it, are one link from its parent. -/
theorem filter_edges (h : o.Sound) (hq : q ∈ o.pieces) (conv : ConversationId) :
    ((startId :: o.pieces.map Piece.id).flatMap fun id =>
        (Piece.children o.pieces id).map fun child =>
          (⟨⟨conv, id⟩, ⟨conv, child⟩⟩ : Link)).filter (·.destination = ⟨conv, q.id⟩) =
      [⟨⟨conv, q.parent⟩, ⟨conv, q.id⟩⟩] := by
  have heach : ∀ id, ((Piece.children o.pieces id).map fun child =>
      (⟨⟨conv, id⟩, ⟨conv, child⟩⟩ : Link)).filter (·.destination = ⟨conv, q.id⟩) =
        if id = q.parent then [⟨⟨conv, id⟩, ⟨conv, q.id⟩⟩] else [] := by
    intro id
    have hchild : (fun l : Link => decide (l.destination = ⟨conv, q.id⟩)) ∘
        (fun child => (⟨⟨conv, id⟩, ⟨conv, child⟩⟩ : Link)) =
          fun child => decide (child = q.id) := by
      funext child
      simp
    rw [List.filter_map, hchild, h.filter_children hq]
    split
    · rfl
    · rfl
  have hnodup : ((startId :: o.pieces.map Piece.id).map id).Nodup := by
    rw [List.map_id]
    exact h.nodup
  simp only [List.filter_flatMap, heach]
  exact flatMap_ite_of_nodup hnodup (h.parent_mem hq) _

end Outline.Sound

/-! ## The tree of a conversation -/

section conversation

variable {N : Naming} {nodes : Forest} {o : Outline} {sequence : String} {e : Entry}

/-- Without an entry's own links, those to what hangs from it are left. -/
theorem Naming.treeLinks_of_mem (h : nodes.Grown) (ho : nodes.outline? = some o)
    (he : e ∈ (N.conversation sequence o).entries) :
    nodes.treeLinks (N.conversation sequence o) e =
      (Piece.children o.pieces e.id).map fun child =>
        ⟨⟨N.idOf o.title, e.id⟩, ⟨N.idOf o.title, child⟩⟩ := by
  rw [Forest.treeLinks, Naming.links_of_mem h ho he, List.drop_left]

/-- The links that are left make a tree. -/
theorem Naming.treeBy_conversation (h : nodes.Grown) (ho : nodes.outline? = some o) :
    (N.conversation sequence o).TreeBy (nodes.treeLinks (N.conversation sequence o)) where
  sublist e _ := List.drop_sublist _ _
  ids := by
    rw [Naming.ids_conversation]
    exact (h.sound ho).nodup
  root := rfl
  edge e he l hl := by
    rw [Naming.treeLinks_of_mem h ho he] at hl
    obtain ⟨child, hchild, rfl⟩ := List.mem_map.1 hl
    obtain ⟨p, hp, rfl⟩ := List.mem_map.1 hchild
    exact ⟨_, List.mem_map_of_mem (List.mem_filter.1 hp).1, rfl⟩
  parent before e after hsplit hbefore := by
    have hsound := h.sound ho
    have hids : before.map (·.id) ++ e.id :: after.map (·.id) =
        startId :: o.pieces.map Piece.id := by
      rw [← Naming.ids_conversation (N := N) sequence, hsplit, List.map_append, List.map_cons]
    have hpiece : ∃ q ∈ o.pieces, q.id = e.id := by
      obtain ⟨first, rest, rfl⟩ := List.exists_cons_of_ne_nil hbefore
      have htail := congrArg List.tail hids
      rw [List.map_cons, List.cons_append, List.tail_cons, List.tail_cons] at htail
      have hmem : e.id ∈ o.pieces.map Piece.id := by simp [← htail]
      exact List.mem_map.1 hmem
    obtain ⟨q, hq, hqid⟩ := hpiece
    have hlt := hsound.parent_lt hq
    rw [hqid] at hlt
    have hsorted := hsound.pairwise_ids
    have hparent := hsound.parent_mem hq
    rw [← hids, List.pairwise_append, List.pairwise_cons] at hsorted
    rw [← hids, List.mem_append, List.mem_cons] at hparent
    -- ids increase, so an id that is smaller than that of the entry stands before it
    have hbefore : q.parent ∈ before.map (·.id) := by
      rcases hparent with hin | heq | hlater
      · exact hin
      · exact absurd heq (Nat.ne_of_lt hlt)
      · exact absurd hlt (Nat.lt_asymm (hsorted.2.1.1 _ hlater))
    obtain ⟨p, hp, hpid⟩ := List.mem_map.1 hbefore
    refine ⟨p, hp, ?_⟩
    have hall : (N.conversation sequence o).entries.flatMap
        (nodes.treeLinks (N.conversation sequence o)) =
          (startId :: o.pieces.map Piece.id).flatMap fun id =>
            (Piece.children o.pieces id).map fun child =>
              ⟨⟨N.idOf o.title, id⟩, ⟨N.idOf o.title, child⟩⟩ := by
      rw [List.flatMap_congr fun e he => Naming.treeLinks_of_mem h ho he,
        ← Naming.ids_conversation (N := N) sequence, List.flatMap_map]
    have hid : (N.conversation sequence o).id = N.idOf o.title := rfl
    rw [hall, hid, hpid, ← hqid]
    exact hsound.filter_edges hq _

end conversation

/-- Assembling the forest of a script never fails and misses no parent. The conversation has `START`
and one entry for each node that is no header line, in order. All its entries can be reached from
`START` by links inside it, and without the links by number and by title, which come first in every
entry, its links make a tree with `START` at the root. -/
theorem assemble_treeBy {source : String} {nodes : Forest}
    (h : (Script.parse source).forest = .ok nodes) (options : ImportOptions) (db : Database)
    (pending : List PendingLink) :
    ∃ done c, assemble nodes options db pending = .ok done ∧
      (∀ d ∈ done.diagnostics, ∀ entry parent, d.cause ≠ .missingParent entry parent) ∧
      nodes.title? = some c.title ∧
      done.db.conversations = db.conversations.filter (·.title ≠ c.title) ++ [c] ∧
      c.entries.map (·.id) = startId :: (nodes.filter (!·.kind.isHeader)).map (·.id) ∧
      (∀ e ∈ c.entries, Relation.ReflTransGen (c.Leads Entry.links) startId e.id) ∧
      (∀ e ∈ c.entries, nodes.ownLinks c e.id <+: e.links) ∧
      c.TreeBy (nodes.treeLinks c) := by
  have hgrown := Forest.Grown.of_parse h
  obtain ⟨o, ho⟩ := hgrown.exists_outline?
  obtain ⟨N, hid, hplayer, hnames⟩ := db.exists_naming options.playerName o
  have htree : (N.conversation options.startSequence o).TreeBy
      (nodes.treeLinks (N.conversation options.startSequence o)) :=
    Naming.treeBy_conversation hgrown ho
  refine ⟨_, N.conversation options.startSequence o,
    assemble_eq hgrown ho options db pending hid hplayer hnames, ?_, ?_, ?_, ?_, ?_, ?_, htree⟩
  · intro d hd entry parent
    obtain ⟨p, -, rfl⟩ := List.mem_map.1 hd
    exact nofun
  · rw [nodes.title?_eq, ho]
    rfl
  · exact Database.conversations_install _ _ _ _
  · rw [Naming.ids_conversation, ← Forest.map_entryIds ho]
  · intro e he
    refine Relation.ReflTransGen.mono ?_ _ _ (htree.reached he)
    exact fun a b hab => hab.mono fun e he => (htree.sublist e he).subset
  · intro e he
    rw [Naming.links_of_mem hgrown ho he]
    exact List.prefix_append _ _

/-- A script with a link by number to the line that hangs from it, and a link by title back to that
line. -/
def loopingScript : String :=
  "title: Hall\nnpc: Bob\n<<link 3>>\nHello. ->\n\t<<title Inside>>\n\tBob: Come in." ++
    "\n\t<<link Inside>>\n\tI stay. ->"

/-- A conversation with two links to one of its entries, of which one is dropped. -/
theorem assemble_treeBy_loopingScript :
    ∃ nodes done, ∃ c : Conversation, (Script.parse loopingScript).forest = .ok nodes ∧
      assemble nodes .standard .empty [] = .ok done ∧ done.db.conversations = [c] ∧
      c.TreeBy (nodes.treeLinks c) := by
  obtain ⟨nodes, hnodes⟩ : ∃ nodes, (Script.parse loopingScript).forest = .ok nodes := by
    have hsome : (Script.parse loopingScript).forest.toOption.isSome = true := by decide +kernel
    rcases h : (Script.parse loopingScript).forest with e | nodes
    · rw [h] at hsome
      cases hsome
    · exact ⟨nodes, rfl⟩
  obtain ⟨done, c, hdone, -, -, hc, -, -, -, htree⟩ := assemble_treeBy hnodes .standard .empty []
  exact ⟨nodes, done, c, hnodes, hdone, hc, htree⟩

end Dialogue
