import Dialogue.Proofs.Conversation.Written
import Dialogue.Proofs.Database.Keys

/-!
# The links of a conversation, by its forest

What an entry links to while its conversation is assembled can be read off the forest: the links of
its own node (`Script.Forest.ownLinks`), those by number and those by title that name an entry
before it, and then one link to every node that hangs from it (`Naming.links_of_mem`).

Outlines speak of pieces and of ids. So it is shown first that the nodes that hang from a node are
the children of its piece (`Script.Forest.Grown.childrenOf_eq`), and that a title which the entries
before a node have is one that its piece knows (`Outline.Sound.earlierTitled?_eq`).
-/

namespace Dialogue

open Script

/-! ## What a forest asks for -/

namespace Script.Forest

/-- The node that this one hangs from, if any. -/
def parentOf? (nodes : Forest) (n : Node) : Option Node :=
  n.parent.bind (nodes[·]?)

/-- The ids of the entry nodes that hang from this node, or from nothing. -/
def childrenOf (nodes : Forest) (parent : Option Node) : List EntryId :=
  (nodes.filter fun n => !n.kind.isHeader && nodes.parentOf? n = parent).map (·.id)

end Script.Forest

/-- The titles that the links by title of a node name. -/
def Script.Node.titleLinks (n : Node) : List String :=
  match n.kind with
  | .entry _ fields => fields.titleLinks
  | .title _ | .conversant _ => []

/-- The first entry with this title among the entries before the one with this id. -/
def Conversation.earlierTitled? (c : Conversation) (id : EntryId) (title : String) : Option Entry :=
  { c with entries := c.entries.takeWhile (·.id ≠ id) }.entryTitled? title

/-- Where the own links of a node lead in this conversation: those by number, and those by title to
an entry before it. -/
def Script.Node.ownDestinations (n : Node) (c : Conversation) : List EntryRef :=
  match n.kind with
  | .entry _ fields =>
    fields.links.map (fun l => ⟨l.conversation.getD c.id, l.entry⟩) ++
      fields.titleLinks.filterMap
        (fun title => (c.earlierTitled? n.id title).map fun e => ⟨c.id, e.id⟩)
  | .title _ | .conversant _ => []

/-- The own links of the node with this id, in this conversation. -/
def Script.Forest.ownLinks (nodes : Forest) (c : Conversation) (id : EntryId) : List Link :=
  ((nodes.filter (·.id = id)).flatMap (·.ownDestinations c)).map (⟨⟨c.id, id⟩, ·⟩)

/-! ## Forest and outline -/

namespace Script.Forest

variable {nodes : Forest} {o : Outline}

/-- What hangs from a node, or from nothing, is said by ids alone. -/
theorem Grown.parentOf?_eq_iff (h : nodes.Grown) {n : Node} (hn : n ∈ nodes) {parent : Option Node}
    (hparent : ∀ m, parent = some m → m ∈ nodes ∧ m.kind.isHeader = false) :
    nodes.parentOf? n = parent ↔ n.parent.getD startId = (parent.map (·.id)).getD startId := by
  unfold parentOf?
  rcases hp : n.parent with _ | i
  · rcases parent with _ | m
    · simp
    · obtain ⟨hm, hentry⟩ := hparent m rfl
      have hne : startId ≠ m.id := Nat.ne_of_lt (h.start_lt hm hentry)
      simpa using hne
  · obtain ⟨-, m', hm', hentry'⟩ := h.parent_isEntry hn hp
    have hid := h.id_eq hm'
    have hne : i ≠ startId := by
      rw [← hid]
      exact Nat.ne_of_gt (h.start_lt (List.mem_of_getElem? hm') hentry')
    rw [Option.bind_some, hm', Option.getD_some]
    rcases parent with _ | m
    · simpa using hne
    · obtain ⟨hm, -⟩ := hparent m rfl
      rw [Option.some.injEq, Option.map_some, Option.getD_some]
      constructor
      · intro heq
        rw [← hid, heq]
      · intro heq
        have hfound := h.getElem?_id hm
        rw [← heq, hm'] at hfound
        exact Option.some.inj hfound

/-- The children of a node are those of its piece. -/
theorem Grown.childrenOf_eq (h : nodes.Grown) (ho : nodes.outline? = some o) {parent : Option Node}
    (hparent : ∀ m, parent = some m → m ∈ nodes ∧ m.kind.isHeader = false) :
    nodes.childrenOf parent = Piece.children o.pieces ((parent.map (·.id)).getD startId) := by
  obtain ⟨id, hid⟩ : ∃ id, id = (parent.map (·.id)).getD startId := ⟨_, rfl⟩
  have hpieces : Piece.children o.pieces id =
      ((nodes.filterMap Node.entry?).filter (·.2.1 = id)).map Prod.fst := by
    rw [← map_pieces ho, List.filter_map, List.map_map]
    rfl
  have hnodes : ∀ n ∈ nodes, (!n.kind.isHeader && decide (nodes.parentOf? n = parent)) =
      (!n.kind.isHeader && decide (n.parent.getD startId = id)) := by
    intro n hn
    rw [decide_eq_decide.2 (h.parentOf?_eq_iff hn hparent), hid]
  rw [← hid, hpieces, childrenOf, List.filter_congr hnodes, List.filter_filterMap,
    List.map_filterMap, ← List.filterMap_eq_map, List.filterMap_filter]
  refine List.filterMap_congr fun n _ => ?_
  unfold Node.entry?
  rcases n.kind with title | name | ⟨content, fields⟩
  · rfl
  · rfl
  · by_cases hn : n.parent.getD startId = id <;> simp [NodeKind.isHeader, hn, Option.filter]

end Script.Forest

namespace Outline.Sound

variable {o : Outline} {p : Piece}

/-- The pieces before a piece are those up to it. -/
theorem before_eq (h : o.Sound) (hp : p ∈ o.pieces) :
    p.before o.pieces = o.pieces.takeWhile (·.id ≠ p.id) := by
  obtain ⟨first, rest, hsplit⟩ := List.append_of_mem hp
  have hinc := h.increasing
  rw [hsplit, List.pairwise_append, List.pairwise_cons] at hinc
  have hfirst : ∀ q ∈ first, q.id < p.id := fun q hq =>
    hinc.2.2 q hq p List.mem_cons_self
  have hrest : ∀ q ∈ rest, ¬ q.id < p.id := fun q hq =>
    Nat.not_lt_of_gt (hinc.2.1.1 q hq)
  have hfilter : rest.filter (·.id < p.id) = [] := by
    rw [List.filter_eq_nil_iff]
    intro q hq
    simpa using hrest q hq
  have hfirst' : first.filter (·.id < p.id) = first := by
    rw [List.filter_eq_self]
    intro q hq
    simpa using hfirst q hq
  have hbefore : ∀ q ∈ first, decide (q.id ≠ p.id) = true := by
    intro q hq
    simpa using Nat.ne_of_lt (hfirst q hq)
  rw [Piece.before, hsplit, List.filter_append, List.filter_cons_of_neg (by simp), hfilter, hfirst',
    List.takeWhile_append_of_pos hbefore, List.takeWhile_cons_of_neg (by simp)]

/-- An earlier title is found by the titles of the pieces before. -/
theorem earlierTitled?_eq (h : o.Sound) (hp : p ∈ o.pieces) {c : Conversation}
    (hc : c.entries.map (fun e => (e.id, e.title)) =
      (startId, startTitle) :: o.pieces.map fun p => (p.id, p.title)) (title : String) :
    (c.earlierTitled? p.id title).map (·.id) =
      Piece.titledAmong (p.before o.pieces) title := by
  refine Piece.entryTitled?_eq_titledAmong ?_ title
  have hstart : startId ≠ p.id := Nat.ne_of_lt (h.pos p hp)
  have hmap := congrArg (List.takeWhile (·.1 ≠ p.id)) hc
  rw [List.takeWhile_map, List.takeWhile_cons_of_pos (by simpa using hstart),
    List.takeWhile_map] at hmap
  rw [h.before_eq hp]
  exact hmap

/-- The links by title to an entry before are the known ones of the piece. -/
theorem known_eq (h : o.Sound) (hp : p ∈ o.pieces) {c : Conversation}
    (hc : c.entries.map (fun e => (e.id, e.title)) =
      (startId, startTitle) :: o.pieces.map fun p => (p.id, p.title)) (conv : ConversationId) :
    p.fields.titleLinks.filterMap (fun title =>
        (c.earlierTitled? p.id title).map fun e => (⟨conv, e.id⟩ : EntryRef)) =
      (p.known o.pieces).map (⟨conv, ·⟩) := by
  rw [Piece.known, List.map_filterMap]
  refine List.filterMap_congr fun title _ => ?_
  rw [← h.earlierTitled?_eq hp hc, Option.map_map]
  rfl

/-- The other links by title are the waiting ones of the piece. -/
theorem waiting_eq (h : o.Sound) (hp : p ∈ o.pieces) {c : Conversation}
    (hc : c.entries.map (fun e => (e.id, e.title)) =
      (startId, startTitle) :: o.pieces.map fun p => (p.id, p.title)) :
    (p.fields.titleLinks.filter fun title => (c.earlierTitled? p.id title).isNone) =
      p.waiting o.pieces := by
  refine List.filter_congr fun title _ => ?_
  rw [← h.earlierTitled?_eq hp hc, Option.isNone_map]

end Outline.Sound

/-! ## A conversation that is written down -/

namespace Script.Forest.Grown

variable {nodes : Forest} {o : Outline}

/-- `START` has no links of its own. -/
theorem ownLinks_start (h : nodes.Grown) (c : Conversation) : nodes.ownLinks c startId = [] := by
  have hnone : (nodes.filter (·.id = startId)).flatMap (·.ownDestinations c) = [] := by
    rw [List.flatMap_eq_nil_iff]
    intro n hn
    obtain ⟨hn, hid⟩ := List.mem_filter.1 hn
    have hheader : n.kind.isHeader ≠ false := fun hentry =>
      Nat.ne_of_gt (h.start_lt hn hentry) (of_decide_eq_true hid)
    unfold Node.ownDestinations
    split
    · next hk => simp [hk, NodeKind.isHeader] at hheader
    · rfl
    · rfl
  rw [Forest.ownLinks, hnone, List.map_nil]

/-- The own links of a piece are those by number and those by title that it knows. -/
theorem ownLinks_piece (h : nodes.Grown) (ho : nodes.outline? = some o) {p : Piece}
    (hp : p ∈ o.pieces) {c : Conversation}
    (hc : c.entries.map (fun e => (e.id, e.title)) =
      (startId, startTitle) :: o.pieces.map fun p => (p.id, p.title)) :
    nodes.ownLinks c p.id =
      List.map (fun ref : EntryRef => ⟨⟨c.id, p.id⟩, ref⟩)
        (p.fields.links.map (fun l => ⟨l.conversation.getD c.id, l.entry⟩) ++
          (p.known o.pieces).map (⟨c.id, ·⟩)) := by
  obtain ⟨n, hn, hid, hk⟩ := Forest.exists_node_of_mem_pieces ho hp
  have hone : nodes.filter (·.id = p.id) = [n] := by
    rw [← hid]
    exact filter_of_nodup h.nodup_ids hn
  rw [Forest.ownLinks, hone, List.flatMap_singleton, Node.ownDestinations, hk, hid]
  simp only [(h.sound ho).known_eq hp hc]

end Script.Forest.Grown

/-- The links of an entry, when its conversation is assembled: its own, and then those to what hangs
from it. -/
theorem Naming.links_of_mem {N : Naming} {nodes : Forest} (h : nodes.Grown) {o : Outline}
    (ho : nodes.outline? = some o) {sequence : String} {e : Entry}
    (he : e ∈ (N.conversation sequence o).entries) :
    e.links = nodes.ownLinks (N.conversation sequence o) e.id ++
      (Piece.children o.pieces e.id).map fun child =>
        ⟨⟨N.idOf o.title, e.id⟩, ⟨N.idOf o.title, child⟩⟩ := by
  rcases List.mem_cons.1 he with rfl | he
  · have hid : (N.start (N.idOf o.title) sequence o).id = startId := rfl
    rw [hid, h.ownLinks_start, List.nil_append]
    simp only [Naming.start, Entry.linkToAll, startEntry, Entry.blank, List.nil_append,
      List.map_map]
    rfl
  · obtain ⟨p, hp, rfl⟩ := List.mem_map.1 he
    have hid : (N.entry (N.idOf o.title) o.pieces p).id = p.id := rfl
    rw [hid, h.ownLinks_piece ho hp (Naming.titles_written _ sequence o.pieces o.pieces)]
    simp only [Naming.entry, Piece.destinations, Entry.linkToAll, Naming.bare, List.nil_append,
      List.map_append, List.map_map]
    rfl

end Dialogue
