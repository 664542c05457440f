import Dialogue.Proofs.Batch.Finish
import Dialogue.Proofs.Conversation.Links

/-!
# The links of an imported conversation

The links of one entry are written at four moments: its numbers and the titles before it when it is
added, a child when that is added, and what waited at the end. `Database.linksOf` says where they
lead in terms of the forest and of the database at the end alone, and `Script.Forest.WrittenIn`
says that a conversation has these and no others. Every title that is imported has such a
conversation, once, for the forest of the last source of that title.
-/

namespace Dialogue

open Script

/-! ## What a forest asks for -/

/-- Where the links of the entry of a node lead, in this conversation of a database: those by
number, those by title to an entry before it, those to what hangs from it, and the other ones by
title to wherever the title leads. -/
def Database.linksOf (db : Database) (nodes : Forest) (c : Conversation) (n : Node)
    (fields : Fields) : List EntryRef :=
  fields.links.map (fun l => ⟨l.conversation.getD c.id, l.entry⟩) ++
    fields.titleLinks.filterMap
      (fun title => (c.earlierTitled? n.id title).map fun e => ⟨c.id, e.id⟩) ++
    (nodes.childrenOf (some n)).map (⟨c.id, ·⟩) ++
    (fields.titleLinks.filter fun title => (c.earlierTitled? n.id title).isNone).filterMap
      (db.target? c)

/-- The entry of a node, by its id and its links, in this conversation of a database. -/
def Database.writtenEntry? (db : Database) (nodes : Forest) (c : Conversation) (n : Node) :
    Option (EntryId × List Link) :=
  match n.kind with
  | .entry _ fields =>
    some (n.id, (db.linksOf nodes c n fields).map (⟨⟨c.id, n.id⟩, ·⟩))
  | .title _ | .conversant _ => none

/-- The conversation is the one that the forest asks for, as far as ids and links go, and its links
by title are those that lead somewhere in the database. -/
structure Script.Forest.WrittenIn (nodes : Forest) (db : Database) (c : Conversation) : Prop where
  start : c.entries.head?.map (fun e => (e.id, e.title)) = some (startId, startTitle)
  entries : c.entries.map (fun e => (e.id, e.links)) =
    (startId, (nodes.childrenOf none).map fun id => ⟨⟨c.id, startId⟩, ⟨c.id, id⟩⟩) ::
      nodes.filterMap (db.writtenEntry? nodes c)
  leftOut : ∀ n ∈ nodes, ∀ content fields, n.kind = .entry content fields →
    ∀ title ∈ fields.titleLinks,
      db.target? c title = none ↔ ∀ d ∈ db.conversations, ∀ e ∈ d.entries, e.title ≠ title

/-! ## A finished conversation -/

section finished

variable {N : Naming} {nodes : Forest} {o : Outline} {db : Database} {sequence : String}
  {target : String → Option EntryRef}

/-- Where the links of a finished entry lead is where those of its node do. -/
theorem linksOf_finished (h : nodes.Grown) (ho : nodes.outline? = some o)
    (htarget : ∀ title, db.target? (N.finished sequence target o) title = target title)
    {n : Node} (hn : n ∈ nodes) {p : Piece} (hp : p ∈ o.pieces) (hid : p.id = n.id)
    (hentry : n.kind.isHeader = false) :
    db.linksOf nodes (N.finished sequence target o) n p.fields =
      p.destinations (N.idOf o.title) o.pieces ++ (p.waiting o.pieces).filterMap target := by
  have hsound := h.sound ho
  have hconv : (N.finished sequence target o).id = N.idOf o.title := rfl
  have hchildren : nodes.childrenOf (some n) = Piece.children o.pieces p.id := by
    have hparent : ∀ m, some n = some m → m ∈ nodes ∧ m.kind.isHeader = false := by
      intro m hm
      rw [← Option.some.inj hm]
      exact ⟨hn, hentry⟩
    rw [h.childrenOf_eq ho hparent, hid]
    rfl
  unfold Database.linksOf Piece.destinations
  rw [hconv, hchildren, ← hid, hsound.known_eq hp (Naming.names_finished hsound),
    hsound.waiting_eq hp (Naming.names_finished hsound),
    List.filterMap_congr fun title _ => htarget title]

/-- The id and the links of the finished entry of a piece, of which it takes only the id, the
parent, the content and the fields. -/
def Naming.writtenPiece (N : Naming) (o : Outline) (target : String → Option EntryRef) :
    EntryId × EntryId × Content × Fields → EntryId × List Link
  | (id, parent, content, fields) =>
    (id, (N.finishedEntry (N.idOf o.title) o.pieces target
      ⟨id, parent, none, content, fields⟩).links)

/-- What the forest asks for a node is what is written for its piece. -/
theorem writtenEntry?_finished (h : nodes.Grown) (ho : nodes.outline? = some o)
    (htarget : ∀ title, db.target? (N.finished sequence target o) title = target title)
    {n : Node} (hn : n ∈ nodes) :
    db.writtenEntry? nodes (N.finished sequence target o) n =
      n.entry?.map (N.writtenPiece o target) := by
  unfold Database.writtenEntry? Node.entry?
  rcases hk : n.kind with title | name | ⟨content, fields⟩
  · rfl
  · rfl
  · obtain ⟨p, hp, hid, -, -, rfl⟩ := Forest.exists_piece_of_mem ho hn hk
    have hheader : n.kind.isHeader = false := by rw [hk]; rfl
    have hlinks := linksOf_finished h ho htarget hn hp hid hheader
    simp only [Option.map_some, Naming.writtenPiece, hlinks, Naming.links_finishedEntry, ← hid]
    rfl

/-- The entries of a finished conversation, by their ids and links, are those that its forest asks
for. -/
theorem entries_finished (h : nodes.Grown) (ho : nodes.outline? = some o)
    (htarget : ∀ title, db.target? (N.finished sequence target o) title = target title) :
    (N.finished sequence target o).entries.map (fun e => (e.id, e.links)) =
      (startId, (nodes.childrenOf none).map fun id =>
        ⟨⟨N.idOf o.title, startId⟩, ⟨N.idOf o.title, id⟩⟩) ::
        nodes.filterMap (db.writtenEntry? nodes (N.finished sequence target o)) := by
  have hroots : nodes.childrenOf none = Piece.children o.pieces startId :=
    h.childrenOf_eq ho fun m hm => by cases hm
  have hstart : (N.start (N.idOf o.title) sequence o).links =
      (Piece.children o.pieces startId).map fun id =>
        ⟨⟨N.idOf o.title, startId⟩, ⟨N.idOf o.title, id⟩⟩ := by
    simp only [Naming.start, Entry.linkToAll, startEntry, Entry.blank, List.nil_append,
      List.map_map]
    rfl
  have hpieces : o.pieces.map (fun p => (p.id,
      (N.finishedEntry (N.idOf o.title) o.pieces target p).links)) =
      nodes.filterMap (db.writtenEntry? nodes (N.finished sequence target o)) := by
    rw [List.filterMap_congr fun n hn => writtenEntry?_finished h ho htarget hn,
      ← List.map_filterMap, ← Forest.map_pieces ho, List.map_map]
    rfl
  rw [← hpieces, hroots, ← hstart]
  simp only [Naming.finished, List.map_cons, List.map_map]
  rfl

/-- A finished conversation is the one that its forest asks for. -/
theorem writtenIn_finished (h : nodes.Grown) (ho : nodes.outline? = some o)
    (hfilled : ∀ n ∈ nodes, n.kind.Filled)
    (hmem : N.finished sequence target o ∈ db.conversations)
    (htarget : ∀ title, db.target? (N.finished sequence target o) title = target title) :
    nodes.WrittenIn db (N.finished sequence target o) where
  start := rfl
  entries := entries_finished h ho htarget
  leftOut := by
    intro n hn content fields hk title ht
    refine Database.target?_eq_none_iff hmem ?_
    have hkind := hfilled n hn
    rw [hk] at hkind
    exact hkind title ht

end finished

/-! ## All imported conversations -/

/-- Every title that a batch imports is stored once at the end, with the entries and the links that
the forest of the last source of the title asks for in that database. The ids of conversations must
not run out. -/
theorem importSources_writtenIn {db : Database} (hdb : (db.conversations.map (·.id)).Nodup)
    {options : ImportOptions} {sources : List Source}
    (hlast : db.ConversationIdsLast (importSources db sources options).2) {title : String}
    (ht : title ∈ (importSources db sources options).1.imported.map (·.title)) :
    ∃ nodes c, lastTitled? sources title = some nodes ∧
      (importSources db sources options).2.conversations.filter (·.title = title) = [c] ∧
      nodes.WrittenIn (importSources db sources options).2 c := by
  have hran := Naming.Ran.naming hdb hlast
  have htitles : title ∈ (outlines sources).map Outline.title := by
    rw [← hran.imported]
    exact ht
  rw [← mem_titles_survivors] at htitles
  obtain ⟨o, ho, rfl⟩ := List.mem_map.1 htitles
  obtain ⟨nodes, hnodes, hout⟩ := exists_lastTitled?_of_survivor ho
  obtain ⟨-, -, -, -, s, -, hforest⟩ := exists_survivor_of_lastTitled? hnodes
  exact ⟨nodes, _, hnodes, hran.filter_titled ho,
    writtenIn_finished (Source.grown_of_forest? hforest) hout
      (filled_of_parse (Source.forest?_eq_some_iff.1 hforest)) (hran.mem_finish ho)
      (hran.target?_finish ho)⟩

/-- The first of two scripts, with a link to the second that waits for it. -/
theorem importSources_writtenIn_linkedScripts :
    ∃ nodes c, lastTitled? linkedScripts "Gate" = some nodes ∧
      (importSources .empty linkedScripts .standard).2.conversations.filter
        (·.title = "Gate") = [c] ∧
      nodes.WrittenIn (importSources .empty linkedScripts .standard).2 c :=
  importSources_writtenIn (by decide) (.of_ne_zero (by decide +kernel)) (by decide +kernel)

end Dialogue
