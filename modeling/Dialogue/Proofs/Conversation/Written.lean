import Dialogue.Proofs.Conversation.Outline

/-!
# The conversation that an outline stands for

`Naming.conversation` writes down at once what an import builds up node by node. It takes from
outside the outline only which id goes with the title, which ids go with the names, and which one
is the player's. `Naming.queue` are the links by title that the conversation leaves waiting.

A further piece changes what is written in one way only: the entry that it hangs from gets one more
link (`children_append`). What the pieces before it know and leave waiting stays as it is
(`known_append`, `waiting_append`), since a link by title looks back and never ahead.
-/

namespace Dialogue

open Script

/-- The ids that titles and names go by, and the player's. -/
structure Naming where
  idOf : String → ConversationId
  actorOf : String → ActorId
  player : ActorId

/-- The entry with links to all these places, from itself. -/
def Entry.linkToAll (e : Entry) (destinations : List EntryRef) : Entry :=
  { e with links := e.links ++ destinations.map (⟨⟨e.conversation, e.id⟩, ·⟩) }

namespace Piece

/-- Whose entry it is: the speaker's, or else the player's. -/
def actor (N : Naming) (p : Piece) : ActorId :=
  match p.content with
  | .speak actor _ => N.actorOf actor
  | .reply _ | .group _ | .sequenceNode _ => N.player

/-- To whom it is said: a spoken line to the player, all else to whom the `npc:` line names. -/
def listener (N : Naming) (p : Piece) : Option ActorId :=
  match p.content with
  | .speak _ _ => some N.player
  | .reply _ | .group _ | .sequenceNode _ => p.conversant.map N.actorOf

/-- Where the links lead that are there before the batch ends: those by number, those by title that
name an entry before this one, and those to what hangs from it. -/
def destinations (conversation : ConversationId) (pieces : List Piece) (p : Piece) :
    List EntryRef :=
  p.fields.links.map (fun l => ⟨l.conversation.getD conversation, l.entry⟩) ++
    (known pieces p).map (⟨conversation, ·⟩) ++ (children pieces p.id).map (⟨conversation, ·⟩)

end Piece

/-- The links that wait, by the id of the entry that they start from and the title that they
name. -/
def Outline.waits (o : Outline) : List (EntryId × String) :=
  o.pieces.flatMap fun p => (p.waiting o.pieces).map (p.id, ·)

namespace Naming

variable (N : Naming)

/-- The entry of a piece, without its links. -/
def bare (conversation : ConversationId) (p : Piece) : Entry :=
  { id := p.id
    conversation
    title := p.title
    actor := p.actor N
    conversant := p.listener N
    text := p.text
    script := p.fields.script.getD ""
    condition := p.fields.condition.getD ""
    sequence := p.sequence
    isGroup := p.isGroup
    links := [] }

/-- The entry of a piece, before the batch ends. -/
def entry (conversation : ConversationId) (pieces : List Piece) (p : Piece) : Entry :=
  (N.bare conversation p).linkToAll (p.destinations conversation pieces)

/-- The entry `START`. -/
def start (conversation : ConversationId) (sequence : String) (o : Outline) : Entry :=
  { startEntry conversation N.player sequence with
    conversant := o.conversant.map N.actorOf }.linkToAll
      ((Piece.children o.pieces startId).map (⟨conversation, ·⟩))

/-- The conversation of an outline, before the batch ends. -/
def conversation (sequence : String) (o : Outline) : Conversation :=
  { id := N.idOf o.title
    title := o.title
    conversant := o.conversant.map N.actorOf
    entries := N.start (N.idOf o.title) sequence o ::
      o.pieces.map (N.entry (N.idOf o.title) o.pieces) }

/-- The links by title that the conversation of an outline leaves waiting. -/
def queue (o : Outline) : List PendingLink :=
  o.waits.map fun (entry, title) => ⟨title, ⟨N.idOf o.title, entry⟩⟩

end Naming

/-! ## Links, one after another -/

theorem Entry.linkTo_eq (e : Entry) (d : EntryRef) : e.linkTo d = e.linkToAll [d] := rfl

@[simp] theorem Entry.linkToAll_nil (e : Entry) : e.linkToAll [] = e := by
  unfold Entry.linkToAll
  rw [List.map_nil, List.append_nil]

@[simp] theorem Entry.linkToAll_linkToAll (e : Entry) (ds ds' : List EntryRef) :
    (e.linkToAll ds).linkToAll ds' = e.linkToAll (ds ++ ds') := by
  unfold Entry.linkToAll
  rw [List.map_append, List.append_assoc]

/-! ## One more piece -/

namespace Piece

variable {pieces : List Piece} {new p : Piece}

/-- Nothing after a piece is before it. -/
theorem before_append (h : p.id ≤ new.id) : before (pieces ++ [new]) p = before pieces p := by
  unfold before
  rw [List.filter_append, List.filter_cons_of_neg (by simpa using h), List.filter_nil,
    List.append_nil]

/-- All pieces are before one that comes last. -/
theorem before_last (h : ∀ q ∈ pieces, q.id < new.id) : before (pieces ++ [new]) new = pieces := by
  rw [before_append (Nat.le_refl _), before, List.filter_eq_self]
  intro q hq
  simpa using h q hq

theorem known_append (h : p.id ≤ new.id) : known (pieces ++ [new]) p = known pieces p := by
  unfold known
  rw [before_append h]

theorem waiting_append (h : p.id ≤ new.id) : waiting (pieces ++ [new]) p = waiting pieces p := by
  unfold waiting
  rw [before_append h]

/-- The piece that joins is a child of the entry that it hangs from, after the others. -/
theorem children_append (pieces : List Piece) (new : Piece) (id : EntryId) :
    children (pieces ++ [new]) id =
      children pieces id ++ if new.parent = id then [new.id] else [] := by
  unfold children
  rw [List.filter_append, List.map_append]
  by_cases h : new.parent = id <;> simp [h]

/-- Nothing hangs from the piece that joins last. -/
theorem children_last (h : ∀ q ∈ pieces, q.parent < q.id) {id : EntryId}
    (hid : ∀ q ∈ pieces, q.id ≤ id) : children pieces id = [] := by
  unfold children
  rw [List.map_eq_nil_iff, List.filter_eq_nil_iff]
  intro q hq
  simpa using Nat.ne_of_lt (Nat.lt_of_lt_of_le (h q hq) (hid q hq))

end Piece

variable {N : Naming} {o : Outline}

/-- The entry of a piece, when one more joins: unless that hangs from it, nothing changes. -/
theorem Naming.entry_append {conversation : ConversationId} {pieces : List Piece} {new p : Piece}
    (h : p.id ≤ new.id) :
    N.entry conversation (pieces ++ [new]) p =
      if p.id = new.parent then
        (N.entry conversation pieces p).linkTo ⟨conversation, new.id⟩
      else N.entry conversation pieces p := by
  unfold Naming.entry Piece.destinations
  rw [Piece.known_append h, Piece.children_append]
  by_cases hp : new.parent = p.id
  · rw [if_pos hp, if_pos hp.symm, Entry.linkTo_eq, Entry.linkToAll_linkToAll, List.map_append,
      ← List.append_assoc]
    rfl
  · rw [if_neg hp, if_neg (Ne.symm hp), List.append_nil]

/-- The entry of the piece that joins last, which has nothing hanging from it yet. -/
theorem Naming.entry_last {conversation : ConversationId} {new : Piece} {names : List String}
    (h : Outline.Sound { o with names, pieces := o.pieces ++ [new] }) :
    N.entry conversation (o.pieces ++ [new]) new =
      (N.bare conversation new).linkToAll
        (new.fields.links.map (fun l => ⟨l.conversation.getD conversation, l.entry⟩) ++
          (new.known (o.pieces ++ [new])).map (⟨conversation, ·⟩)) := by
  have hchildren : Piece.children (o.pieces ++ [new]) new.id = [] := by
    refine Piece.children_last (fun q hq => h.parent_lt hq) ?_
    intro q hq
    rcases List.mem_append.1 hq with hq | hq
    · exact Nat.le_of_lt ((h.last rfl).1 q hq)
    · exact Nat.le_of_eq (congrArg Piece.id (List.mem_singleton.1 hq))
  unfold Naming.entry Piece.destinations
  rw [hchildren, List.map_nil, List.append_nil]

/-- The entry `START`, when one more piece joins: unless that hangs from it, nothing changes. -/
theorem Naming.start_append (conversation : ConversationId) (sequence : String) (new : Piece)
    (names : List String) :
    N.start conversation sequence { o with names, pieces := o.pieces ++ [new] } =
      if startId = new.parent then
        (N.start conversation sequence o).linkTo ⟨conversation, new.id⟩
      else N.start conversation sequence o := by
  unfold Naming.start
  simp only [Piece.children_append]
  by_cases hp : new.parent = startId
  · rw [if_pos hp, if_pos hp.symm, Entry.linkTo_eq, Entry.linkToAll_linkToAll, List.map_append]
    rfl
  · rw [if_neg hp, if_neg (Ne.symm hp), List.append_nil]

/-- What waits, when one more piece joins: what waited before, and what the new one leaves. -/
theorem Outline.waits_append {new : Piece} (h : ∀ q ∈ o.pieces, q.id < new.id)
    (names : List String) :
    Outline.waits { o with names, pieces := o.pieces ++ [new] } =
      o.waits ++ (new.waiting (o.pieces ++ [new])).map (new.id, ·) := by
  have hsame : ∀ p ∈ o.pieces, (p.waiting (o.pieces ++ [new])).map (p.id, ·) =
      (p.waiting o.pieces).map (p.id, ·) := by
    intro p hp
    rw [Piece.waiting_append (Nat.le_of_lt (h p hp))]
  unfold Outline.waits
  rw [List.flatMap_append, List.flatMap_singleton, List.flatMap_congr hsame]

/-- The queue, when one more piece joins. -/
theorem Naming.queue_append {new : Piece} (h : ∀ q ∈ o.pieces, q.id < new.id)
    (names : List String) :
    N.queue { o with names, pieces := o.pieces ++ [new] } =
      N.queue o ++ (new.waiting (o.pieces ++ [new])).map (⟨·, ⟨N.idOf o.title, new.id⟩⟩) := by
  unfold Naming.queue
  rw [Outline.waits_append h, List.map_append, List.map_map]
  rfl

/-! ## Look-ups -/

/-- The entries have the ids of `START` and of the pieces. -/
theorem Naming.ids_conversation (sequence : String) :
    (N.conversation sequence o).entries.map Entry.id = startId :: o.pieces.map Piece.id := by
  simp [Naming.conversation, Naming.start, startEntry, Entry.blank, Naming.entry, Naming.bare,
    Entry.linkToAll, Function.comp_def]

/-- What is written for `START` and for pieces has their ids and titles, whatever it links to. -/
theorem Naming.titles_written (id : ConversationId) (sequence : String)
    (pieces pieces' : List Piece) :
    (N.start id sequence o :: pieces.map (N.entry id pieces')).map (fun e => (e.id, e.title)) =
      (startId, startTitle) :: pieces.map fun p => (p.id, p.title) := by
  simp [Naming.start, startEntry, Entry.blank, Naming.entry, Naming.bare, Entry.linkToAll,
    Function.comp_def]

/-- The first entry with a title, by the titles of the pieces alone. -/
theorem Piece.entryTitled?_eq_titledAmong {c : Conversation} {pieces : List Piece}
    (h : c.entries.map (fun e => (e.id, e.title)) =
      (startId, startTitle) :: pieces.map fun p => (p.id, p.title)) (title : String) :
    (c.entryTitled? title).map Entry.id = titledAmong pieces title := by
  unfold Conversation.entryTitled? titledAmong
  split
  · rfl
  · rw [← h, List.find?_map, Option.map_map]
    rfl

end Dialogue
