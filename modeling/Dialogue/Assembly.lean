import Dialogue.Database.Basic
import Dialogue.Script.Forest

/-!
# Assembling a conversation

`assemble` turns a forest into a conversation and puts it into the database. A conversation that is
stored under the same title gives up its place and its id to the new one; nothing of it is kept, and
links that wait to start from it are dropped with a warning.

* The conversation begins with the entry `START`, spoken by the player. Each node that is no header
  adds an entry with the node's id. A spoken line belongs to the actor it names and is said to the
  player; everything else belongs to the player and is said to the actor of the last `npc:` line.
* An entry is linked from the entry of its parent, or from `START`. Its own links follow: first
  those by number, then those by title. A title that an entry before it carries is linked at once;
  any other waits in the queue for the end of the batch.
-/

namespace Dialogue

open Script

/-- What the user decides about an import. -/
structure ImportOptions where
  /-- The extension of script files in directories. -/
  extension : String
  /-- The name of the player, when the database has none. -/
  playerName : String
  /-- The sequence of every `START` entry. -/
  startSequence : String
  deriving DecidableEq

/-- The options of a user who decides nothing. -/
def ImportOptions.standard : ImportOptions := ⟨"dstext", "Player", "None()"⟩

/-- The title of a bare sequence that is given none. -/
def sequenceTitle : String := "Sequence"

/-- A link by title that waits for the end of the batch. -/
structure PendingLink where
  title : String
  origin : EntryRef
  deriving DecidableEq

/-- The warning that a waiting link has lost the entry it starts from. -/
def PendingLink.stale (p : PendingLink) : Diagnostic :=
  .ofCause (.staleLinkOrigin p.title p.origin)

/-- What is to be said about a conversation that was assembled. -/
structure Assembly where
  conversation : ConversationId
  title : String
  /-- Whether a conversation of this title was there before. -/
  replaced : Bool
  /-- How many entries it has, `START` included. -/
  entries : Nat
  deriving DecidableEq

/-- A conversation under construction, with the database that its actors are taken from, the queue
of waiting links, and what was remarked. -/
structure Draft where
  db : Database
  conversation : Conversation
  pending : List PendingLink
  diagnostics : List Diagnostic
  deriving DecidableEq

/-- The entry with what its directives say about it. -/
def Entry.withFields (e : Entry) (f : Fields) : Entry :=
  { e with
    title := f.title.getD e.title
    script := f.script.getD e.script
    condition := f.condition.getD e.condition
    sequence := f.sequence.getD e.sequence }

namespace Draft

/-- The entry of a node, without its links. Only a spoken line can add an actor. -/
def entryFor (d : Draft) (player : ActorId) (id : EntryId) (fields : Fields) :
    Content → Entry × Database
  | .speak actor text =>
    let (actorId, db) := d.db.actorId actor false
    ({ Entry.blank id d.conversation.id actorId with
        conversant := some player
        text }.withFields fields, db)
  | .reply text =>
    ({ Entry.blank id d.conversation.id player with
        conversant := d.conversation.conversant
        text }.withFields fields, d.db)
  | .group title =>
    let e := { Entry.blank id d.conversation.id player with
      conversant := d.conversation.conversant
      isGroup := true }.withFields fields
    ({ e with title := (nonBlank title).getD e.title }, d.db)
  | .sequenceNode sequence =>
    let e := { Entry.blank id d.conversation.id player with
      conversant := d.conversation.conversant
      title := sequenceTitle }.withFields fields
    ({ e with sequence }, d.db)

/-- The entry that a node hangs from. -/
def parentId (nodes : Forest) (parent : Option Nat) : EntryId :=
  ((parent.bind (nodes[·]?)).map (·.id)).getD startId

/-- The draft with a link from the parent to the entry of a node. -/
def linkParent (d : Draft) (nodes : Forest) (node : Node) : Draft :=
  let parent := parentId nodes node.parent
  if (d.conversation.entryById? parent).isSome then
    { d with
      conversation :=
        d.conversation.updateEntry parent (·.linkTo ⟨d.conversation.id, node.id⟩) }
  else
    { d with
      diagnostics := d.diagnostics ++ [.atLine node.line (.missingParent node.id parent)] }

/-- The entry with its links by number, in the conversation with this id. -/
def linkByNumber (conversation : ConversationId) (e : Entry) (links : List NumericLink) : Entry :=
  links.foldl (fun e l => e.linkTo ⟨l.conversation.getD conversation, l.entry⟩) e

/-- The entry with its link by title, if the conversation so far has such an entry, and else the
queue with the link in it. -/
def linkByTitle (c : Conversation) (state : Entry × List PendingLink) (title : String) :
    Entry × List PendingLink :=
  let (e, pending) := state
  match c.entryTitled? title with
  | some target => (e.linkTo ⟨c.id, target.id⟩, pending)
  | none => (e, pending ++ [⟨title, ⟨c.id, e.id⟩⟩])

/-- The draft with one more node. -/
def addNode (nodes : Forest) (player : ActorId) (d : Draft) (node : Node) : Draft :=
  match node.kind with
  | .title _ => d
  | .conversant name =>
    let (actor, db) := d.db.actorId name false
    { d with
      db
      conversation :=
        { d.conversation.updateEntry startId ({ · with conversant := some actor }) with
          conversant := some actor } }
  | .entry content fields =>
    let (e, db) := d.entryFor player node.id fields content
    let d := { d with db }.linkParent nodes node
    let e := linkByNumber d.conversation.id e fields.links
    let (e, pending) := fields.titleLinks.foldl (linkByTitle d.conversation) (e, d.pending)
    { d with
      conversation := { d.conversation with entries := d.conversation.entries ++ [e] }
      pending }

end Draft

/-- The `START` entry of a conversation. -/
def startEntry (conversation : ConversationId) (player : ActorId) (sequence : String) : Entry :=
  { Entry.blank startId conversation player with title := startTitle, sequence }

/-- What assembling a forest gives: the database with the conversation in it, the queue, and the
diagnostics raised. -/
structure Assembled where
  assembly : Assembly
  db : Database
  pending : List PendingLink
  diagnostics : List Diagnostic

/-- The draft of a conversation with this title, before any node is added. The database is the one
without the conversations that it replaces. -/
def Draft.start (title : String) (options : ImportOptions) (db : Database)
    (pending : List PendingLink) : ActorId × Draft :=
  let id := ((db.conversationTitled? title).map (·.id)).getD db.nextConversationId
  let replaced := (db.conversationTitled? title).isSome
  let isStale (p : PendingLink) : Bool := replaced && p.origin.conversation = id
  let (player, registry) := (db.removeTitled title).playerId options.playerName
  (player,
    { db := registry
      conversation :=
        { Conversation.blank id title with
          entries := [startEntry id player options.startSequence] }
      pending := pending.filter (!isStale ·)
      diagnostics := (pending.filter isStale).map PendingLink.stale })

/-- Assembles the conversation of a forest, whose first node must be its title. -/
def assemble (nodes : Forest) (options : ImportOptions) (db : Database)
    (pending : List PendingLink) : Except StructureError Assembled :=
  match nodes with
  | ⟨_, _, _, _, .title title⟩ :: rest =>
    let (player, start) := Draft.start title options db pending
    let d := rest.foldl (Draft.addNode nodes player) start
    .ok
      { assembly :=
          { conversation := d.conversation.id
            title
            replaced := (db.conversationTitled? title).isSome
            entries := d.conversation.entries.length }
        db := d.db.addConversation d.conversation
        pending := d.pending
        diagnostics := d.diagnostics }
  | _ => .error .missingTitle

end Dialogue
