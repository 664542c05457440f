import Dialogue.Ids

/-!
# The dialogue database

Actors, and conversations made of entries that link to one another. A database is whatever its
lists hold: ids and titles may repeat and links may lead nowhere, and `Database.problems` says so.
Look-ups by id or by title therefore mean the **first** match in the order of the list, for
reading and for writing alike.

New ids follow the largest one in use, and a conversation enters at the end of the list.
-/

namespace Dialogue

/-- A participant in conversations. -/
structure Actor where
  id : ActorId
  name : String
  isPlayer : Bool
  deriving DecidableEq

/-- A directed edge between two entries, possibly of two conversations. -/
structure Link where
  origin : EntryRef
  destination : EntryRef
  deriving DecidableEq

/-- One entry of a conversation. -/
structure Entry where
  id : EntryId
  /-- The conversation that the entry says it is in. -/
  conversation : ConversationId
  title : String
  actor : ActorId
  conversant : Option ActorId
  text : String
  script : String
  condition : String
  sequence : String
  isGroup : Bool
  links : List Link
  deriving DecidableEq

/-- One conversation. -/
structure Conversation where
  id : ConversationId
  title : String
  conversant : Option ActorId
  entries : List Entry
  deriving DecidableEq

/-- Actors and conversations, and which actor is the player. -/
structure Database where
  player : Option ActorId
  actors : List Actor
  conversations : List Conversation
  deriving DecidableEq

/-- The title of the entry that every conversation starts from. -/
def startTitle : String := "START"

/-- The list with its first element of this kind changed. -/
def updateFirst {α : Type} (p : α → Bool) (f : α → α) : List α → List α
  | [] => []
  | a :: l => if p a then f a :: l else a :: updateFirst p f l

/-- What a change keeps of every element, it keeps of the whole list. -/
theorem map_updateFirst {α β : Type} {p : α → Bool} {f : α → α} {g : α → β}
    (h : ∀ a, g (f a) = g a) (l : List α) : (updateFirst p f l).map g = l.map g := by
  induction l with
  | nil => rfl
  | cons a l ih =>
    rw [updateFirst]
    split
    · simp [h]
    · simp [ih]

namespace Entry

/-- An entry with nothing in it. -/
def blank (id : EntryId) (conversation : ConversationId) (actor : ActorId) : Entry :=
  ⟨id, conversation, "", actor, none, "", "", "", "", false, []⟩

/-- The entry with one more link, from itself. -/
def linkTo (e : Entry) (destination : EntryRef) : Entry :=
  { e with links := e.links ++ [⟨⟨e.conversation, e.id⟩, destination⟩] }

/-- Whether the entry has a link to there. -/
def linksTo (e : Entry) (destination : EntryRef) : Bool :=
  e.links.any (·.destination = destination)

end Entry

namespace Conversation

/-- A conversation without entries. -/
def blank (id : ConversationId) (title : String) : Conversation :=
  ⟨id, title, none, []⟩

/-- The first entry with the id. -/
def entryById? (c : Conversation) (id : EntryId) : Option Entry :=
  c.entries.find? (·.id = id)

/-- The first entry with the title; the empty title is no entry's. -/
def entryTitled? (c : Conversation) (title : String) : Option Entry :=
  if title = "" then none else c.entries.find? (·.title = title)

/-- The entry that the conversation starts from. -/
def start? (c : Conversation) : Option Entry :=
  c.entryById? startId

/-- The conversation with its first entry of this id changed. -/
def updateEntry (c : Conversation) (id : EntryId) (f : Entry → Entry) : Conversation :=
  { c with entries := updateFirst (·.id = id) f c.entries }

end Conversation

namespace Database

/-- The database with nothing in it. -/
def empty : Database := ⟨none, [], []⟩

/-- The first conversation with the id. -/
def conversationById? (db : Database) (id : ConversationId) : Option Conversation :=
  db.conversations.find? (·.id = id)

/-- The first conversation with the title. -/
def conversationTitled? (db : Database) (title : String) : Option Conversation :=
  db.conversations.find? (·.title = title)

/-- The first actor with the id. -/
def actorById? (db : Database) (id : ActorId) : Option Actor :=
  db.actors.find? (·.id = id)

/-- The first actor with the name. -/
def actorNamed? (db : Database) (name : String) : Option Actor :=
  db.actors.find? (·.name = name)

/-- The entry that an address leads to. -/
def entryAt? (db : Database) (ref : EntryRef) : Option Entry :=
  (db.conversationById? ref.conversation).bind (·.entryById? ref.entry)

/-- The id of a further conversation. -/
def nextConversationId (db : Database) : ConversationId :=
  nextId (db.conversations.map (·.id))

/-- The id of a further actor. -/
def nextActorId (db : Database) : ActorId :=
  nextId (db.actors.map (·.id))

/-- The database with one more conversation. -/
def addConversation (db : Database) (c : Conversation) : Database :=
  { db with conversations := db.conversations ++ [c] }

/-- The database with one more actor. -/
def addActor (db : Database) (a : Actor) : Database :=
  { db with actors := db.actors ++ [a] }

/-- The database without the conversations of this title. -/
def removeTitled (db : Database) (title : String) : Database :=
  { db with conversations := db.conversations.filter (·.title ≠ title) }

/-- The database with the entry at an address changed, if there is one. -/
def updateEntry (db : Database) (ref : EntryRef) (f : Entry → Entry) : Database :=
  { db with
    conversations :=
      updateFirst (·.id = ref.conversation) (·.updateEntry ref.entry f) db.conversations }

/-- The id of the actor with this name, who is added if there is none. -/
def actorId (db : Database) (name : String) (isPlayer : Bool) : ActorId × Database :=
  match db.actorNamed? name with
  | some a => (a.id, db)
  | none => (db.nextActorId, db.addActor ⟨db.nextActorId, name, isPlayer⟩)

/-- The player. If none is set, or one that is no actor, it becomes the actor of this name. -/
def playerId (db : Database) (fallback : String) : ActorId × Database :=
  match db.player.filter fun id => (db.actorById? id).isSome with
  | some id => (id, db)
  | none =>
    let (id, db) := db.actorId fallback true
    (id, { db with player := some id })

end Database

end Dialogue
