import Dialogue.Database.Basic
import Dialogue.Saved.Reader

/-!
# Databases as saved values

`Database.toSaved` says how a database is saved: records with a field for each part, in a fixed
order. `Database.ofSaved?` reads one back. A part that a new database would have empty may be left
out; an unknown field is passed over, but no known one may stand twice. Ids are numbers up to
`maxId`.

`Database.saved` and `Database.ofText?` are the whole way from a database to the text of its file
and back.
-/

namespace Dialogue

open Saved

namespace Saved

/-- An id as a value. -/
def Value.ofId (id : Nat) : Value := .number id none

/-- The machine type of ids. -/
def idType : IntegerType := ⟨false, 32⟩

/-- An optional id as a value. -/
def Value.ofOptionalId : Option Nat → Value
  | none => .absent
  | some id => .present (.ofId id)

/-- The fields of a record of this name, none of the known ones twice. -/
def Value.fields? (rules : Rules) (name : String) (known : List String) :
    Value → Option (List (String × Value))
  | .record found fields =>
    let nameFits := if found.isSome then found = some name else !rules.explicitNames
    let noneTwice := known.all fun k => (fields.filter (·.1 = k)).length ≤ 1
    if nameFits && noneTwice then some fields else none
  | _ => none

/-- The id that a value is. A number that names a type must name that of ids. -/
def Value.id? : Value → Option Nat
  | .number n type =>
    if 0 ≤ n ∧ n ≤ maxId ∧ type.all (· = idType) then some n.toNat else none
  | _ => none

/-- The text that a value is. -/
def Value.text? : Value → Option String
  | .text s => some s
  | _ => none

/-- The flag that a value is. -/
def Value.flag? : Value → Option Bool
  | .flag b => some b
  | _ => none

/-- The optional id that a value is. -/
def Value.optionalId? (rules : Rules) : Value → Option (Option Nat)
  | .absent => some none
  | .present v => v.id?.map some
  | v => if rules.implicitSome then v.id?.map some else none

/-- The list that a value is. -/
def Value.list? {α : Type} (item : Value → Option α) : Value → Option (List α)
  | .list items => items.mapM item
  | _ => none

/-- The value of a field that must be there. -/
def required {α : Type} (decode : Value → Option α) (name : String)
    (fields : List (String × Value)) : Option α :=
  (fields.lookup name).bind decode

/-- The value of a field that may be left out. -/
def withDefault {α : Type} (default : α) (decode : Value → Option α) (name : String)
    (fields : List (String × Value)) : Option α :=
  match fields.lookup name with
  | none => some default
  | some v => decode v

end Saved

/-- A link as a value. -/
def Link.toSaved (l : Link) : Value :=
  .record none
    [("origin_conversation", .ofId l.origin.conversation),
      ("origin_entry", .ofId l.origin.entry),
      ("destination_conversation", .ofId l.destination.conversation),
      ("destination_entry", .ofId l.destination.entry)]

/-- The link that a value is. -/
def Link.ofSaved? (rules : Rules) (v : Value) : Option Link := do
  let fields ← v.fields? rules "Link"
    ["origin_conversation", "origin_entry", "destination_conversation", "destination_entry"]
  let originConversation ← required Value.id? "origin_conversation" fields
  let originEntry ← required Value.id? "origin_entry" fields
  let destinationConversation ← required Value.id? "destination_conversation" fields
  let destinationEntry ← required Value.id? "destination_entry" fields
  some ⟨⟨originConversation, originEntry⟩, ⟨destinationConversation, destinationEntry⟩⟩

/-- An entry as a value. -/
def Entry.toSaved (e : Entry) : Value :=
  .record none
    [("id", .ofId e.id), ("conversation_id", .ofId e.conversation), ("title", .text e.title),
      ("actor_id", .ofId e.actor), ("conversant_id", .ofOptionalId e.conversant),
      ("text", .text e.text), ("script", .text e.script), ("condition", .text e.condition),
      ("sequence", .text e.sequence), ("is_group", .flag e.isGroup),
      ("outgoing_links", .list (e.links.map Link.toSaved))]

/-- The entry that a value is. -/
def Entry.ofSaved? (rules : Rules) (v : Value) : Option Entry := do
  let fields ← v.fields? rules "DialogueEntry"
    ["id", "conversation_id", "title", "actor_id", "conversant_id", "text", "script", "condition",
      "sequence", "is_group", "outgoing_links"]
  let id ← required Value.id? "id" fields
  let conversation ← required Value.id? "conversation_id" fields
  let title ← withDefault "" Value.text? "title" fields
  let actor ← required Value.id? "actor_id" fields
  let conversant ← withDefault none (Value.optionalId? rules) "conversant_id" fields
  let text ← withDefault "" Value.text? "text" fields
  let script ← withDefault "" Value.text? "script" fields
  let condition ← withDefault "" Value.text? "condition" fields
  let sequence ← withDefault "" Value.text? "sequence" fields
  let isGroup ← withDefault false Value.flag? "is_group" fields
  let links ← withDefault [] (Value.list? (Link.ofSaved? rules)) "outgoing_links" fields
  some ⟨id, conversation, title, actor, conversant, text, script, condition, sequence, isGroup,
    links⟩

/-- A conversation as a value. -/
def Conversation.toSaved (c : Conversation) : Value :=
  .record none
    [("id", .ofId c.id), ("title", .text c.title), ("conversant_id", .ofOptionalId c.conversant),
      ("entries", .list (c.entries.map Entry.toSaved))]

/-- The conversation that a value is. -/
def Conversation.ofSaved? (rules : Rules) (v : Value) : Option Conversation := do
  let fields ← v.fields? rules "Conversation" ["id", "title", "conversant_id", "entries"]
  let id ← required Value.id? "id" fields
  let title ← required Value.text? "title" fields
  let conversant ← withDefault none (Value.optionalId? rules) "conversant_id" fields
  let entries ← withDefault [] (Value.list? (Entry.ofSaved? rules)) "entries" fields
  some ⟨id, title, conversant, entries⟩

/-- An actor as a value. -/
def Actor.toSaved (a : Actor) : Value :=
  .record none [("id", .ofId a.id), ("name", .text a.name), ("is_player", .flag a.isPlayer)]

/-- The actor that a value is. -/
def Actor.ofSaved? (rules : Rules) (v : Value) : Option Actor := do
  let fields ← v.fields? rules "Actor" ["id", "name", "is_player"]
  let id ← required Value.id? "id" fields
  let name ← required Value.text? "name" fields
  let isPlayer ← withDefault false Value.flag? "is_player" fields
  some ⟨id, name, isPlayer⟩

namespace Database

/-- A database as a value. -/
def toSaved (db : Database) : Value :=
  .record none
    [("player_id", .ofOptionalId db.player), ("actors", .list (db.actors.map Actor.toSaved)),
      ("conversations", .list (db.conversations.map Conversation.toSaved))]

/-- The database that a value is. -/
def ofSaved? (rules : Rules) (v : Value) : Option Database := do
  let fields ← v.fields? rules "DialogueDatabase" ["player_id", "actors", "conversations"]
  let player ← withDefault none (Value.optionalId? rules) "player_id" fields
  let actors ← withDefault [] (Value.list? (Actor.ofSaved? rules)) "actors" fields
  let conversations ←
    withDefault [] (Value.list? (Conversation.ofSaved? rules)) "conversations" fields
  some ⟨player, actors, conversations⟩

/-- The text of the file that a database is saved in. -/
def saved (db : Database) : String :=
  String.ofList (db.toSaved.render 0)

/-- The database that the text of a file holds. -/
def ofText? (text : String) : Option Database := do
  let document ← readDocument? text.toList
  ofSaved? document.rules document.value

end Database

end Dialogue
