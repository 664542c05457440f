import Dialogue.Database.Basic
import Dialogue.Text.Blank

/-!
# What is wrong with a database

`Database.problems` lists, in a fixed order, what breaks the rules of a database: ids are not
shared, titles are neither blank nor shared, every conversation has the entry it starts from, every
actor that is named exists, every entry and link stands where it says it does, and every link leads
to an entry.

The rules read the database as a whole: an id that several conversations share names the entries of
all of them.
-/

namespace Dialogue

/-- What an id names. -/
inductive Reference
  | actor (id : ActorId)
  | conversation (id : ConversationId)
  | entry (ref : EntryRef)
  deriving DecidableEq

namespace Reference

/-- What kind of thing is named. -/
def kind : Reference → String
  | actor _ => "actor"
  | conversation _ => "conversation"
  | entry _ => "entry"

/-- The id as text. -/
def text : Reference → String
  | actor id | conversation id => Nat.repr id
  | entry ref => Nat.repr ref.conversation ++ ":" ++ Nat.repr ref.entry

end Reference

/-- An entry as problems speak of it: by its id and the title of its conversation. -/
structure EntryName where
  id : EntryId
  conversation : String
  deriving DecidableEq

/-- The wording of the name of an entry. -/
def EntryName.text (e : EntryName) : String :=
  "entry " ++ Nat.repr e.id ++ " of '" ++ e.conversation ++ "'"

/-- Where in a database something is named. -/
inductive Mention
  | player
  | startOf (conversation : String)
  | conversantOf (conversation : String)
  | entryActor (entry : EntryName)
  | entryConversant (entry : EntryName)
  | entryLink (entry : EntryName)
  deriving DecidableEq

/-- The wording of a mention. -/
def Mention.text : Mention → String
  | player => "database player"
  | startOf conversation => "start entry of '" ++ conversation ++ "'"
  | conversantOf conversation => "conversant of '" ++ conversation ++ "'"
  | entryActor entry => entry.text ++ " actor"
  | entryConversant entry => entry.text ++ " conversant"
  | entryLink entry => entry.text ++ " link"

/-- What breaks the rules of a database. -/
inductive Problem
  | duplicateId (ref : Reference)
  | duplicateTitle (title : String)
  | missing (ref : Reference) (mention : Mention)
  | blankTitle (conversation : ConversationId)
  | noPlayer
  /-- The entry says that it is in another conversation. -/
  | foreignEntry (entry : EntryName) (claimed : ConversationId)
  /-- The entry holds a link that starts elsewhere. -/
  | foreignLink (entry : EntryName) (origin : EntryRef)
  deriving DecidableEq

namespace Problem

/-- What a problem with a value says about where it is. -/
def context : Problem → String
  | duplicateId _ | duplicateTitle _ => ""
  | missing _ mention => mention.text
  | blankTitle conversation => "conversation " ++ Nat.repr conversation ++ " has an empty title"
  | noPlayer => "no player actor designated"
  | foreignEntry entry claimed => entry.text ++ " claims conversation " ++ Nat.repr claimed
  | foreignLink entry origin =>
    entry.text ++ " holds a link originating at " ++ (Reference.entry origin).text

/-- The wording of a problem. -/
def message : Problem → String
  | duplicateId ref => "duplicate " ++ ref.kind ++ " id '" ++ ref.text ++ "'"
  | duplicateTitle title => "duplicate conversation title '" ++ title ++ "'"
  | missing ref mention =>
    "missing " ++ ref.kind ++ " '" ++ ref.text ++ "' (" ++ mention.text ++ ")"
  | problem => "invalid value (" ++ problem.context ++ ")"

end Problem

/-- The elements that also stand earlier in the list, once for every time they come again. `seen` is
what came before. -/
def repeatsAfter {α : Type} [DecidableEq α] : List α → List α → List α
  | _, [] => []
  | seen, a :: l => if a ∈ seen then a :: repeatsAfter seen l else repeatsAfter (a :: seen) l

/-- The elements that also stand earlier in the list, once for every time they come again. -/
def repeats {α : Type} [DecidableEq α] (l : List α) : List α :=
  repeatsAfter [] l

/-- The problem of a condition that does not hold. -/
def problemUnless (holds : Bool) (problem : Problem) : List Problem :=
  if holds then [] else [problem]

namespace Database

/-- Whether an actor has the id. -/
def hasActor (db : Database) (id : ActorId) : Bool :=
  db.actors.any (·.id = id)

/-- Whether a conversation has the id. -/
def hasConversation (db : Database) (id : ConversationId) : Bool :=
  db.conversations.any (·.id = id)

/-- Whether a conversation with the first id has an entry with the second. -/
def hasEntry (db : Database) (ref : EntryRef) : Bool :=
  db.conversations.any fun c => c.id = ref.conversation && c.entries.any (·.id = ref.entry)

/-- An actor that is named must exist. -/
def actorProblems (db : Database) (id : ActorId) (mention : Mention) : List Problem :=
  problemUnless (db.hasActor id) (.missing (.actor id) mention)

/-- Titles that are blank, or that come again. `seen` are the titles before. -/
def titleProblemsAfter : List String → List Conversation → List Problem
  | _, [] => []
  | seen, c :: cs =>
    if Text.isAllBlank c.title.toList then .blankTitle c.id :: titleProblemsAfter seen cs
    else if c.title ∈ seen then .duplicateTitle c.title :: titleProblemsAfter seen cs
    else titleProblemsAfter (c.title :: seen) cs

/-- What is wrong with the player. -/
def playerProblems (db : Database) : List Problem :=
  match db.player with
  | some id => db.actorProblems id .player
  | none => problemUnless db.conversations.isEmpty .noPlayer

/-- What is wrong with the ids of the entries of a conversation. -/
def entryIdProblems (c : Conversation) : List Problem :=
  (repeats (c.entries.map (·.id))).map (fun id => .duplicateId (.entry ⟨c.id, id⟩)) ++
    problemUnless (c.entries.any (·.id = startId))
      (.missing (.entry ⟨c.id, startId⟩) (.startOf c.title))

/-- What is wrong with a link that this entry holds. -/
def linkProblems (db : Database) (c : Conversation) (e : Entry) (l : Link) : List Problem :=
  problemUnless (l.origin = ⟨c.id, e.id⟩) (.foreignLink ⟨e.id, c.title⟩ l.origin) ++
    if db.hasConversation l.destination.conversation then
      problemUnless (db.hasEntry l.destination)
        (.missing (.entry l.destination) (.entryLink ⟨e.id, c.title⟩))
    else [.missing (.conversation l.destination.conversation) (.entryLink ⟨e.id, c.title⟩)]

/-- What is wrong with an entry of this conversation. -/
def entryProblems (db : Database) (c : Conversation) (e : Entry) : List Problem :=
  let name : EntryName := ⟨e.id, c.title⟩
  problemUnless (e.conversation = c.id) (.foreignEntry name e.conversation) ++
    db.actorProblems e.actor (.entryActor name) ++
    e.conversant.toList.flatMap (db.actorProblems · (.entryConversant name)) ++
    e.links.flatMap (db.linkProblems c e)

/-- What is wrong with what a conversation names. -/
def conversationProblems (db : Database) (c : Conversation) : List Problem :=
  c.conversant.toList.flatMap (db.actorProblems · (.conversantOf c.title)) ++
    c.entries.flatMap (db.entryProblems c)

/-- What breaks the rules, in order: the ids of actors and of conversations, the titles, the player,
the ids of entries, and then what each conversation names. -/
def problems (db : Database) : List Problem :=
  (repeats (db.actors.map (·.id))).map (fun id => .duplicateId (.actor id)) ++
    (repeats (db.conversations.map (·.id))).map (fun id => .duplicateId (.conversation id)) ++
    titleProblemsAfter [] db.conversations ++
    db.playerProblems ++
    db.conversations.flatMap entryIdProblems ++
    db.conversations.flatMap db.conversationProblems

end Database

end Dialogue
