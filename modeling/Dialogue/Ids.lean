/-!
# Ids

Conversations, entries and actors are named by numbers of 32 bits. A conversation's id is unique in
its database and an entry's in its conversation, so an entry's full address is the pair of both.

New ids follow the largest one in use. Behind the last id of all the count starts again at 0, whether
or not that is in use.
-/

namespace Dialogue

/-- The largest id. -/
def maxId : Nat := 4294967295

/-- Names a conversation within a database. -/
abbrev ConversationId := Nat

/-- Names an entry within its conversation. -/
abbrev EntryId := Nat

/-- Names an actor within a database. -/
abbrev ActorId := Nat

/-- The address of an entry in a database. -/
structure EntryRef where
  conversation : ConversationId
  entry : EntryId
  deriving DecidableEq

/-- The id of the entry that every conversation starts from. -/
def startId : EntryId := 0

/-- The id after the largest one in use, from 1 on, or 0 if that is the last one. -/
def nextId (used : List Nat) : Nat :=
  (used.max?.map fun id => if id < maxId then id + 1 else 0).getD 1

end Dialogue
