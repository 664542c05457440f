import Dialogue.Assembly

/-!
# Resolving the links that waited

When a batch ends, each waiting link is looked up in the whole database: first in the conversation
it starts from, then in all conversations in order, where the first one with such an entry wins
and a second one is remarked on. `resolve` only reads the database and `Database.writeLinks`
writes the links into it, so no link that is written changes where another one leads.
-/

namespace Dialogue

/-- What becomes of a waiting link. -/
inductive Verdict
  /-- It leads there; the number of conversations that have the title is given where the link's own
  has not. -/
  | linked (destination : EntryRef) (matching : Option Nat)
  /-- No entry has the title. -/
  | missing (conversation : String)
  /-- The entry that it starts from is not there. -/
  | stale
  deriving DecidableEq

/-- What is to be said about a waiting link. -/
inductive ResolveIssue
  | missing (conversation title : String)
  | ambiguous (title : String) (conversations : Nat)
  | staleOrigin (title : String) (origin : EntryRef)
  deriving DecidableEq

/-- The diagnostic for an issue. -/
def ResolveIssue.diagnostic : ResolveIssue → Diagnostic
  | missing conversation title => .ofCause (.missingLinkTarget conversation title)
  | ambiguous title conversations => .ofCause (.ambiguousLinkTarget title conversations)
  | staleOrigin title origin => .ofCause (.staleLinkOrigin title origin)

/-- The links to write and the issues to report. -/
structure Resolution where
  links : List Link
  issues : List ResolveIssue
  deriving DecidableEq

/-- The entries with this title, the first one of each conversation, in the order of the
conversations. -/
def Database.entriesTitled (db : Database) (title : String) : List EntryRef :=
  db.conversations.filterMap fun c => (c.entryTitled? title).map fun e => ⟨c.id, e.id⟩

namespace PendingLink

/-- What becomes of a waiting link. -/
def verdict (db : Database) (p : PendingLink) : Verdict :=
  match db.conversationById? p.origin.conversation with
  | none => .stale
  | some c =>
    if (c.entryById? p.origin.entry).isNone then .stale
    else
      match c.entryTitled? p.title with
      | some e => .linked ⟨c.id, e.id⟩ none
      | none =>
        match db.entriesTitled p.title with
        | [] => .missing c.title
        | first :: others => .linked first (some (others.length + 1))

/-- The link that is written for a waiting one, if any. -/
def link? (db : Database) (p : PendingLink) : Option Link :=
  match p.verdict db with
  | .linked destination _ => some ⟨p.origin, destination⟩
  | .missing _ | .stale => none

/-- What is reported about a waiting link, if anything. -/
def issue? (db : Database) (p : PendingLink) : Option ResolveIssue :=
  match p.verdict db with
  | .linked _ matching => (matching.filter (1 < ·)).map (.ambiguous p.title ·)
  | .missing conversation => some (.missing conversation p.title)
  | .stale => some (.staleOrigin p.title p.origin)

end PendingLink

/-- What becomes of the waiting links. -/
def resolve (db : Database) (pending : List PendingLink) : Resolution :=
  ⟨pending.filterMap (·.link? db), pending.filterMap (·.issue? db)⟩

/-- The database with one more link in the entry that it starts from, if that is there. -/
def Database.writeLink (db : Database) (l : Link) : Database :=
  db.updateEntry l.origin fun e => { e with links := e.links ++ [l] }

/-- The database with the links written, and how many of them found the entry that they start
from. -/
def Database.writeLinks (db : Database) (links : List Link) : Nat × Database :=
  ((links.filter fun l => (db.entryAt? l.origin).isSome).length, links.foldl writeLink db)

end Dialogue
