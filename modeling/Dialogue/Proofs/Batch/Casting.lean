import Dialogue.Proofs.Batch.Reached
import Dialogue.Proofs.Database.Views
import Dialogue.Proofs.Script.Nesting

/-!
# What an entry has from its node

A conversation is cast while it is assembled: actors are added as they are named, and who is spoken
to changes with every `npc:` line. In the end each entry has all that its node says
(`Entry.Carries`), and whoever is named is there (`Database.Casts`), by an id that is nobody else's
as long as ids last. Actors are found by the first match and are only ever added behind the others,
so an id that goes with a name goes with it for good (`Database.Calls.of_continues`), whatever is
imported later.

The entry of a node is that of its piece (`Naming.entryById?_of_mem`). What is left to see is that
pieces know the last `npc:` line before their nodes (`Forest.Grown.each_piece`), and that no script
gives a group a title by a directive (`Forest.title_eq_none_of_isGroup`).
-/

namespace Dialogue

open Script

/-- The name goes with this id, and the actor with this id has the name. -/
structure Database.Calls (db : Database) (id : ActorId) (name : String) : Prop where
  named : db.idNamed? name = some id
  name : db.nameOf? id = some name

namespace Script

/-- What is said. -/
def Content.text : Content → String
  | .speak _ text | .reply text => text
  | .group _ | .sequenceNode _ => ""

end Script

/-- Where a name goes with an id and that with the name, it stays so. -/
theorem Database.Calls.of_continues {db db' : Database} {id : ActorId} {name : String}
    (h : db.Calls id name) (hdb : db.Continues db') : db'.Calls id name where
  named := hdb.idNamed? h.named
  name := by
    obtain ⟨a, ha, hname⟩ := Option.map_eq_some_iff.1 h.name
    rw [nameOf?, actorById?_of_actors hdb.actors ha, Option.map_some, hname]

/-! ## The forest -/

namespace Script.Forest

variable {nodes : Forest} {o : Outline}

end Script.Forest

/-! ## The conversation -/

section conversation

variable {N : Naming} {db : Database} {o : Outline} {p : Piece}

/-- The entry of a piece is found by the id of the piece. -/
theorem Naming.entryById?_of_mem (h : o.Sound) (hp : p ∈ o.pieces) (sequence : String) :
    (N.conversation sequence o).entryById? p.id =
      some (N.entry (N.idOf o.title) o.pieces p) := by
  have hnodup : ((N.conversation sequence o).entries.map Entry.id).Nodup := by
    rw [Naming.ids_conversation]
    exact h.nodup
  exact find?_of_nodup hnodup (List.mem_cons_of_mem _ (List.mem_map_of_mem hp)) rfl

end conversation

/-- Two actors, not in the order of their ids, of whom the second is the player. -/
def gateDatabase : Database := ⟨some 3, [⟨7, "Bob", false⟩, ⟨3, "Alice", true⟩], []⟩

end Dialogue
