import Dialogue.Script.Element

/-!
# The starter script

What a new script file holds: the two header lines, and an empty body between separators.
-/

namespace Dialogue.Script

/-- The title of a new script, when none is given. -/
def defaultTitle : String := "NewConversation"

/-- The conversant of a new script, when none is given. -/
def defaultConversant : String := "System"

/-- The text of a new script. -/
def starter (title conversant : String) : String :=
  Marker.title.text ++ " " ++ title ++ "\n" ++ Marker.npc.text ++ " " ++ conversant ++
    "\n---\n\n===\n"

end Dialogue.Script
