import Dialogue.Settings
import Dialogue.Store

/-!
# Why a command fails

A failure ends a command. It is shown with what the command was doing and, beneath that, the
causes from the nearest to the farthest: one cause on a line of its own, several with their
numbers. A cause of several lines keeps to the column that it starts in.
-/

namespace Dialogue

/-- Why a command fails. -/
inductive Failure
  | settings (error : SettingsError)
  | loading (error : StoreError)
  | saving (error : StoreError)
  /-- An import has no paths, not even in the settings. -/
  | nothingToImport
  /-- There is something already where a new script is to be written. -/
  | occupied (path : Path)
  | creating (directory : Path) (error : FileError)
  | writing (path : Path) (error : FileError)
  deriving DecidableEq

namespace Failure

/-- What the command was doing. -/
def headline : Failure → String
  | settings _ => "while loading project config"
  | loading _ => "while loading dialogue database"
  | saving _ => "while saving dialogue database"
  | nothingToImport =>
    "nothing to import: pass script paths or set \x60inputs\x60 in " ++ Settings.standardFile.text
  | occupied path => "'" ++ path.text ++ "' already exists"
  | creating directory _ => "creating '" ++ directory.text ++ "'"
  | writing path _ => "writing '" ++ path.text ++ "'"

/-- What lies beneath, from the nearest cause to the farthest. -/
def causes : Failure → List String
  | settings e => [e.message, e.cause]
  | loading e | saving e => [e.message, e.cause]
  | nothingToImport | occupied _ => []
  | creating _ e | writing _ e => [e.message]

/-- A cause behind this label, with its further lines set in so far. -/
def causeLine (label : String) (width : Nat) (cause : String) : String :=
  label ++ ("\n" ++ String.ofList (List.replicate width ' ')).intercalate
    ((cause.toList.splitOn '\n').map String.ofList)

/-- The lines of the causes. -/
def causeLines : List String → List String
  | [] => []
  | [cause] => [causeLine "    " 4 cause]
  | causes => causes.mapIdx fun i cause => causeLine ("    " ++ Nat.repr i ++ ": ") 7 cause

/-- The wording of a failure. -/
def message (f : Failure) : String :=
  "Error: " ++ f.headline ++
    if f.causes.isEmpty then ""
    else "\n\nCaused by:\n" ++ "\n".intercalate (causeLines f.causes)

end Failure

end Dialogue
