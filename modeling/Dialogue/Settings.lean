import Dialogue.Assembly
import Dialogue.Files.Tree
import Dialogue.Settings.Reader

/-!
# Settings

What a project sets for all its imports: the file that the database is in, the paths that are
imported when none are named, and the options of an import. Everything has a default. A settings
file names only what it sets, and a name that is no setting makes the whole file invalid.

Paths in a settings file start from the directory that the file is in.
-/

namespace Dialogue

/-- What a project sets for its imports. -/
structure Settings where
  database : Option Path
  inputs : List Path
  importOptions : ImportOptions
  deriving DecidableEq

/-- Why settings could not be loaded. -/
inductive SettingsError
  | unreadable (path : Path) (error : FileError)
  | malformed (path : Path)
  deriving DecidableEq

/-- What lies beneath the error. -/
def SettingsError.cause : SettingsError → String
  | unreadable _ e => e.message
  | malformed _ => "not the text of settings"

/-- The wording of a settings error. -/
def SettingsError.message : SettingsError → String
  | unreadable p e => "reading config '" ++ p.text ++ "': " ++ e.message
  | malformed p => "parsing config '" ++ p.text ++ "': " ++ (malformed p).cause

namespace Settings

/-- The settings of a project that sets nothing. -/
def standard : Settings := ⟨none, [], .standard⟩

/-- The settings file that is read when none is named and there is one. -/
def standardFile : Path := ⟨"dstext.toml"⟩

/-- The file that the database is in. -/
def databasePath (s : Settings) : Path :=
  s.database.getD ⟨"dialogue.ron"⟩

/-- What a table sets under a name, or else the default. -/
def Entries.get? {α : Type} (read : Value → Option α) (default : α) (name : String)
    (es : Entries) : Option α :=
  match es.lookup name with
  | none => some default
  | some v => read v

/-- The options of an import that a table sets. -/
def optionsOfEntries? (es : Entries) : Option ImportOptions :=
  let text (default name : String) := es.get? Value.text? default name
  if es.names.all ["extension", "player_name", "start_sequence"].contains then do
    let extension ← text ImportOptions.standard.extension "extension"
    let playerName ← text ImportOptions.standard.playerName "player_name"
    let startSequence ← text ImportOptions.standard.startSequence "start_sequence"
    some { extension, playerName, startSequence }
  else none

/-- The options of an import that a list sets, one after another. Items after the last option count
for nothing. -/
def optionsOfItems? (vs : List Value) : Option ImportOptions := do
  let set ← (vs.take 3).mapM Value.text?
  some
    { extension := set[0]?.getD ImportOptions.standard.extension
      playerName := set[1]?.getD ImportOptions.standard.playerName
      startSequence := set[2]?.getD ImportOptions.standard.startSequence }

/-- The options of an import that a value sets. -/
def optionsOfValue? : Value → Option ImportOptions
  | .table _ es => optionsOfEntries? es
  | .list vs => optionsOfItems? vs
  | .text _ | .other => none

/-- The settings that a table holds. -/
def ofEntries? (es : Entries) : Option Settings :=
  if es.names.all ["database", "inputs", "import"].contains then do
    let database ← es.get? (fun v => v.text?.map some) none "database"
    let inputs ← es.get? Value.texts? [] "inputs"
    let importOptions ← es.get? optionsOfValue? .standard "import"
    some ⟨database.map Path.mk, inputs.map Path.mk, importOptions⟩
  else none

/-- The settings that the text of a settings file holds. -/
def ofText? (text : String) : Option Settings := do
  ofEntries? (← readTable? text.toList)

/-- The settings with their paths read from a directory. -/
def fromDirectory (directory : Path) (s : Settings) : Settings :=
  { s with database := s.database.map directory.join, inputs := s.inputs.map directory.join }

/-- Loads settings from a file. -/
def loadFile (files : FileTree) (path : Path) : Except SettingsError Settings :=
  match files.readText path with
  | .error e => .error (.unreadable path e)
  | .ok text =>
    match ofText? text with
    | none => .error (.malformed path)
    | some s => .ok (s.fromDirectory path.directory)

/-- Loads settings from the file that is named or, if none is, from the standard file if there is
one. -/
def load (files : FileTree) : Option Path → Except SettingsError Settings
  | some path => loadFile files path
  | none => if files.holdsFile standardFile then loadFile files standardFile else .ok standard

end Settings

end Dialogue
