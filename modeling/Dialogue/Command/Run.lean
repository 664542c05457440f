import Dialogue.Batch
import Dialogue.Command.Failure
import Dialogue.Command.Line
import Dialogue.Database.Validity

/-!
# Running a command

A command is run on a tree of files. What comes out is the tree afterwards, the lines of the
output, the remarks, and how the run ended. Settings are loaded first, whatever the command is, so
a settings file that is invalid stops every command.
-/

namespace Dialogue

/-- How a run ended. -/
inductive Ending
  | done
  /-- The command did its work and reports that something is wrong with the data. -/
  | unsound
  | failed (failure : Failure)
  /-- The command line asks for nothing. -/
  | misused
  deriving DecidableEq

/-- What a run leaves behind. -/
structure Outcome where
  files : FileTree
  /-- The lines of the output. -/
  output : List String
  /-- The remarks about scripts and data that go beside the output. -/
  remarks : List String
  ending : Ending

namespace Outcome

/-- The outcome of a run that fails before it has done anything. -/
def failure (files : FileTree) (f : Failure) : Outcome :=
  ⟨files, [], [], .failed f⟩

/-- The number that the run ends with. -/
def code (o : Outcome) : Nat :=
  match o.ending with
  | .done => 0
  | .unsound | .failed _ => 1
  | .misused => 2

/-- These lines, each with its line end. -/
def joinLines (lines : List String) : String :=
  String.join (lines.map (· ++ "\n"))

/-- The text of the output. -/
def outputText (o : Outcome) : String :=
  joinLines o.output

/-- The text that goes beside the output: the remarks, and why the run failed. -/
def remarkText (o : Outcome) : String :=
  joinLines (o.remarks ++
    match o.ending with
    | .failed f => [f.message]
    | .misused => ["usage: [--config FILE] import [PATH ...] | new PATH | check"]
    | .done | .unsound => [])

end Outcome

/-! ## Importing scripts -/

/-- The line about a conversation that was imported. -/
def Imported.line (i : Imported) : String :=
  (if i.replaced then "replaced" else "imported") ++ " '" ++ i.title ++ "' (id " ++
    Nat.repr i.id ++ ", " ++ Nat.repr i.entries ++ " entries)" ++
    match i.file with
    | some file => " <- " ++ file.text
    | none => ""

/-- The lines about a batch. -/
def Report.lines (r : Report) : List String :=
  r.imported.map Imported.line ++
    [Nat.repr r.imported.length ++ " conversations, " ++ Nat.repr r.linksResolved ++
      " deferred links resolved, " ++ Nat.repr r.skipped.length ++ " files skipped, " ++
      Nat.repr r.errorCount ++ " errors, " ++ Nat.repr r.warningCount ++ " warnings"]

/-- The remark about a diagnostic. -/
def Diagnostic.remark (d : Diagnostic) : String :=
  d.severity.name ++ ": " ++ d.message

namespace ImportRequest

/-- The paths to import. -/
def inputs (r : ImportRequest) (settings : Settings) : List Path :=
  if r.paths.isEmpty then settings.inputs else r.paths

/-- The file of the database. -/
def databasePath (r : ImportRequest) (settings : Settings) : Path :=
  r.database.getD settings.databasePath

/-- The options of the import. Dots at the start of an extension on the command line are no part of
it. -/
def options (r : ImportRequest) (settings : Settings) : ImportOptions :=
  match r.extension with
  | none => settings.importOptions
  | some extension =>
    { settings.importOptions with
      extension := String.ofList (extension.toList.dropWhile (· = '.')) }

/-- Runs an import. -/
def run (r : ImportRequest) (settings : Settings) (files : FileTree) : Outcome :=
  if (r.inputs settings).isEmpty then .failure files .nothingToImport
  else
    match Database.loadOrNew files (r.databasePath settings) with
    | .error e => .failure files (.loading e)
    | .ok db =>
      let (report, db) := importPaths files db (r.inputs settings) (r.options settings)
      let ending := if r.strict && report.hasErrors then .unsound else .done
      let outcome : Outcome :=
        ⟨files, report.lines, report.diagnostics.map Diagnostic.remark, ending⟩
      if r.dryRun then outcome
      else
        match db.save files (r.databasePath settings) with
        | (.error e, files) => { outcome with files, ending := .failed (.saving e) }
        | (.ok (), files) => { outcome with files }

end ImportRequest

/-! ## New scripts -/

/-- Writes a new script where there is nothing yet. -/
def runNew (path : Path) (title conversant : String) (files : FileTree) : Outcome :=
  if files.holds path then .failure files (.occupied path)
  else
    match files.makeDirectories path.directory with
    | (.error e, files) => .failure files (.creating path.directory e)
    | (.ok (), files) =>
      match files.write path (Script.starter title conversant).toUTF8 with
      | .error e => .failure files (.writing path e)
      | .ok files => ⟨files, ["created '" ++ path.text ++ "'"], [], .done⟩

/-! ## Checking a database -/

/-- Looks for problems in the database in a file. -/
def runCheck (path : Path) (files : FileTree) : Outcome :=
  match Database.load files path with
  | .error e => .failure files (.loading e)
  | .ok db =>
    let problems := db.problems
    if problems.isEmpty then
      ⟨files, ["ok " ++ Nat.repr db.conversations.length ++ " conversations, " ++
        Nat.repr db.actors.length ++ " actors"], [], .done⟩
    else
      ⟨files, [Nat.repr problems.length ++ " problems in '" ++ path.text ++ "'"],
        problems.map fun p => Severity.error.name ++ ": " ++ p.message, .unsound⟩

/-! ## Every command -/

/-- Runs a command. -/
def Command.run (settings : Settings) (files : FileTree) : Command → Outcome
  | importScripts request => request.run settings files
  | newScript path title conversant => runNew path title conversant files
  | check database => runCheck (database.getD settings.databasePath) files

/-- The paths that a command looks at. -/
def Command.paths (settings : Settings) : Command → List Path
  | importScripts request => request.databasePath settings :: request.inputs settings
  | newScript path _ _ => [path]
  | check database => [database.getD settings.databasePath]

/-- Runs what a command line asks for. -/
def Invocation.run (i : Invocation) (files : FileTree) : Outcome :=
  match Settings.load files i.settingsFile with
  | .error e => .failure files (.settings e)
  | .ok settings => i.command.run settings files

/-- Runs a command line. -/
def runWords (words : List String) (files : FileTree) : Outcome :=
  match Invocation.ofWords? words with
  | none => ⟨files, [], [], .misused⟩
  | some invocation => invocation.run files

end Dialogue
