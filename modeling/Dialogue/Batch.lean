import Dialogue.Files.Walk
import Dialogue.Resolution

/-!
# Importing a batch

A batch imports sources one after another into one database. A source that gives no conversation is
reported and changes nothing else. Links by title are shared by all sources of a batch and resolved
once, when it is finished, so it does not matter which file of the batch a title stands in.

A batch takes texts (`importSource`), files (`importFile`) or paths to files and directories
(`importPathBy`); a path that cannot be read is reported and skipped. How a directory is walked is a
parameter, since a batch takes what any walk finds; `importPaths` walks by `FileTree.collect`.
-/

namespace Dialogue

/-- The text of a script, and the file that it is in, of which it is only spoken. -/
structure Source where
  file : Option Path
  text : String
  deriving DecidableEq

/-- What is to be said about a conversation that was imported. -/
structure Imported where
  id : ConversationId
  title : String
  file : Option Path
  replaced : Bool
  entries : Nat
  deriving DecidableEq

/-- A batch that is being imported. -/
structure Batch where
  options : ImportOptions
  db : Database
  pending : List PendingLink
  diagnostics : List Diagnostic
  imported : List Imported
  skipped : List Path
  deriving DecidableEq

/-- What is to be said about a batch. -/
structure Report where
  imported : List Imported
  /-- The paths that gave no conversation. -/
  skipped : List Path
  /-- How many waiting links were written at the end. -/
  linksResolved : Nat
  diagnostics : List Diagnostic
  deriving DecidableEq

namespace Report

/-- How many diagnostics are errors. -/
def errorCount (r : Report) : Nat := r.diagnostics.countP (·.isError)

/-- How many diagnostics are warnings. -/
def warningCount (r : Report) : Nat := r.diagnostics.countP (!·.isError)

/-- Whether any diagnostic is an error. -/
def hasErrors (r : Report) : Bool := r.diagnostics.any (·.isError)

end Report

namespace Batch

/-- A batch over a database, before anything is imported. -/
def start (db : Database) (options : ImportOptions) : Batch :=
  ⟨options, db, [], [], [], []⟩

/-- The batch with these diagnostics, raised while this file was imported. -/
def report (b : Batch) (file : Option Path) (diagnostics : List Diagnostic) : Batch :=
  { b with diagnostics := b.diagnostics ++ diagnostics.map (·.inFile file) }

/-- The batch without a path, for this reason. -/
def skip (b : Batch) (path : Path) (cause : Cause) : Batch :=
  { b.report (some path) [.ofCause cause] with skipped := b.skipped ++ [path] }

/-- The batch without a source, which may have a file. -/
def skipSource (b : Batch) (file : Option Path) (error : StructureError) : Batch :=
  { b.report file [.ofCause (.malformedSource error)] with skipped := b.skipped ++ file.toList }

/-- The batch with one more source, and the id of its conversation if it gives one. -/
def importSource (b : Batch) (source : Source) : Option ConversationId × Batch :=
  let parsed := Script.parse source.text
  let b := b.report source.file parsed.diagnostics
  match parsed.forest with
  | .error e => (none, b.skipSource source.file e)
  | .ok nodes =>
    match assemble nodes b.options b.db b.pending with
    | .error e => (none, b.skipSource source.file e)
    | .ok done =>
      (some done.assembly.conversation,
        { b.report source.file done.diagnostics with
          db := done.db
          pending := done.pending
          imported := b.imported ++
            [⟨done.assembly.conversation, done.assembly.title, source.file,
              done.assembly.replaced, done.assembly.entries⟩] })

/-- The batch with more sources, one after another. -/
def importSources (b : Batch) (sources : List Source) : Batch :=
  sources.foldl (fun b source => (b.importSource source).2) b

/-- The batch with one more file. -/
def importFile (files : FileTree) (b : Batch) (path : Path) : Batch :=
  match files.readText path with
  | .ok text => (b.importSource ⟨some path, text⟩).2
  | .error e => b.skip path (.unreadFile e)

/-- The batch without what a walk through a directory passed over. -/
def skipUnwalked (directory : Path) (b : Batch) (e : WalkError) : Batch :=
  b.skip (e.path directory) (.unwalkedPath e)

/-- The batch with the file that a path names, or with the files of this extension that a walk
through the directory finds. -/
def importPathBy (walk : Path → String → Scan) (files : FileTree) (b : Batch) (path : Path) :
    Batch :=
  if files.holdsDirectory path then
    let scan := walk path b.options.extension
    scan.files.foldl (importFile files) (scan.errors.foldl (skipUnwalked path) b)
  else if files.holdsFile path then b.importFile files path
  else b.skip path .missingInput

/-- Resolves the links that wait and closes the batch. -/
def finish (b : Batch) : Report × Database :=
  let resolution := resolve b.db b.pending
  let (written, db) := b.db.writeLinks resolution.links
  ({ imported := b.imported
     skipped := b.skipped
     linksResolved := written
     diagnostics := b.diagnostics ++ resolution.issues.map ResolveIssue.diagnostic }, db)

end Batch

/-- Imports every source as one batch. -/
def importSources (db : Database) (sources : List Source) (options : ImportOptions) :
    Report × Database :=
  ((Batch.start db options).importSources sources).finish

/-- Imports every path as one batch, with this way to walk through a directory. -/
def importPathsBy (walk : Path → String → Scan) (files : FileTree) (db : Database)
    (inputs : List Path) (options : ImportOptions) : Report × Database :=
  (inputs.foldl (Batch.importPathBy walk files) (.start db options)).finish

/-- Imports every path as one batch. -/
def importPaths (files : FileTree) : Database → List Path → ImportOptions → Report × Database :=
  importPathsBy files.collect files

end Dialogue
