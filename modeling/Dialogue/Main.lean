import Dialogue.Command.Run

/-!
# The program

Copies from the file system what a command line can look at, runs the command line on the copy, and
writes back what has changed. All decisions are made on the copy.

A link is copied as one to the place that it leads to in the end, and a link that leads nowhere as
one to itself.
-/

namespace Dialogue

/-- A copy of a part of the file system, with the directories of which everything is copied. -/
structure Copied where
  tree : FileTree
  whole : List Location

/-- The path from the root to a place. -/
def placeText (l : Location) : String :=
  "/" ++ "/".intercalate l

/-- The place that a path from the root leads to, if no links are on the way. -/
def placeOfText (text : String) : Location :=
  (text.splitOn "/").filter (· ≠ "")

/-- What a directory holds under a name. -/
def lookUp (l : Location) (name : String) : IO (Option FileNode) := do
  let place := (← IO.FS.realPath (placeText l)) / name
  let kind ← try pure (some (← place.symlinkMetadata).type) catch _ => pure none
  match kind with
  | some .dir => return some .directory
  | some .file => return some (.file (← IO.FS.readBinFile place))
  | some .symlink =>
    let target ← try IO.FS.realPath place catch _ => pure place
    return some (.link ⟨target.toString⟩)
  | some .other | none => return none

/-- Copies what lies along the steps from a directory, and gives the directory that they lead to. -/
partial def copySteps (links : Nat) (c : Copied) :
    Location → List Step → IO (Copied × Option Location)
  | here, [] => return (c, some here)
  | here, .stay :: rest | here, .slash :: rest => copySteps links c here rest
  | here, .up :: rest => copySteps links c here.dropLast rest
  | here, .enter name :: rest => do
    match ← lookUp here name with
    | none => return (c, none)
    | some node =>
      let c := { c with tree := c.tree.put (here ++ [name]) node }
      match node with
      | .directory => copySteps links c (here ++ [name]) rest
      | .file _ => return (c, none)
      | .link target =>
        if links = 0 then return (c, none) else copySteps (links - 1) c [] (target.steps ++ rest)

/-- Copies everything below a directory, also behind links. -/
partial def copyWhole (c : Copied) (l : Location) : IO Copied := do
  if c.whole.contains l then return c
  let mut c := { c with whole := l :: c.whole }
  for entry in ← (← IO.FS.realPath (placeText l)).readDir do
    let (copied, directory) ← copySteps maxLinks c l [.enter entry.fileName]
    c := copied
    if let some directory := directory then c ← copyWhole c directory
  return c

/-- Copies what lies along a path and, if it leads to a directory, everything below. -/
def copyPath (c : Copied) (p : Path) : IO Copied := do
  let start := if p.isAbsolute then [] else c.tree.workingDirectory
  match ← copySteps maxLinks c start p.steps with
  | (c, some directory) => copyWhole c directory
  | (c, none) => return c

/-- Copies what a command line can look at. -/
def copyFor (words : List String) : IO FileTree := do
  let here ← IO.currentDir
  let (c, _) ← copySteps maxLinks ⟨⟨placeOfText here.toString, []⟩, []⟩ []
    (Path.mk here.toString).steps
  match Invocation.ofWords? words with
  | none => return c.tree
  | some invocation =>
    let c ← copyPath c (invocation.settingsFile.getD Settings.standardFile)
    match Settings.load c.tree invocation.settingsFile with
    | .error _ => return c.tree
    | .ok settings => return (← (invocation.command.paths settings).foldlM copyPath c).tree

/-- Writes back what has changed in a copy, in the order in which it was changed. -/
def writeBack (before after : FileTree) : IO Unit := do
  for (l, node) in after.nodes.reverse do
    match before.node? l, node with
    | none, .directory => IO.FS.createDir (placeText l)
    | some (.file old), .file new =>
      if old.data ≠ new.data then IO.FS.writeBinFile (placeText l) new
    | none, .file new => IO.FS.writeBinFile (placeText l) new
    | _, _ => pure ()

end Dialogue

/-- Runs the command line. -/
def main (words : List String) : IO UInt32 := do
  let files ← Dialogue.copyFor words
  let outcome := Dialogue.runWords words files
  Dialogue.writeBack files outcome.files
  IO.print outcome.outputText
  IO.eprint outcome.remarkText
  return outcome.code.toUInt32
