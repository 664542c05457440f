import Dialogue.Files.Tree

/-!
# Walking a directory for script files

`FileTree.collect` finds the files below a path that have a given extension, whatever the case of
its ASCII letters. A directory is entered where it stands among its neighbours, which are taken in
the order of their names, so the files come out in the order of a reader who opens every folder on
the way.

Links are followed. A link that leads nowhere is passed over and reported, and so is a link to a
directory that the walk is already in. Only links can lead back, and each one that is followed leads
to a directory that is not on the way down yet; so a way down holds no more than `n` links and no
more than `n` other steps after each, where `n` is the number of places in the tree. `depthLimit` is
beyond that, and the walk never comes to it.
-/

namespace Dialogue

/-- What a walk found: the files, and what it passed over. -/
structure Scan where
  files : List Path
  errors : List WalkError
  deriving DecidableEq

namespace Scan

/-- A walk that found nothing. -/
def empty : Scan := ⟨[], []⟩

/-- One walk after another. -/
def append (a b : Scan) : Scan :=
  ⟨a.files ++ b.files, a.errors ++ b.errors⟩

end Scan

/-- Whether a path has the extension, whatever the case of its ASCII letters. -/
def Path.hasExtension (p : Path) (extension : String) : Bool :=
  match p.extension? with
  | none => false
  | some e => e.toList.map Char.toLower = extension.toList.map Char.toLower

namespace FileTree

/-- A depth that no walk through the tree reaches. -/
def depthLimit (t : FileTree) : Nat :=
  (t.nodes.length + 1) * (t.nodes.length + 1)

/-- The names in a directory, in the order of their characters. -/
def sortedNames (t : FileTree) (l : Location) : List String :=
  (t.names l).mergeSort fun a b => !decide (b < a)

/-- Walks what the path names, inside the directories `within`, innermost first. -/
def collectFrom (t : FileTree) (extension : String) :
    Nat → List (Path × Location) → Path → Scan
  | 0, _, _ => .empty
  | depth + 1, within, p =>
    let enter (l : Location) : Scan :=
      ((t.sortedNames l).map fun name =>
        collectFrom t extension depth ((p, l) :: within) (p.join ⟨name⟩)).foldl .append .empty
    let take : Scan := ⟨if p.hasExtension extension then [p] else [], []⟩
    match t.find .keep p with
    | .error e => ⟨[], [.unreadable p e]⟩
    | .ok (l, .directory) => enter l
    | .ok (_, .file _) => take
    | .ok (_, .link _) =>
      match t.find .follow p with
      | .error e => ⟨[], [.unreadable p e]⟩
      | .ok (l, .directory) =>
        match within.find? (·.2 = l) with
        | some (ancestor, _) => ⟨[], [.loop p ancestor]⟩
        | none => enter l
      | .ok _ => take

/-- The files below a path, or the file that it names, that have the extension. -/
def collect (t : FileTree) (p : Path) (extension : String) : Scan :=
  collectFrom t extension t.depthLimit [] p

end FileTree

end Dialogue
