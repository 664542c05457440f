import Dialogue.Files.Error

/-!
# A tree of files

The files that the program reads and writes, as a value: which place holds a directory, a file or a
symbolic link, and from which directory relative paths start.

* A **location** is the list of names from the root down to a place. It does not depend on how the
  place is reached, so two paths lead to the same place exactly when they resolve to the same
  location.
* `resolve` follows a path part by part. Every part but the last must lead to a directory; a link
  is replaced by its target, at most `maxLinks` times in all; `..` goes to the directory above the
  one reached so far, wherever links have led. The last part may name nothing yet.
* A path that ends with a slash means a directory. Reading then refuses a file. Writing a file
  refuses in any case, once the way to the last part is clear and before that part is looked up; the
  same holds for the target of a link that the last part leads to.

Reading leaves the tree as it is. Writing changes one place: `write` puts a file where the path
leads, creating it or replacing its content, and `makeDirectory` puts a directory where nothing is.
-/

namespace Dialogue

/-- A place in a tree: the names from the root down. -/
abbrev Location := List String

/-- What a place holds. -/
inductive FileNode
  | directory
  | file (content : ByteArray)
  | link (target : Path)

/-- Whether this is a directory. -/
def FileNode.isDirectory : FileNode → Bool
  | directory => true
  | file _ | link _ => false

/-- The places of a file system and the directory that relative paths start from. -/
structure FileTree where
  workingDirectory : Location
  nodes : List (Location × FileNode)

/-- One step along a path. -/
inductive Step
  | stay
  | up
  | enter (name : String)
  /-- The end of a path that ends with a slash. -/
  | slash
  deriving DecidableEq

/-- Where a path leads, and whether it insists on a directory. -/
structure Place where
  location : Location
  slash : Bool
  deriving DecidableEq

/-- What is done with the last part of a path, which may name a link. -/
inductive LastPart
  | follow
  /-- A link is followed, and no slash may stand after the last part of the path or of the link that
  is followed last. -/
  | followToFile
  /-- The link itself is meant, unless a slash follows. -/
  | keep
  /-- The link itself is meant, even if a slash follows. -/
  | keepWithSlash
  deriving DecidableEq

/-- The number of links that may be followed on the way along one path. -/
def maxLinks : Nat := 40

/-- The number of bytes that the name of a place may take. -/
def maxNameSize : Nat := 255

/-- The number of bytes below which the size of a path must stay. -/
def pathSizeLimit : Nat := 4096

/-- The steps of a path. -/
def Path.steps (p : Path) : List Step :=
  (p.pieces.filterMap fun piece =>
    if piece = "" then none
    else if piece = "." then some .stay
    else if piece = ".." then some .up
    else some (.enter piece)) ++
  (if p.text.toList.getLast? = some '/' then [.slash] else [])

/-- Whether a link that is followed by these steps is itself meant. -/
def LastPart.keeps : LastPart → List Step → Bool
  | follow, _ | followToFile, _ => false
  | keep, rest => rest.isEmpty
  | keepWithSlash, rest => rest.all (· = .slash)

/-- Whether a name that is followed by these steps is refused, whatever it names. -/
def LastPart.refuses : LastPart → List Step → Bool
  | followToFile, rest => !rest.isEmpty && rest.all (· = .slash)
  | _, _ => false

namespace FileTree

/-- What a place holds; the root always holds a directory. -/
def node? (t : FileTree) (l : Location) : Option FileNode :=
  if l = [] then some .directory else t.nodes.lookup l

/-- The tree with this at a place. -/
def put (t : FileTree) (l : Location) (n : FileNode) : FileTree :=
  { t with nodes := (l, n) :: t.nodes.filter (·.1 ≠ l) }

@[simp] theorem workingDirectory_put (t : FileTree) (l : Location) (n : FileNode) :
    (t.put l n).workingDirectory = t.workingDirectory := rfl

/-- A place other than the root holds what was put there. -/
theorem node?_put_self (t : FileTree) {l : Location} (hl : l ≠ []) (n : FileNode) :
    (t.put l n).node? l = some n := by
  simp [node?, put, hl]

/-- Every other place holds what it held. -/
theorem node?_put_of_ne (t : FileTree) {l m : Location} (h : m ≠ l) (n : FileNode) :
    (t.put l n).node? m = t.node? m := by
  have keep : ∀ nodes : List (Location × FileNode),
      (nodes.filter (·.1 ≠ l)).lookup m = nodes.lookup m := by
    intro nodes
    induction nodes with
    | nil => rfl
    | cons node nodes ih =>
      obtain ⟨place, held⟩ := node
      by_cases hp : place = l
      · have hm : (m == place) = false := by simp [hp, h]
        rw [List.lookup_cons, hm]
        simpa [hp] using ih
      · rw [List.filter_cons_of_pos (by simpa using hp), List.lookup_cons, List.lookup_cons, ih]
  have hm : (m == l) = false := by simp [h]
  simp only [node?, put, List.lookup_cons, hm, keep]

/-- The names in a directory. -/
def names (t : FileTree) (l : Location) : List String :=
  t.nodes.filterMap fun (m, _) => if m.dropLast = l then m.getLast? else none

/-- Goes along the steps from a directory; `followLink` goes on from a directory when a link has
been replaced by the steps of its target. -/
def walkSteps (t : FileTree) (last : LastPart)
    (followLink : Location → List Step → Except FileError Place) :
    Location → List Step → Except FileError Place
  | here, [] => .ok ⟨here, false⟩
  | here, .stay :: rest => walkSteps t last followLink here rest
  | here, .up :: rest => walkSteps t last followLink here.dropLast rest
  | here, .slash :: rest =>
    if rest.isEmpty then .ok ⟨here, true⟩ else walkSteps t last followLink here rest
  | here, .enter name :: rest =>
    if last.refuses rest then .error .isADirectory
    else if maxNameSize < name.utf8ByteSize then .error .nameTooLong
    else
      let there := here ++ [name]
      match t.node? there with
      | none => if rest.all (· = .slash) then .ok ⟨there, !rest.isEmpty⟩ else .error .notFound
      | some .directory => walkSteps t last followLink there rest
      | some (.file _) =>
        if rest.all (· = .slash) then .ok ⟨there, !rest.isEmpty⟩ else .error .notADirectory
      | some (.link target) =>
        if last.keeps rest then .ok ⟨there, !rest.isEmpty⟩
        else followLink (if target.isAbsolute then [] else here) (target.steps ++ rest)

/-- Goes along the steps from a directory, following at most so many links. -/
def walkFollowing (t : FileTree) (last : LastPart) :
    Nat → Location → List Step → Except FileError Place
  | 0 => walkSteps t last fun _ _ => .error .tooManyLinks
  | links + 1 => walkSteps t last (walkFollowing t last links)

/-- Where a path leads. -/
def resolve (t : FileTree) (last : LastPart) (p : Path) : Except FileError Place :=
  if p.text.toList.contains '\x00' then .error .nulInPath
  else if p.isEmpty then .error .notFound
  else if pathSizeLimit ≤ p.text.utf8ByteSize then .error .nameTooLong
  else walkFollowing t last maxLinks (if p.isAbsolute then [] else t.workingDirectory) p.steps

/-- What a path names, with its location. -/
def find (t : FileTree) (last : LastPart) (p : Path) : Except FileError (Location × FileNode) := do
  let place ← t.resolve last p
  match t.node? place.location with
  | none => .error .notFound
  | some (.file content) =>
    if place.slash then .error .notADirectory else .ok (place.location, .file content)
  | some node => .ok (place.location, node)

/-- Whether a path names anything. -/
def holds (t : FileTree) (p : Path) : Bool :=
  match t.find .follow p with
  | .ok _ => true
  | .error _ => false

/-- Whether a path names a directory. -/
def holdsDirectory (t : FileTree) (p : Path) : Bool :=
  match t.find .follow p with
  | .ok (_, .directory) => true
  | _ => false

/-- Whether a path names a file. -/
def holdsFile (t : FileTree) (p : Path) : Bool :=
  match t.find .follow p with
  | .ok (_, .file _) => true
  | _ => false

/-- The content of the file that a path names. -/
def read (t : FileTree) (p : Path) : Except FileError ByteArray := do
  match ← t.find .follow p with
  | (_, .file content) => .ok content
  | _ => .error .isADirectory

/-- The text of the file that a path names. -/
def readText (t : FileTree) (p : Path) : Except FileError String := do
  match String.fromUTF8? (← t.read p) with
  | some text => .ok text
  | none => .error .notText

/-- The tree with this content in the file that a path names, which is created if there is none. -/
def write (t : FileTree) (p : Path) (content : ByteArray) : Except FileError FileTree := do
  let place ← t.resolve .followToFile p
  if (t.node? place.location).any FileNode.isDirectory then .error .isADirectory
  else .ok (t.put place.location (.file content))

/-- The tree with a directory where the path leads, if nothing is there. -/
def makeDirectory (t : FileTree) (p : Path) : Except FileError FileTree := do
  let place ← t.resolve .keepWithSlash p
  if (t.node? place.location).isSome then .error .alreadyExists
  else .ok (t.put place.location .directory)

/-- The tree with a link where the path leads, if nothing is there. -/
def makeLink (t : FileTree) (p target : Path) : Except FileError FileTree := do
  let place ← t.resolve .keepWithSlash p
  if (t.node? place.location).isSome then .error .alreadyExists
  else .ok (t.put place.location (.link target))

/-- Creates the first of these paths as a directory, and first the ones after it, as far as they
are missing. What has been created stays when a later step fails. -/
def makeDirectoriesFrom : List Path → FileTree → Except FileError Unit × FileTree
  | [], t => (.ok (), t)
  | p :: above, t =>
    if p.isEmpty then (.ok (), t)
    else
      match t.makeDirectory p with
      | .ok t' => (.ok (), t')
      | .error .notFound =>
        match makeDirectoriesFrom above t with
        | (.error e, t') => (.error e, t')
        | (.ok (), t') =>
          match t'.makeDirectory p with
          | .ok t'' => (.ok (), t'')
          | .error e => (if t'.holdsDirectory p then .ok () else .error e, t')
      | .error e => (if t.holdsDirectory p then .ok () else .error e, t)

/-- Creates a directory and the directories above it, as far as they are missing. -/
def makeDirectories (t : FileTree) (p : Path) : Except FileError Unit × FileTree :=
  makeDirectoriesFrom p.ancestors t

/-- The files of a tree, with their locations. -/
def files (t : FileTree) : List (Location × ByteArray) :=
  t.nodes.filterMap fun (l, n) =>
    match n with
    | .file content => some (l, content)
    | _ => none

end FileTree

end Dialogue
