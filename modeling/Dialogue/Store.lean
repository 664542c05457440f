import Dialogue.Files.Tree
import Dialogue.Saved.Codec

/-!
# Keeping a database in a file

`load` reads a database from a file, `loadOrNew` starts an empty one where there is no file yet, and
`save` writes one, creating the directories above the file. A path that cannot be looked up counts
as no file: what is not found on the way in is created on the way out.
-/

namespace Dialogue

/-- Why a database could not be loaded or saved. -/
inductive StoreError
  | unreadable (path : Path) (error : FileError)
  | malformed (path : Path)
  | unwritable (path : Path) (error : FileError)
  deriving DecidableEq

/-- What lies beneath the error. -/
def StoreError.cause : StoreError → String
  | unreadable _ e | unwritable _ e => e.message
  | malformed _ => "not the text of a database"

/-- The wording of a store error. -/
def StoreError.message : StoreError → String
  | unreadable p e => "reading database '" ++ p.text ++ "': " ++ e.message
  | malformed p => "parsing database '" ++ p.text ++ "': " ++ (malformed p).cause
  | unwritable p e => "writing database '" ++ p.text ++ "': " ++ e.message

namespace Database

/-- Loads a database from a file. -/
def load (files : FileTree) (path : Path) : Except StoreError Database :=
  match files.readText path with
  | .error e => .error (.unreadable path e)
  | .ok text =>
    match ofText? text with
    | none => .error (.malformed path)
    | some db => .ok db

/-- Loads a database from a file, or starts an empty one if there is no such file. -/
def loadOrNew (files : FileTree) (path : Path) : Except StoreError Database :=
  if files.holds path then load files path else .ok empty

end Database

/-- Saves a database in a file. -/
def Database.save (files : FileTree) (path : Path) (db : Database) :
    Except StoreError Unit × FileTree :=
  match files.makeDirectories path.directory with
  | (.error e, files) => (.error (.unwritable path e), files)
  | (.ok (), files) =>
    match files.write path db.saved.toUTF8 with
    | .error e => (.error (.unwritable path e), files)
    | .ok files => (.ok (), files)

end Dialogue
