import Dialogue.Files.Error
import Dialogue.Script.Element

/-!
# Diagnostics

What an import has to say about its sources. A diagnostic never stops a batch: it belongs to a line,
to a file or to a link, and all the rest is still imported. It carries the file that was being
imported when it was raised and the line that it is about, as far as there are any; what is found
out only when the batch ends, about its links, has neither.
-/

namespace Dialogue

/-- Why a source gives no conversation at all. -/
inductive StructureError
  | empty
  | missingTitle
  deriving DecidableEq

/-- The wording of a structure error. -/
def StructureError.message : StructureError → String
  | empty => "conversation file is empty"
  | missingTitle => "conversation file must start with a title"

/-- Where directives were waiting that nothing took. -/
inductive Unattached
  | beforeConversant
  | endOfFile
  deriving DecidableEq

/-- How the directives that nothing took are spoken of. -/
def Unattached.text : Unattached → String
  | beforeConversant => "directive before npc line"
  | endOfFile => "directive at end of file"

/-- What a diagnostic is about, wherever it was found. -/
inductive Cause
  | unrecognizedLine (text : String)
  | malformedDirective (error : Script.DirectiveError)
  | malformedSource (error : StructureError)
  | duplicateTitle (title : String)
  | unusedDirective (place : Unattached)
  | missingParent (entry parent : EntryId)
  /-- No entry has the title that a link of this conversation names. -/
  | missingLinkTarget (conversation title : String)
  /-- Several conversations have an entry with the title. -/
  | ambiguousLinkTarget (title : String) (conversations : Nat)
  /-- The entry that a waiting link starts from has been replaced. -/
  | staleLinkOrigin (title : String) (origin : EntryRef)
  | unwalkedPath (error : WalkError)
  | unreadFile (error : FileError)
  | missingInput
  deriving DecidableEq

/-- The wording of a diagnostic, without its place. -/
def Cause.message : Cause → String
  | unrecognizedLine text => "unrecognized line: " ++ text
  | malformedDirective error => error.message
  | malformedSource error => error.message
  | duplicateTitle title => "duplicate title line ignored: " ++ title
  | unusedDirective place => place.text ++ " has nothing to attach to and was dropped"
  | missingParent entry parent =>
    "entry " ++ Nat.repr entry ++ " has no parent entry " ++ Nat.repr parent ++ " to link from"
  | missingLinkTarget conversation title =>
    "couldn't find title to link to | " ++ conversation ++ " | " ++ title
  | ambiguousLinkTarget title conversations =>
    "'" ++ title ++ "' is an entry title in " ++ Nat.repr conversations ++
      " conversations; linked to the first"
  | staleLinkOrigin title origin =>
    "link to '" ++ title ++ "' dropped: origin entry " ++ Nat.repr origin.conversation ++ ":" ++
      Nat.repr origin.entry ++ " was replaced"
  | unwalkedPath error => "walking directory: " ++ error.message
  | unreadFile error => "reading file: " ++ error.message
  | missingInput => "no such file or directory"

/-- How serious a diagnostic is. -/
inductive Severity
  | warning
  | error
  deriving DecidableEq

/-- The name of a severity. -/
def Severity.name : Severity → String
  | warning => "warning"
  | error => "error"

/-- The severity that goes with each cause: an error where something that the source asks for is not
done, a warning where it is done otherwise or concerns nothing that is kept. -/
def Cause.severity : Cause → Severity
  | malformedDirective _ | malformedSource _ | missingLinkTarget _ _ | unwalkedPath _
  | unreadFile _ | missingInput => .error
  | unrecognizedLine _ | duplicateTitle _ | unusedDirective _ | missingParent _ _
  | ambiguousLinkTarget _ _ | staleLinkOrigin _ _ => .warning

/-- A diagnostic with its place. -/
structure Diagnostic where
  /-- The path that was being imported. -/
  file : Option Path
  /-- The line it is about, counted from 1. -/
  line : Option Nat
  cause : Cause
  deriving DecidableEq

namespace Diagnostic

/-- A diagnostic about a whole source. -/
def ofCause (cause : Cause) : Diagnostic := ⟨none, none, cause⟩

/-- A diagnostic about a line. -/
def atLine (line : Nat) (cause : Cause) : Diagnostic := ⟨none, some line, cause⟩

/-- The diagnostic, raised while this file was imported. -/
def inFile (file : Option Path) (d : Diagnostic) : Diagnostic := { d with file }

/-- How serious a diagnostic is. -/
def severity (d : Diagnostic) : Severity := d.cause.severity

/-- Whether it is an error. -/
def isError (d : Diagnostic) : Bool := d.severity = .error

/-- The wording of a diagnostic with its place in front. -/
def message (d : Diagnostic) : String :=
  match d.file, d.line with
  | some file, some line => file.text ++ ":" ++ Nat.repr line ++ ": " ++ d.cause.message
  | some file, none => file.text ++ ": " ++ d.cause.message
  | none, some line => "line " ++ Nat.repr line ++ ": " ++ d.cause.message
  | none, none => d.cause.message

end Diagnostic

end Dialogue
