import Dialogue.Script.Element
import Dialogue.Text.Blank
import Dialogue.Text.Lines
import Dialogue.Text.Numeral
import Dialogue.Text.Pattern

/-!
# Reading the elements of a script

`lex` turns the text of a script into its elements, in order, with an error in the place of each
line that gives none.

* Lines are numbered from 1, and those that are all blank are then dropped, so a block never holds
  one. A line `---` or `===` separates and is skipped, but only between elements: inside a block it
  is part of the body.
* `classify` looks at one line alone. The forms are tried in a fixed order and the first that fits
  wins; markers can start with one another (`<<seqnode` and `<<seq`), so the order matters. Header
  lines must not be indented, every other form may be.
* A **block** directive runs from its line through the first line that holds `>>`, which may be the
  same one. Without such a line it runs to the end of the script and is an error there.
-/

namespace Dialogue.Script

open Dialogue.Text

/-- A numbered line of a script. -/
structure Line where
  number : Nat
  text : List Char
  deriving DecidableEq

/-- The directives whose body may run over several lines. -/
inductive Block
  | script
  | condition
  | sequenceNode
  | sequence
  deriving DecidableEq

/-- The marker that opens the block. -/
def Block.marker : Block → Marker
  | script => .script
  | condition => .condition
  | sequenceNode => .sequenceNode
  | sequence => .sequence

/-- The element that a block with this body is. -/
def Block.kind (body : String) : Block → ElementKind
  | script => .directive (.script body)
  | condition => .directive (.condition body)
  | sequenceNode => .content (.sequenceNode body)
  | sequence => .directive (.sequence body)

/-- What a line is, as far as the line alone can tell. -/
inductive Form
  /-- The whole of an element. -/
  | whole (kind : ElementKind)
  /-- The first line of a block. -/
  | opens (block : Block)
  /-- A header line or directive without its argument. -/
  | malformed (error : DirectiveError)
  /-- None of the forms. -/
  | unrecognized
  deriving DecidableEq

/-- The lines of a script that are not all blank, numbered from 1 with the others counted. -/
def sourceLines (source : List Char) : List Line :=
  ((lines (dropByteOrderMark source)).zipIdx 1).filterMap fun (text, number) =>
    if isAllBlank text then none else some ⟨number, text⟩

/-- The number of tabs at the start of a line. -/
def depthOf (text : List Char) : Nat :=
  (text.takeWhile (· = '\t')).length

/-- Whether the line only separates. -/
def isSeparator (text : List Char) : Bool :=
  trim text = ['-', '-', '-'] || trim text = ['=', '=', '=']

/-- The argument of a directive that stands on one line. -/
def inlineArgument (marker : Marker) (text : List Char) : List Char :=
  trim (eraseAll closeMarker.toList (eraseFirst marker.text.toList text))

/-- The conversation that the first of two numbers in a link names. -/
def linkConversation? (word : List Char) : Option (Option ConversationId) :=
  if word = currentConversation.toList then some none else (readId? word).map some

/-- The link by number that the words of an argument write, if they do. -/
def numericLink? : List (List Char) → Option NumericLink
  | [] => none
  | [entry] => (readId? entry).map fun e => ⟨none, e⟩
  | conversation :: entry :: _ => do
    let c ← linkConversation? conversation
    let e ← readId? entry
    some ⟨c, e⟩

/-- A link directive: by number when its words write one, else by the title that its argument is. -/
def linkForm (argument : List Char) : Form :=
  let ws := words argument
  if ws = [] then .malformed (.missingArgument .link)
  else
    match numericLink? ws with
    | some target => .whole (.directive (.link target))
    | none => .whole (.directive (.titleLink (String.ofList argument)))

/-- A header line: its value is what follows the marker, and must not be blank. -/
def headerForm (marker : Marker) (kind : String → ElementKind) (value : List Char) : Form :=
  if trim value = [] then .malformed (.missingArgument marker)
  else .whole (kind (String.ofList (trim value)))

/-- A spoken line: the speaker is what stands before the first colon that is not the first
character. -/
def speech? : List Char → Option Content
  | [] => none
  | c :: s =>
    match s.dropWhile (· ≠ ':') with
    | [] => none
    | _ :: text =>
      some (.speak (String.ofList (trim (c :: s.takeWhile (· ≠ ':'))))
        (String.ofList (trim text)))

/-- A reply: there is an arrow after the first character. Every arrow is dropped from its text. -/
def reply? : List Char → Option Content
  | [] => none
  | c :: s =>
    if occursIn replyArrow.toList s then
      some (.reply (String.ofList (trim (eraseAll replyArrow.toList (c :: s)))))
    else none

/-- A line that is no header and no directive. -/
def contentForm (text : List Char) : Form :=
  match speech? text with
  | some content => .whole (.content content)
  | none =>
    match reply? text with
    | some content => .whole (.content content)
    | none => .unrecognized

/-- What a line is. -/
def classify (text : List Char) : Form :=
  match dropPiece? Marker.title.text.toList text with
  | some value => headerForm .title .title value
  | none =>
  match dropPiece? Marker.npc.text.toList text with
  | some value => headerForm .npc .conversant value
  | none =>
  let opensWith (marker : Marker) : Bool := startsWith marker.text.toList (trim text)
  if opensWith .script then .opens .script
  else if opensWith .condition then .opens .condition
  else if opensWith .entryTitle then
    .whole (.directive (.title (String.ofList (inlineArgument .entryTitle text))))
  else if opensWith .link then linkForm (inlineArgument .link text)
  else if opensWith .group then
    .whole (.content (.group (String.ofList (inlineArgument .group text))))
  else if opensWith .sequenceNode then .opens .sequenceNode
  else if opensWith .sequence then .opens .sequence
  else contentForm text

/-- The lines through the first one that closes a block, and the lines after it. -/
def splitBlock? : List Line → Option (List Line × List Line)
  | [] => none
  | l :: ls =>
    if occursIn closeMarker.toList l.text then some ([l], ls)
    else (splitBlock? ls).map fun (block, rest) => (l :: block, rest)

/-- What remains after a block is shorter than what the block was taken from. -/
theorem length_of_splitBlock? {ls block rest : List Line}
    (h : splitBlock? ls = some (block, rest)) : rest.length < ls.length := by
  induction ls generalizing block rest with
  | nil => simp [splitBlock?] at h
  | cons l ls ih =>
    rw [splitBlock?] at h
    split at h
    · simp only [Option.some.injEq, Prod.mk.injEq] at h
      simp [← h.2]
    · simp only [Option.map_eq_some_iff, Prod.exists, Prod.mk.injEq] at h
      obtain ⟨block', rest', h', -, rfl⟩ := h
      exact Nat.lt_succ_of_lt (ih h')

/-- The body of a block: its lines, without the marker, the close marks and the tabs. -/
def blockBody (marker : Marker) (block : List Line) : String :=
  let raw := ['\n'].intercalate (block.map Line.text)
  String.ofList
    (trim ((eraseAll closeMarker.toList (eraseAll marker.text.toList raw)).filter (· ≠ '\t')))

/-- The elements of the given lines, with an error in the place of each line that gives none. -/
def lexLines : List Line → List (Except LexError Element)
  | [] => []
  | l :: ls =>
    if isSeparator l.text then lexLines ls
    else
      match classify l.text with
      | .whole kind => .ok ⟨l.number, depthOf l.text, kind⟩ :: lexLines ls
      | .malformed error => .error (.directive l.number error) :: lexLines ls
      | .unrecognized =>
        .error (.unrecognized l.number (String.ofList (trim l.text))) :: lexLines ls
      | .opens block =>
        match _h : splitBlock? (l :: ls) with
        | none => [.error (.directive l.number (.unterminated block.marker))]
        | some (body, rest) =>
          .ok ⟨l.number, depthOf l.text, block.kind (blockBody block.marker body)⟩ ::
            lexLines rest
termination_by ls => ls.length
decreasing_by
  all_goals first
    | exact Nat.lt_succ_self _
    | exact length_of_splitBlock? ‹_›

/-- The elements of a script, with an error in the place of each line that gives none. -/
def lex (source : String) : List (Except LexError Element) :=
  lexLines (sourceLines source.toList)

end Dialogue.Script
