import Dialogue.Ids

/-!
# Elements of a script

A dialogue script is read one element at a time: a header line, a directive, or a piece of content
that will become an entry of the conversation.

* A **header** names the conversation (`title:`) or who the player talks to (`npc:`).
* A **directive** says something about the next piece of content: its script, its condition, its
  sequence, its title, or where it links to.
* **Content** is a line that someone speaks, a reply of the player, a group, or a bare sequence.

The depth of an element is the number of tabs that its line starts with.
-/

namespace Dialogue.Script

/-- The words that open a header line or a directive. -/
inductive Marker
  | title
  | npc
  | script
  | condition
  | entryTitle
  | link
  | group
  | sequenceNode
  | sequence
  deriving DecidableEq

/-- The marker as it stands in a script. -/
def Marker.text : Marker → String
  | title => "title:"
  | npc => "npc:"
  | script => "<<script"
  | condition => "<<cond"
  | entryTitle => "<<title"
  | link => "<<link"
  | group => "<<group"
  | sequenceNode => "<<seqnode"
  | sequence => "<<seq"

/-- The text that closes every directive. -/
def closeMarker : String := ">>"

/-- The arrow that marks a reply of the player. -/
def replyArrow : String := "->"

/-- The conversation id that, in a link, stands for the conversation being written. -/
def currentConversation : String := "-1"

/-- A link to an entry by number. -/
structure NumericLink where
  /-- The conversation of the entry, or none for the conversation being written. -/
  conversation : Option ConversationId
  entry : EntryId
  deriving DecidableEq

/-- Something said about the next piece of content. -/
inductive Directive
  | script (body : String)
  | condition (body : String)
  | sequence (body : String)
  | title (text : String)
  | link (target : NumericLink)
  | titleLink (title : String)
  deriving DecidableEq

/-- What becomes an entry of the conversation. -/
inductive Content
  /-- A line spoken by a named actor. -/
  | speak (actor text : String)
  /-- A line spoken by the player. -/
  | reply (text : String)
  /-- A group, with the text that stands on its line. -/
  | group (title : String)
  /-- A sequence on its own. -/
  | sequenceNode (sequence : String)
  deriving DecidableEq

/-- What a line, or a block of lines, of a script is. -/
inductive ElementKind
  | title (text : String)
  | conversant (name : String)
  | directive (directive : Directive)
  | content (content : Content)
  deriving DecidableEq

/-- One element, with the number of the line that it starts on and the depth of that line. -/
structure Element where
  line : Nat
  depth : Nat
  kind : ElementKind
  deriving DecidableEq

/-- What can be wrong with a header line or a directive. -/
inductive DirectiveError
  | missingArgument (marker : Marker)
  | unterminated (marker : Marker)
  deriving DecidableEq

/-- The wording of a malformed header line or directive. -/
def DirectiveError.message : DirectiveError → String
  | missingArgument marker => marker.text ++ " directive has no argument"
  | unterminated marker => marker.text ++ " block is never closed with '>>'"

/-- Why a line gives no element. -/
inductive LexError
  | unrecognized (line : Nat) (text : String)
  | directive (line : Nat) (error : DirectiveError)
  deriving DecidableEq

end Dialogue.Script
