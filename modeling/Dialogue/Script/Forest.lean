import Dialogue.Diagnostic
import Dialogue.Script.Lexer

/-!
# The forest of a script

Elements become the nodes of a forest. The first element must be the title; after it, every `npc:`
line and every piece of content makes one node, in order, and a node comes after its parent.

**Directives** make no node. They are held, and the next piece of content takes them: all of them,
except that a group leaves a held title and a bare sequence leaves a held sequence for the node
after it. A later directive of the same kind takes the place of an earlier one, and a blank one
clears it; links add up. An `npc:` line discards what is held, and so does the end of the script,
each with a warning if there was anything.

**Parents** are found by depth. A node that is at least as deep as the node just before it hangs
from that node, or from nothing if that is a header line. A node that is less deep stands beside the
latest node of exactly its depth and shares its parent; if there is none, it hangs from nothing.
-/

namespace Dialogue.Script

/-- What the directives before a piece of content say about it. -/
structure Fields where
  title : Option String
  script : Option String
  condition : Option String
  sequence : Option String
  links : List NumericLink
  titleLinks : List String
  deriving DecidableEq

/-- Nothing said. -/
def Fields.none : Fields := ⟨.none, .none, .none, .none, [], []⟩

/-- Whether nothing is said. -/
def Fields.isEmpty (f : Fields) : Bool := f = .none

/-- The text, unless it is all blank. -/
def nonBlank (text : String) : Option String :=
  if Text.isAllBlank text.toList then .none else some text

theorem nonBlank_getD (text fallback : String) :
    (nonBlank text).getD fallback = if Text.isAllBlank text.toList then fallback else text := by
  unfold nonBlank
  split <;> rfl

/-- The fields with one more directive. -/
def Fields.hold (f : Fields) : Directive → Fields
  | .script body => { f with script := nonBlank body }
  | .condition body => { f with condition := nonBlank body }
  | .sequence body => { f with sequence := nonBlank body }
  | .title text => { f with title := nonBlank text }
  | .link target => { f with links := f.links ++ [target] }
  | .titleLink title => { f with titleLinks := f.titleLinks ++ [title] }

/-- The part of the held fields that this content takes. -/
def Fields.takenBy (f : Fields) : Content → Fields
  | .speak _ _ | .reply _ => f
  | .group _ => { f with title := .none }
  | .sequenceNode _ => { f with sequence := .none }

/-- The part of the held fields that this content leaves. -/
def Fields.leftBy (f : Fields) : Content → Fields
  | .speak _ _ | .reply _ => .none
  | .group _ => { Fields.none with title := f.title }
  | .sequenceNode _ => { Fields.none with sequence := f.sequence }

/-- What a node stands for. -/
inductive NodeKind
  | title (text : String)
  | conversant (name : String)
  /-- An entry of the conversation, with what its directives say about it. -/
  | entry (content : Content) (fields : Fields)
  deriving DecidableEq

/-- Whether the node is a header line. What stands under one hangs from nothing. -/
def NodeKind.isHeader : NodeKind → Bool
  | title _ | conversant _ => true
  | entry _ _ => false

/-- A node of the forest. -/
structure Node where
  id : EntryId
  depth : Nat
  line : Nat
  /-- The place of the parent in the list of nodes. -/
  parent : Option Nat
  kind : NodeKind
  deriving DecidableEq

/-- The nodes of a script, in the order in which they were made. -/
abbrev Forest := List Node

/-- The id of a further node: the number of nodes so far, or if that is taken the id after the
largest. -/
def Forest.nextNodeId (nodes : Forest) : EntryId :=
  let count := nodes.length
  if nodes.any (·.id = count) then ((nodes.map (·.id)).max?.map (· + 1)).getD 0 else count

/-- The last node of exactly this depth. -/
def Forest.lastAtDepth? (nodes : Forest) (depth : Nat) : Option Node :=
  nodes.reverse.find? (·.depth = depth)

/-- The parent of a further node of this depth. -/
def Forest.parentFor (nodes : Forest) (depth : Nat) : Option Nat :=
  match nodes.getLast? with
  | none => none
  | some previous =>
    if previous.depth ≤ depth then
      if previous.kind.isHeader then none else some (nodes.length - 1)
    else (nodes.lastAtDepth? depth).bind Node.parent

/-- The forest with one more node. -/
def Forest.grow (nodes : Forest) (line depth : Nat) (kind : NodeKind) : Forest :=
  nodes ++ [⟨nodes.nextNodeId, depth, line, nodes.parentFor depth, kind⟩]

/-- A forest under construction: the nodes made, the directives held, and what was remarked. -/
structure Growth where
  nodes : Forest
  held : Fields
  diagnostics : List Diagnostic
  deriving DecidableEq

/-- The warning about directives that nothing takes, if there are any. -/
def Fields.unattached (f : Fields) (line : Option Nat) (place : Unattached) : List Diagnostic :=
  if f.isEmpty then [] else [⟨.none, line, .unusedDirective place⟩]

/-- The construction with one more element. -/
def Growth.step (g : Growth) (e : Element) : Growth :=
  match e.kind with
  | .directive directive => { g with held := g.held.hold directive }
  | .title text =>
    { g with diagnostics := g.diagnostics ++ [.atLine e.line (.duplicateTitle text)] }
  | .conversant name =>
    { nodes := g.nodes.grow e.line e.depth (.conversant name)
      held := .none
      diagnostics := g.diagnostics ++ g.held.unattached (some e.line) .beforeConversant }
  | .content content =>
    { g with
      nodes := g.nodes.grow e.line e.depth (.entry content (g.held.takenBy content))
      held := g.held.leftBy content }

/-- The construction that starts with a title. -/
def Growth.start (line depth : Nat) (title : String) : Growth :=
  ⟨[⟨0, depth, line, none, .title title⟩], .none, []⟩

/-- What reading a script gives: the forest, if there is one, and the diagnostics raised. -/
structure Parsed where
  forest : Except StructureError Forest
  diagnostics : List Diagnostic

/-- The forest of a list of elements, which must start with a title. -/
def buildForest : List Element → Parsed
  | [] => ⟨.error .empty, []⟩
  | first :: rest =>
    match first.kind with
    | .title title =>
      let g := rest.foldl Growth.step (.start first.line first.depth title)
      ⟨.ok g.nodes, g.diagnostics ++ g.held.unattached none .endOfFile⟩
    | _ => ⟨.error .missingTitle, []⟩

/-- A forest that is built is what the elements after a title make of the title. -/
theorem exists_of_buildForest {elements : List Element} {nodes : Forest}
    (h : (buildForest elements).forest = .ok nodes) :
    ∃ line depth text rest, elements = ⟨line, depth, .title text⟩ :: rest ∧
      nodes = (rest.foldl Growth.step (.start line depth text)).nodes := by
  unfold buildForest at h
  split at h
  · cases h
  · next first rest =>
    obtain ⟨line, depth, kind⟩ := first
    split at h
    · next text hkind =>
      cases hkind
      cases h
      exact ⟨line, depth, text, rest, rfl, rfl⟩
    · cases h

/-- The diagnostic about a line that gives no element. -/
def LexError.diagnostic : LexError → Diagnostic
  | unrecognized line text => .atLine line (.unrecognizedLine text)
  | directive line error => .atLine line (.malformedDirective error)

/-- The elements among the items of a script. -/
def elementsOf (items : List (Except LexError Element)) : List Element :=
  items.filterMap Except.toOption

/-- The errors among the items of a script. -/
def errorsOf (items : List (Except LexError Element)) : List LexError :=
  items.filterMap fun
    | .ok _ => none
    | .error e => some e

/-- The forest of a script. Lines that give no element are reported and passed over. -/
def parse (source : String) : Parsed :=
  let items := lex source
  let built := buildForest (elementsOf items)
  { built with diagnostics := (errorsOf items).map LexError.diagnostic ++ built.diagnostics }

end Dialogue.Script
