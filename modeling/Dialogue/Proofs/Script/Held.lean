import Mathlib.Data.List.DropRight
import Mathlib.Data.List.Induction
import Dialogue.Script.Forest

/-!
# Which directives a node takes

What is held at any time is what stands since the last node (`heldAfter`): all links, and of every
kind of text the last one, which clears those before it even if it is blank. A title is held over
groups and a sequence over bare sequences, so for these two the stretch begins earlier. A node takes
all of it, except that a group has no title and a bare sequence no sequence of its own
(`Content.fieldsAfter`). That is all that building a forest does with directives
(`buildForest_fieldsAfter`); in particular what is held before an `npc:` line, or at the end, is
only warned about. A link is held as it stands, so one by a blank title is warned about too.
-/

namespace Dialogue.Script

/-! ## Stretches of elements -/

/-- Each element of a list, with those before it. -/
def beforeEach {α : Type} (l : List α) : List (List α × α) :=
  l.mapIdx fun i a => (l.take i, a)

/-- The elements after the last one of this kind. -/
def sinceLast (ends : Element → Bool) (before : List Element) : List Element :=
  before.rtakeWhile (!ends ·)

/-- Whether the content is a group. -/
def Content.isGroup : Content → Bool
  | .group _ => true
  | .speak _ _ | .reply _ | .sequenceNode _ => false

/-- Whether the content is a bare sequence. -/
def Content.isSequenceNode : Content → Bool
  | .sequenceNode _ => true
  | .speak _ _ | .reply _ | .group _ => false

namespace Element

/-- The directive that the element is, if it is one. -/
def directive? (e : Element) : Option Directive :=
  match e.kind with
  | .directive directive => some directive
  | .title _ | .conversant _ | .content _ => none

/-- Whether the element, after the first one, makes a node. -/
def makesNode (e : Element) : Bool :=
  match e.kind with
  | .conversant _ | .content _ => true
  | .title _ | .directive _ => false

/-- Whether the element makes a node that takes a title. -/
def takesTitle (e : Element) : Bool :=
  match e.kind with
  | .conversant _ => true
  | .content content => !content.isGroup
  | .title _ | .directive _ => false

/-- Whether the element makes a node that takes a sequence. -/
def takesSequence (e : Element) : Bool :=
  match e.kind with
  | .conversant _ => true
  | .content content => !content.isSequenceNode
  | .title _ | .directive _ => false

end Element

/-- What the directives among the elements say, as far as it is picked. -/
def saidBy {α : Type} (pick : Directive → Option α) (elements : List Element) : List α :=
  elements.filterMap fun e => e.directive?.bind pick

/-- The last text that is picked, unless it is blank. -/
def lastText (pick : Directive → Option String) (elements : List Element) : Option String :=
  (saidBy pick elements).getLast?.bind fun text =>
    if Text.isAllBlank text.toList then none else some text

/-- What is held after these elements. -/
def heldAfter (before : List Element) : Fields where
  title := lastText (fun | .title text => some text | _ => none) (sinceLast (·.takesTitle) before)
  script := lastText (fun | .script body => some body | _ => none) (sinceLast (·.makesNode) before)
  condition :=
    lastText (fun | .condition body => some body | _ => none) (sinceLast (·.makesNode) before)
  sequence :=
    lastText (fun | .sequence body => some body | _ => none) (sinceLast (·.takesSequence) before)
  links := saidBy (fun | .link target => some target | _ => none) (sinceLast (·.makesNode) before)
  titleLinks :=
    saidBy (fun | .titleLink title => some title | _ => none) (sinceLast (·.makesNode) before)

/-- What a node takes after these elements. -/
def Content.fieldsAfter (before : List Element) (content : Content) : Fields :=
  { heldAfter before with
    title := if content.isGroup then none else (heldAfter before).title
    sequence := if content.isSequenceNode then none else (heldAfter before).sequence }

/-- What kind of node an element makes after these elements, if any. -/
def nodeKindAfter (before : List Element) (e : Element) : Option NodeKind :=
  match e.kind with
  | .conversant name => some (.conversant name)
  | .content content => some (.entry content (content.fieldsAfter before))
  | .title _ | .directive _ => none

/-- Whether anything is held after these elements: a text that is not blank, or a link, by number or
by a title as it stands. -/
def isHolding (before : List Element) : Bool :=
  let held := heldAfter before
  held.title.isSome || held.script.isSome || held.condition.isSome || held.sequence.isSome ||
    held.links.length > 0 || held.titleLinks.length > 0

/-- The warning, if something is held after these elements, that nothing takes it. -/
def heldWarning (before : List Element) (line : Option Nat) (place : Unattached) :
    Option Diagnostic :=
  if isHolding before then some ⟨none, line, .unusedDirective place⟩ else none

/-- What is remarked on an element after these elements. -/
def remarkAfter (before : List Element) (e : Element) : Option Diagnostic :=
  match e.kind with
  | .title text => some (.atLine e.line (.duplicateTitle text))
  | .conversant _ => heldWarning before (some e.line) .beforeConversant
  | .directive _ | .content _ => none

/-- The nodes that elements make, each with its line, its depth and its kind. -/
def nodesOf (elements : List Element) : List (Nat × Nat × NodeKind) :=
  (beforeEach elements).filterMap fun (before, e) =>
    (nodeKindAfter before e).map fun kind => (e.line, e.depth, kind)

/-- What is remarked on elements, one after another. -/
def remarksOn (elements : List Element) : List Diagnostic :=
  (beforeEach elements).filterMap fun (before, e) => remarkAfter before e

theorem beforeEach_append_singleton {α : Type} (l : List α) (a : α) :
    beforeEach (l ++ [a]) = beforeEach l ++ [(l, a)] := by
  have hlast : (l ++ [a]).take l.length = l := List.take_left
  unfold beforeEach
  rw [List.mapIdx_concat, hlast]
  congr 1
  refine List.ext_getElem (by simp) fun i hi _ => ?_
  have hi : i < l.length := by simpa using hi
  simp [List.take_append_of_le_length (Nat.le_of_lt hi)]

theorem nodesOf_append_singleton (before : List Element) (e : Element) :
    nodesOf (before ++ [e]) = nodesOf before ++
      ((nodeKindAfter before e).map fun kind => (e.line, e.depth, kind)).toList := by
  rw [nodesOf, beforeEach_append_singleton, List.filterMap_append]
  rfl

theorem remarksOn_append_singleton (before : List Element) (e : Element) :
    remarksOn (before ++ [e]) = remarksOn before ++ (remarkAfter before e).toList := by
  rw [remarksOn, beforeEach_append_singleton, List.filterMap_append]
  rfl

section said

variable {α : Type} {pick : Directive → Option α} {before : List Element} {e : Element}

theorem sinceLast_of_ends {ends : Element → Bool} (h : ends e = true) :
    sinceLast ends (before ++ [e]) = [] :=
  List.rtakeWhile_concat_neg _ _ _ (by simp [h])

theorem sinceLast_of_not_ends {ends : Element → Bool} (h : ends e = false) :
    sinceLast ends (before ++ [e]) = sinceLast ends before ++ [e] :=
  List.rtakeWhile_concat_pos _ _ _ (by simp [h])

theorem saidBy_append_singleton (elements : List Element) (e : Element) :
    saidBy pick (elements ++ [e]) = saidBy pick elements ++ (e.directive?.bind pick).toList :=
  List.filterMap_append

end said

/-! ## One element more -/

section step

variable {before : List Element} {e : Element}

theorem heldAfter_directive {directive : Directive} (h : e.kind = .directive directive) :
    heldAfter (before ++ [e]) = (heldAfter before).hold directive := by
  have hnode : e.makesNode = false := by rw [Element.makesNode, h]
  have htitle : e.takesTitle = false := by rw [Element.takesTitle, h]
  have hsequence : e.takesSequence = false := by rw [Element.takesSequence, h]
  have hsaid : e.directive? = some directive := by rw [Element.directive?, h]
  unfold heldAfter lastText
  rw [sinceLast_of_not_ends hnode, sinceLast_of_not_ends htitle, sinceLast_of_not_ends hsequence]
  simp only [saidBy_append_singleton, hsaid]
  cases directive <;> simp [Fields.hold, nonBlank]

theorem heldAfter_title {text : String} (h : e.kind = .title text) :
    heldAfter (before ++ [e]) = heldAfter before := by
  have hnode : e.makesNode = false := by rw [Element.makesNode, h]
  have htitle : e.takesTitle = false := by rw [Element.takesTitle, h]
  have hsequence : e.takesSequence = false := by rw [Element.takesSequence, h]
  have hsaid : e.directive? = none := by rw [Element.directive?, h]
  unfold heldAfter lastText
  rw [sinceLast_of_not_ends hnode, sinceLast_of_not_ends htitle, sinceLast_of_not_ends hsequence]
  simp only [saidBy_append_singleton, hsaid, Option.bind_none, Option.toList_none,
    List.append_nil]

theorem heldAfter_conversant {name : String} (h : e.kind = .conversant name) :
    heldAfter (before ++ [e]) = .none := by
  have hnode : e.makesNode = true := by rw [Element.makesNode, h]
  have htitle : e.takesTitle = true := by rw [Element.takesTitle, h]
  have hsequence : e.takesSequence = true := by rw [Element.takesSequence, h]
  unfold heldAfter
  rw [sinceLast_of_ends hnode, sinceLast_of_ends htitle, sinceLast_of_ends hsequence]
  rfl

theorem heldAfter_content {content : Content} (h : e.kind = .content content) :
    heldAfter (before ++ [e]) = (heldAfter before).leftBy content := by
  have hnode : e.makesNode = true := by rw [Element.makesNode, h]
  have htitle : e.takesTitle = !content.isGroup := by rw [Element.takesTitle, h]
  have hsequence : e.takesSequence = !content.isSequenceNode := by rw [Element.takesSequence, h]
  have hsaid : e.directive? = none := by rw [Element.directive?, h]
  unfold heldAfter
  rw [sinceLast_of_ends hnode]
  cases content with
  | speak actor text =>
    rw [sinceLast_of_ends htitle, sinceLast_of_ends hsequence]
    rfl
  | reply text =>
    rw [sinceLast_of_ends htitle, sinceLast_of_ends hsequence]
    rfl
  | group title =>
    rw [sinceLast_of_not_ends htitle, sinceLast_of_ends hsequence]
    simp only [lastText, saidBy_append_singleton, hsaid, Option.bind_none, Option.toList_none,
      List.append_nil]
    rfl
  | sequenceNode sequence =>
    rw [sinceLast_of_ends htitle, sinceLast_of_not_ends hsequence]
    simp only [lastText, saidBy_append_singleton, hsaid, Option.bind_none, Option.toList_none,
      List.append_nil]
    rfl

/-- What is taken of what is held. -/
theorem takenBy_heldAfter (before : List Element) (content : Content) :
    (heldAfter before).takenBy content = content.fieldsAfter before := by
  cases content <;> rfl

/-- Something is held unless all of it is empty. -/
theorem isHolding_eq (before : List Element) : isHolding before = !(heldAfter before).isEmpty := by
  obtain ⟨held, hheld⟩ : ∃ held, heldAfter before = held := ⟨_, rfl⟩
  rw [isHolding, hheld, Fields.isEmpty]
  obtain ⟨_ | _, _ | _, _ | _, _ | _, _ | _, _ | _⟩ := held <;> simp [Fields.none]

theorem unattached_heldAfter (before : List Element) (line : Option Nat) (place : Unattached) :
    (heldAfter before).unattached line place = (heldWarning before line place).toList := by
  rw [Fields.unattached, heldWarning, isHolding_eq]
  cases (heldAfter before).isEmpty <;> rfl

end step

/-- A construction that has come as far as these elements, after the first one. -/
structure Growth.After (g : Growth) (first : Element) (text : String) (before : List Element) :
    Prop where
  nodes : g.nodes.map (fun n => (n.line, n.depth, n.kind)) =
    (first.line, first.depth, .title text) :: nodesOf before
  held : g.held = heldAfter before
  diagnostics : g.diagnostics = remarksOn before

namespace Growth.After

variable {g : Growth} {first : Element} {text : String} {before : List Element}

theorem start (first : Element) (text : String) :
    (Growth.start first.line first.depth text).After first text [] where
  nodes := rfl
  held := rfl
  diagnostics := rfl

/-- The node that is added is the one that the element makes. -/
theorem nodes_grow (h : g.After first text before) {e : Element} {kind : NodeKind}
    (hkind : nodeKindAfter before e = some kind) :
    (g.nodes.grow e.line e.depth kind).map (fun n => (n.line, n.depth, n.kind)) =
      (first.line, first.depth, .title text) :: nodesOf (before ++ [e]) := by
  rw [Forest.grow, List.map_append, h.nodes, nodesOf_append_singleton, hkind]
  rfl

/-- Every element goes one further. -/
theorem step (h : g.After first text before) (e : Element) :
    (g.step e).After first text (before ++ [e]) := by
  unfold Growth.step
  split
  · next directive hk =>
    constructor
    case nodes => rw [nodesOf_append_singleton, nodeKindAfter, hk, h.nodes]; simp
    case held => rw [heldAfter_directive hk, h.held]
    case diagnostics => rw [remarksOn_append_singleton, remarkAfter, hk, h.diagnostics]; simp
  · next title hk =>
    constructor
    case nodes => rw [nodesOf_append_singleton, nodeKindAfter, hk, h.nodes]; simp
    case held => rw [heldAfter_title hk, h.held]
    case diagnostics => rw [remarksOn_append_singleton, remarkAfter, hk, h.diagnostics]; rfl
  · next name hk =>
    constructor
    case nodes => exact h.nodes_grow (by rw [nodeKindAfter, hk])
    case held => exact (heldAfter_conversant hk).symm
    case diagnostics =>
      rw [remarksOn_append_singleton, remarkAfter, hk, h.diagnostics, h.held, unattached_heldAfter]
  · next content hk =>
    constructor
    case nodes =>
      rw [h.held, takenBy_heldAfter]
      exact h.nodes_grow (by rw [nodeKindAfter, hk])
    case held => rw [heldAfter_content hk, h.held]
    case diagnostics => rw [remarksOn_append_singleton, remarkAfter, hk, h.diagnostics]; simp

theorem foldl_step (first : Element) (text : String) (elements : List Element) :
    (elements.foldl Growth.step (.start first.line first.depth text)).After first text
      elements := by
  induction elements using List.reverseRecOn with
  | nil => exact start first text
  | append_singleton elements e ih =>
    rw [List.foldl_append]
    exact ih.step e

end Growth.After

/-- What becomes of the directives of a script. After its title, every `npc:` line and every piece
of content makes one node, in order, and a piece of content has just those fields that the
directives before it say. What is held at an `npc:` line is dropped, with one warning if there is
anything, and so it is at the end. -/
theorem buildForest_fieldsAfter (line depth : Nat) (text : String) (rest : List Element) :
    ∃ nodes, (buildForest (⟨line, depth, .title text⟩ :: rest)).forest = .ok nodes ∧
      nodes.map (fun n => (n.line, n.depth, n.kind)) =
        (line, depth, .title text) :: nodesOf rest ∧
      (buildForest (⟨line, depth, .title text⟩ :: rest)).diagnostics =
        remarksOn rest ++ (heldWarning rest none .endOfFile).toList := by
  have hall := Growth.After.foldl_step ⟨line, depth, .title text⟩ text rest
  refine ⟨_, rfl, hall.nodes, ?_⟩
  rw [← hall.diagnostics, ← unattached_heldAfter, ← hall.held]
  rfl

/-- Whether the directive says nothing but blanks, which a link by number never does. -/
def Directive.isBlank : Directive → Bool
  | .script text | .condition text | .sequence text | .title text | .titleLink text =>
    Text.isAllBlank text.toList
  | .link _ => false

/-- A warning that nothing takes what is held does not mean that any of it is not blank. -/
theorem buildForest_blankTitleLink :
    ¬ ∀ elements : List Element, (∀ e ∈ elements, e.directive?.all Directive.isBlank = true) →
        ∀ d ∈ (buildForest elements).diagnostics, ∀ place, d.cause ≠ .unusedDirective place := by
  intro h
  have hblank := h [⟨1, 0, .title "a"⟩, ⟨2, 0, .directive (.titleLink "")⟩] (by decide)
  have hwarned : (⟨none, none, .unusedDirective .endOfFile⟩ : Diagnostic) ∈
      (buildForest [⟨1, 0, .title "a"⟩, ⟨2, 0, .directive (.titleLink "")⟩]).diagnostics := by
    decide
  exact hblank _ hwarned .endOfFile rfl

end Dialogue.Script
