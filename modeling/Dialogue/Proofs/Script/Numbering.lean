import Dialogue.Proofs.Conversation.Outline
import Dialogue.Proofs.Script.Items

/-!
# Line numbers are only carried along

A script whose lines are numbered otherwise has the same items, nodes and diagnostics, with the new
numbers in them (`lexLines_renumbered`, `buildForest_renumbered`). No number decides anything, so
the outline of a forest has none (`outline?_renumbered`), and two scripts whose items differ in
their numbers alone are the same script otherwise (`parse_renumbered`).
-/

namespace Dialogue

/-- The diagnostic with another line, if it is about one. -/
def Diagnostic.renumbered (f : Nat → Nat) (d : Diagnostic) : Diagnostic :=
  { d with line := d.line.map f }

namespace Script

open Dialogue.Text

/-- The line with another number. -/
def Line.renumbered (f : Nat → Nat) (l : Line) : Line := { l with number := f l.number }

/-- The element with another line. -/
def Element.renumbered (f : Nat → Nat) (e : Element) : Element := { e with line := f e.line }

/-- The error with another line. -/
def LexError.renumbered (f : Nat → Nat) : LexError → LexError
  | unrecognized line text => unrecognized (f line) text
  | directive line error => directive (f line) error

/-- The item with another line. -/
def renumberedItem (f : Nat → Nat) : Except LexError Element → Except LexError Element
  | .ok e => .ok (e.renumbered f)
  | .error e => .error (e.renumbered f)

/-- The node with another line. -/
def Node.renumbered (f : Nat → Nat) (n : Node) : Node := { n with line := f n.line }

variable (f : Nat → Nat)

/-! ## The items -/

theorem splitBlock?_renumbered (ls : List Line) :
    splitBlock? (ls.map (·.renumbered f)) =
      (splitBlock? ls).map (Prod.map (List.map (·.renumbered f)) (List.map (·.renumbered f))) := by
  induction ls with
  | nil => rfl
  | cons l ls ih =>
    rw [List.map_cons, splitBlock?, splitBlock?, ih]
    cases hclose : occursIn closeMarker.toList l.text
    · rcases splitBlock? ls with _ | ⟨body, rest⟩ <;> simp [Line.renumbered, hclose]
    · simp [Line.renumbered, hclose]

theorem blockBody_renumbered (marker : Marker) (body : List Line) :
    blockBody marker (body.map (·.renumbered f)) = blockBody marker body := by
  simp [blockBody, Line.renumbered, Function.comp_def]

/-- Line numbers are only carried along. -/
theorem lexLines_renumbered (ls : List Line) :
    lexLines (ls.map (·.renumbered f)) = (lexLines ls).map (renumberedItem f) := by
  induction ls using lexLines.induct with
  | case1 => simp
  | case2 l ls hs ih =>
    rw [List.map_cons, lexLines_separator hs, lexLines_separator (l := l.renumbered f) hs, ih]
  | case3 l ls hs kind hc ih =>
    rw [Bool.not_eq_true] at hs
    rw [List.map_cons, lexLines_whole hs hc, lexLines_whole (l := l.renumbered f) hs hc, ih]
    rfl
  | case4 l ls hs error hc ih =>
    rw [Bool.not_eq_true] at hs
    rw [List.map_cons, lexLines_malformed hs hc, lexLines_malformed (l := l.renumbered f) hs hc, ih]
    rfl
  | case5 l ls hs hc ih =>
    rw [Bool.not_eq_true] at hs
    rw [List.map_cons, lexLines_unrecognized hs hc,
      lexLines_unrecognized (l := l.renumbered f) hs hc, ih]
    rfl
  | case6 l ls hs block hc hsplit =>
    rw [Bool.not_eq_true] at hs
    have hsplit' := splitBlock?_renumbered f (l :: ls)
    rw [hsplit, Option.map_none, List.map_cons] at hsplit'
    rw [List.map_cons, lexLines_unterminated hs hc hsplit,
      lexLines_unterminated (l := l.renumbered f) hs hc hsplit']
    rfl
  | case7 l ls hs block hc body rest hsplit ih =>
    rw [Bool.not_eq_true] at hs
    have hsplit' := splitBlock?_renumbered f (l :: ls)
    rw [hsplit, Option.map_some, List.map_cons] at hsplit'
    rw [List.map_cons, lexLines_block hs hc hsplit,
      lexLines_block (l := l.renumbered f) hs hc hsplit', ih, blockBody_renumbered]
    rfl

/-- An item without its line. -/
def unnumbered : Except LexError Element → Except LexError Element :=
  renumberedItem fun _ => 0

/-- What the lines of a script give is settled by their texts, but for the numbers. -/
theorem lexLines_congr {ls ls' : List Line} (h : ls'.map Line.text = ls.map Line.text) :
    (lexLines ls').map unnumbered = (lexLines ls).map unnumbered := by
  have htext : ∀ ls : List Line, ls.map (·.renumbered fun _ => 0) =
      (ls.map Line.text).map fun text => ⟨0, text⟩ := by
    intro ls
    rw [List.map_map]
    rfl
  unfold unnumbered
  rw [← lexLines_renumbered, ← lexLines_renumbered, htext, htext, h]

/-! ## The forest -/

/-- The construction with other lines. -/
def Growth.renumbered (g : Growth) : Growth where
  nodes := g.nodes.map (·.renumbered f)
  held := g.held
  diagnostics := g.diagnostics.map (·.renumbered f)

/-- What is read with other lines. -/
def Parsed.renumbered (p : Parsed) : Parsed where
  forest := p.forest.map (List.map (·.renumbered f))
  diagnostics := p.diagnostics.map (·.renumbered f)

theorem nextNodeId_renumbered (nodes : Forest) :
    Forest.nextNodeId (nodes.map (·.renumbered f)) = nodes.nextNodeId := by
  simp [Forest.nextNodeId, Node.renumbered, Function.comp_def]

theorem parentFor_renumbered (nodes : Forest) (depth : Nat) :
    Forest.parentFor (nodes.map (·.renumbered f)) depth = nodes.parentFor depth := by
  have hlast : (nodes.map (·.renumbered f)).getLast? = nodes.getLast?.map (·.renumbered f) :=
    List.getLast?_map
  have hfind : Forest.lastAtDepth? (nodes.map (·.renumbered f)) depth =
      (nodes.lastAtDepth? depth).map (·.renumbered f) := by
    rw [Forest.lastAtDepth?, Forest.lastAtDepth?, ← List.map_reverse, List.find?_map]
    rfl
  unfold Forest.parentFor
  rw [hlast, hfind]
  rcases nodes.getLast? with _ | previous
  · rfl
  · rcases nodes.lastAtDepth? depth with _ | sibling <;> simp [Node.renumbered]

theorem grow_renumbered (nodes : Forest) (line depth : Nat) (kind : NodeKind) :
    Forest.grow (nodes.map (·.renumbered f)) (f line) depth kind =
      (nodes.grow line depth kind).map (·.renumbered f) := by
  unfold Forest.grow
  rw [nextNodeId_renumbered, parentFor_renumbered, List.map_append]
  rfl

theorem step_renumbered (g : Growth) (e : Element) :
    (g.renumbered f).step (e.renumbered f) = (g.step e).renumbered f := by
  have hheld : ∀ place, (g.held.unattached (some (f e.line)) place) =
      (g.held.unattached (some e.line) place).map (·.renumbered f) := by
    intro place
    unfold Fields.unattached
    split <;> rfl
  rcases e with ⟨line, depth, kind⟩
  cases kind with
  | directive directive => rfl
  | title text => simp [Growth.step, Element.renumbered, Growth.renumbered, Diagnostic.renumbered,
      Diagnostic.atLine]
  | conversant name =>
    simp [Growth.step, Element.renumbered, Growth.renumbered, grow_renumbered, hheld]
  | content content => simp [Growth.step, Element.renumbered, Growth.renumbered, grow_renumbered]

theorem foldl_step_renumbered (g : Growth) (elements : List Element) :
    (elements.map (·.renumbered f)).foldl Growth.step (g.renumbered f) =
      (elements.foldl Growth.step g).renumbered f := by
  induction elements generalizing g with
  | nil => rfl
  | cons e elements ih => rw [List.map_cons, List.foldl_cons, step_renumbered, ih, List.foldl_cons]

theorem buildForest_renumbered (elements : List Element) :
    buildForest (elements.map (·.renumbered f)) = (buildForest elements).renumbered f := by
  rcases elements with _ | ⟨⟨line, depth, kind⟩, rest⟩
  · rfl
  · cases kind with
    | title title =>
      have hrest := foldl_step_renumbered f (.start line depth title) rest
      have hend : ∀ held : Fields, (held.unattached none .endOfFile).map (·.renumbered f) =
          held.unattached none .endOfFile := by
        intro held
        unfold Fields.unattached
        split <;> rfl
      have hstart : (Growth.start line depth title).renumbered f =
          .start (f line) depth title := rfl
      rw [hstart] at hrest
      simp only [List.map_cons, buildForest, Element.renumbered, Parsed.renumbered] at hrest ⊢
      rw [hrest]
      simp [Growth.renumbered, Except.map, hend]
    | directive directive => rfl
    | conversant name => rfl
    | content content => rfl

theorem outline?_renumbered (nodes : Forest) :
    Forest.outline? (nodes.map (·.renumbered f)) = nodes.outline? := by
  rcases nodes with _ | ⟨⟨id, depth, line, parent, kind⟩, rest⟩
  · rfl
  · cases kind with
    | title title =>
      change some ((rest.map (·.renumbered f)).foldl Outline.add (.blank title)) = _
      rw [List.foldl_map]
      rfl
    | conversant name => rfl
    | entry content fields => rfl

/-- Scripts whose items differ in their lines alone are read alike but for the lines. -/
theorem parse_renumbered {source source' : String}
    (h : (lex source').map (renumberedItem f) = (lex source).map (renumberedItem f)) :
    (parse source').renumbered f = (parse source).renumbered f := by
  have helements : ∀ items : List (Except LexError Element),
      elementsOf (items.map (renumberedItem f)) = (elementsOf items).map (·.renumbered f) := by
    intro items
    rw [elementsOf, elementsOf, List.filterMap_map, List.map_filterMap]
    refine List.filterMap_congr fun item _ => ?_
    cases item <;> rfl
  have herrors : ∀ items : List (Except LexError Element),
      (errorsOf (items.map (renumberedItem f))).map LexError.diagnostic =
        ((errorsOf items).map LexError.diagnostic).map (·.renumbered f) := by
    intro items
    rw [errorsOf, errorsOf, List.filterMap_map, List.map_filterMap, List.map_filterMap,
      List.map_filterMap]
    refine List.filterMap_congr fun item _ => ?_
    rcases item with ⟨line, text⟩ | ⟨line, error⟩ | e <;> rfl
  have hbuilt := congrArg (fun items => buildForest (elementsOf items)) h
  have hreported := congrArg (fun items => (errorsOf items).map LexError.diagnostic) h
  simp only [helements, herrors, buildForest_renumbered] at hbuilt hreported
  simp only [Parsed.renumbered, Parsed.mk.injEq] at hbuilt
  simp only [parse, Parsed.renumbered, List.map_append, hbuilt.1, hbuilt.2, hreported]

end Script

end Dialogue
