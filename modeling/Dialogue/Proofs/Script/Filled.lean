import Mathlib.Data.List.Basic
import Dialogue.Proofs.Script.Forms
import Dialogue.Proofs.Script.Items
import Dialogue.Script.Forest

/-!
# Titles and names that a script gives are never blank

The reader refuses a header line without a value and a link without an argument. So the title of a
conversation, the name on an `npc:` line and the title that a link names all say something
(`ElementKind.Filled`), and the same holds of the nodes of the forest (`NodeKind.Filled`), which
take their texts from the elements as they are.
-/

namespace Dialogue.Script

open Dialogue.Text

/-- The values that must not be missing from an element are there. -/
def ElementKind.Filled : ElementKind → Prop
  | .title text | .conversant text => isAllBlank text.toList = false
  | .directive (.titleLink target) => target ≠ ""
  | .directive _ | .content _ => True

/-- The values that must not be missing from a node are there. -/
def NodeKind.Filled : NodeKind → Prop
  | .title text | .conversant text => isAllBlank text.toList = false
  | .entry _ fields => ∀ target ∈ fields.titleLinks, target ≠ ""

/-! ## Elements -/

theorem filled_of_classify {text : List Char} {k : ElementKind}
    (h : classify text = .whole k) : k.Filled := by
  have hline := ofLine_classify text
  rw [h] at hline
  cases hline with
  | title htext => exact htext
  | conversant hname => exact hname
  | titleLink htitle =>
    rintro rfl
    cases htitle
  | entryTitle | link | group | speak | reply => trivial

theorem Block.filled_kind (block : Block) (body : String) : (block.kind body).Filled := by
  cases block <;> trivial

/-- An element of a script stands on a line of the script. -/
theorem exists_line_of_mem_elementsOf {source : String} {e : Element}
    (h : e ∈ elementsOf (lex source)) :
    ∃ l ∈ sourceLines source.toList, e.line = l.number ∧
      (classify l.text = .whole e.kind ∨
        ∃ block body, classify l.text = .opens block ∧ e.kind = Block.kind body block) := by
  obtain ⟨item, hitem, hok⟩ := List.mem_filterMap.1 h
  rcases item with error | e'
  · cases hok
  · cases hok
    exact exists_line_of_mem_lexLines hitem

/-- Every element of a script has the values that it must have. -/
theorem filled_of_mem_elementsOf {source : String} {e : Element} (h : e ∈ elementsOf (lex source)) :
    e.kind.Filled := by
  obtain ⟨l, -, -, hwhole | ⟨block, body, -, hbody⟩⟩ := exists_line_of_mem_elementsOf h
  · exact filled_of_classify hwhole
  · rw [hbody]
    exact block.filled_kind body

/-! ## Nodes -/

/-- A construction all of whose nodes, and whose held links, have the values that they must have. -/
structure Growth.Filled (g : Growth) : Prop where
  nodes : ∀ n ∈ g.nodes, n.kind.Filled
  held : ∀ title ∈ g.held.titleLinks, title ≠ ""

theorem Fields.titleLinks_hold {f : Fields} (hf : ∀ title ∈ f.titleLinks, title ≠ "")
    {d : Directive} (hd : ElementKind.Filled (.directive d)) :
    ∀ title ∈ (f.hold d).titleLinks, title ≠ "" := by
  cases d with
  | titleLink t =>
      intro title h
      rcases List.mem_append.1 h with h | h
      · exact hf title h
      · rw [List.mem_singleton.1 h]
        exact hd
  | _ => exact hf

theorem Fields.titleLinks_takenBy (f : Fields) (content : Content) :
    (f.takenBy content).titleLinks = f.titleLinks := by
  cases content <;> rfl

theorem Fields.titleLinks_leftBy (f : Fields) (content : Content) :
    (f.leftBy content).titleLinks = [] := by
  cases content <;> rfl

/-- A node that is added has the values that it must have, if what it is made from has. -/
theorem filled_grow {nodes : Forest} (h : ∀ n ∈ nodes, n.kind.Filled) (line depth : Nat)
    {kind : NodeKind} (hkind : kind.Filled) : ∀ n ∈ nodes.grow line depth kind, n.kind.Filled := by
  intro n hn
  rcases List.mem_append.1 hn with hn | hn
  · exact h n hn
  · rw [List.mem_singleton.1 hn]
    exact hkind

theorem Growth.Filled.step {g : Growth} (h : g.Filled) {e : Element} (he : e.kind.Filled) :
    (g.step e).Filled := by
  unfold Growth.step
  split
  · next d hk => exact ⟨h.nodes, Fields.titleLinks_hold h.held (hk ▸ he)⟩
  · exact ⟨h.nodes, h.held⟩
  · next name hk =>
    have hkind : (NodeKind.conversant name).Filled := by
      rw [hk] at he
      exact he
    exact ⟨filled_grow h.nodes e.line e.depth hkind, by simp [Fields.none]⟩
  · next content hk =>
    have hkind : (NodeKind.entry content (g.held.takenBy content)).Filled := by
      intro title ht
      rw [Fields.titleLinks_takenBy] at ht
      exact h.held title ht
    refine ⟨filled_grow h.nodes e.line e.depth hkind, ?_⟩
    rw [Fields.titleLinks_leftBy]
    simp

theorem Growth.Filled.foldl_step {g : Growth} (h : g.Filled) {elements : List Element}
    (he : ∀ e ∈ elements, e.kind.Filled) : (elements.foldl Growth.step g).Filled := by
  induction elements generalizing g with
  | nil => exact h
  | cons e elements ih =>
      exact ih (h.step (he e List.mem_cons_self)) fun e' he' => he e' (List.mem_cons_of_mem e he')

/-- Every node of the forest of a script has the values that it must have. -/
theorem filled_of_parse {source : String} {nodes : Forest} (h : (parse source).forest = .ok nodes) :
    ∀ n ∈ nodes, n.kind.Filled := by
  have hall : ∀ e ∈ elementsOf (lex source), e.kind.Filled := fun e he =>
    filled_of_mem_elementsOf he
  obtain ⟨line, depth, title, rest, helems, rfl⟩ := exists_of_buildForest h
  rw [helems] at hall
  have htitle : isAllBlank title.toList = false := hall _ List.mem_cons_self
  have hstart : (Growth.start line depth title).Filled := by
    refine ⟨?_, by simp [Growth.start, Fields.none]⟩
    intro n hn
    rw [List.mem_singleton.1 hn]
    exact htitle
  exact (hstart.foldl_step fun e he => hall e (List.mem_cons_of_mem _ he)).nodes

end Dialogue.Script
