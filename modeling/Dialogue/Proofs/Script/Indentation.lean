import Mathlib.Data.List.Find
import Mathlib.Data.Nat.Basic
import Mathlib.Order.Monotone.Basic
import Dialogue.Assembly

/-!
# Only relative indentation matters

Where the header lines come first, the depths of the content count only in comparison with one
another: any change that keeps their order gives the same forest but for the depths
(`buildForest_reindented`), and so the same conversation.

The header lines keep their own depth, so a search for an earlier node of the same depth may find
one of them before the change and not after it, or the other way round. It makes no difference, as
all header lines hang from nothing (`Forest.Headed`): a node that stands beside one hangs from
nothing, just like a node that stands beside no other.
-/

namespace Dialogue

namespace Script

/-- Whether the element is a piece of content. -/
def Element.isContent (e : Element) : Bool :=
  match e.kind with
  | .content _ => true
  | .title _ | .conversant _ | .directive _ => false

/-- Whether the element is a header line. -/
def Element.isHeader (e : Element) : Bool :=
  match e.kind with
  | .title _ | .conversant _ => true
  | .directive _ | .content _ => false

/-- No header line comes after a piece of content. -/
def HeadersFirst (elements : List Element) : Prop :=
  elements.Pairwise fun e e' => e.isContent = true → e'.isHeader = false

/-- The depths at which there is content. -/
def contentDepths (elements : List Element) : Set Nat :=
  {depth | ∃ e ∈ elements, e.isContent = true ∧ e.depth = depth}

variable (f : Nat → Nat)

/-- The element with another depth, if it is content. -/
def Element.reindented (e : Element) : Element :=
  if e.isContent then { e with depth := f e.depth } else e

/-- The node with another depth, if it is an entry. -/
def Node.reindented (n : Node) : Node :=
  if n.kind.isHeader then n else { n with depth := f n.depth }

/-- The construction with other depths for the entries. -/
def Growth.reindented (g : Growth) : Growth :=
  { g with nodes := g.nodes.map (Node.reindented f) }

/-- What is read, with other depths for the entries. -/
def Parsed.reindented (p : Parsed) : Parsed :=
  { p with forest := p.forest.map (List.map (Node.reindented f)) }

/-! ## What does not change -/

@[simp]
theorem Node.id_reindented (n : Node) : (n.reindented f).id = n.id := by
  unfold Node.reindented
  split <;> rfl

@[simp]
theorem Node.line_reindented (n : Node) : (n.reindented f).line = n.line := by
  unfold Node.reindented
  split <;> rfl

@[simp]
theorem Node.parent_reindented (n : Node) : (n.reindented f).parent = n.parent := by
  unfold Node.reindented
  split <;> rfl

@[simp]
theorem Node.kind_reindented (n : Node) : (n.reindented f).kind = n.kind := by
  unfold Node.reindented
  split <;> rfl

theorem Node.reindented_of_header {n : Node} (h : n.kind.isHeader = true) : n.reindented f = n := by
  rw [Node.reindented, if_pos h]

theorem Node.depth_reindented {n : Node} (h : n.kind.isHeader = false) :
    (n.reindented f).depth = f n.depth := by
  rw [Node.reindented, if_neg (by simp [h])]

theorem Forest.nextNodeId_reindented (nodes : Forest) :
    Forest.nextNodeId (nodes.map (Node.reindented f)) = nodes.nextNodeId := by
  simp [Forest.nextNodeId, Function.comp_def]

/-! ## Header lines hang from nothing -/

/-- A node that is a header line and hangs from nothing. -/
def Node.IsTop (n : Node) : Prop := n.kind.isHeader = true ∧ n.parent = none

/-- Header lines that hang from nothing, and behind them entries of these depths. -/
def Forest.Headed (depths : Set Nat) (nodes : Forest) : Prop :=
  ∃ headers entries, nodes = headers ++ entries ∧ (∀ n ∈ headers, n.IsTop) ∧
    ∀ n ∈ entries, n.kind.isHeader = false ∧ n.depth ∈ depths

namespace Forest

variable {f} {depths : Set Nat} {headers entries nodes : Forest} {depth : Nat}

/-- Beside a header line a node hangs from nothing. -/
theorem bind_lastAtDepth?_headers (h : ∀ n ∈ headers, n.IsTop) (depth : Nat) :
    (headers.lastAtDepth? depth).bind Node.parent = none := by
  rw [Option.bind_eq_none_iff]
  intro n hn
  exact (h n (List.mem_reverse.1 (List.mem_of_find?_eq_some hn))).2

/-- Whatever comes right after header lines hangs from nothing. -/
theorem parentFor_headers (h : ∀ n ∈ headers, n.IsTop) (depth : Nat) :
    headers.parentFor depth = none := by
  unfold parentFor
  split
  · rfl
  · next previous hlast =>
    rw [if_pos (h previous (List.mem_of_getLast? hlast)).1, bind_lastAtDepth?_headers h, ite_self]

/-- Of the nodes of a depth only the entries count. -/
theorem bind_lastAtDepth?_append (h : ∀ n ∈ headers, n.IsTop) (depth : Nat) :
    (Forest.lastAtDepth? (headers ++ entries) depth).bind Node.parent =
      (entries.lastAtDepth? depth).bind Node.parent := by
  have hheaders := bind_lastAtDepth?_headers h depth
  unfold lastAtDepth? at hheaders ⊢
  rw [List.reverse_append, List.find?_append]
  cases entries.reverse.find? (·.depth = depth) with
  | none => simpa using hheaders
  | some n => rfl

/-- The latest entry of a depth is the same one. -/
theorem lastAtDepth?_reindented (hf : StrictMonoOn f depths)
    (h : ∀ n ∈ entries, n.kind.isHeader = false ∧ n.depth ∈ depths) (hdepth : depth ∈ depths) :
    Forest.lastAtDepth? (entries.map (Node.reindented f)) (f depth) =
      (entries.lastAtDepth? depth).map (Node.reindented f) := by
  unfold lastAtDepth?
  rw [← List.map_reverse, List.find?_map]
  congr 1
  refine List.find?_congr fun n hn => ?_
  obtain ⟨hentry, hmem⟩ := h n (List.mem_reverse.1 hn)
  simp [Node.depth_reindented f hentry, hf.eq_iff_eq hmem hdepth]

theorem map_reindented_headers (h : ∀ n ∈ headers, n.IsTop) :
    headers.map (Node.reindented f) = headers := by
  have hsame : headers.map (Node.reindented f) = headers.map id :=
    List.map_congr_left fun n hn => Node.reindented_of_header f (h n hn).1
  rw [hsame, List.map_id]

/-- A piece of content hangs from the same node. -/
theorem Headed.parentFor_reindented (hf : StrictMonoOn f depths) (h : nodes.Headed depths)
    (hdepth : depth ∈ depths) :
    Forest.parentFor (nodes.map (Node.reindented f)) (f depth) = nodes.parentFor depth := by
  obtain ⟨headers, entries, rfl, hheaders, hentries⟩ := h
  rw [List.map_append, map_reindented_headers hheaders]
  obtain rfl | ⟨before, last, rfl⟩ := List.eq_nil_or_concat entries
  · rw [List.map_nil, List.append_nil, parentFor_headers hheaders, parentFor_headers hheaders]
  · rw [List.concat_eq_append] at hentries ⊢
    obtain ⟨hlast, hmem⟩ := hentries last (by simp)
    have hbeside : (Forest.lastAtDepth? (headers ++ (before ++ [last]).map (Node.reindented f))
        (f depth)).bind Node.parent =
          (Forest.lastAtDepth? (headers ++ (before ++ [last])) depth).bind Node.parent := by
      rw [bind_lastAtDepth?_append hheaders, bind_lastAtDepth?_append hheaders,
        lastAtDepth?_reindented hf hentries hdepth]
      cases Forest.lastAtDepth? (before ++ [last]) depth <;> simp
    have hend : (headers ++ (before ++ [last])).getLast? = some last := by simp
    have hend' : (headers ++ (before ++ [last]).map (Node.reindented f)).getLast? =
        some (last.reindented f) := by simp
    unfold parentFor
    rw [hbeside, hend, hend']
    simp [Node.depth_reindented f hlast, hlast, hf.le_iff_le hmem hdepth]

theorem Headed.concat (h : nodes.Headed depths) {n : Node} (hn : n.kind.isHeader = false)
    (hdepth : n.depth ∈ depths) : Forest.Headed depths (nodes ++ [n]) := by
  obtain ⟨headers, entries, rfl, hheaders, hentries⟩ := h
  refine ⟨headers, entries ++ [n], List.append_assoc _ _ _, hheaders, ?_⟩
  intro m hm
  obtain hm | hm := List.mem_append.1 hm
  · exact hentries m hm
  · rw [List.mem_singleton.1 hm]
    exact ⟨hn, hdepth⟩

end Forest

/-! ## The construction -/

/-- Elements with the header lines first fall into a part without content and a part without header
lines. -/
theorem HeadersFirst.exists_append {elements : List Element} (h : HeadersFirst elements) :
    ∃ front body, elements = front ++ body ∧ (∀ e ∈ front, e.isContent = false) ∧
      ∀ e ∈ body, e.isHeader = false := by
  induction elements with
  | nil => exact ⟨[], [], rfl, nofun, nofun⟩
  | cons e elements ih =>
    obtain ⟨hlater, hrest⟩ := List.pairwise_cons.1 h
    cases he : e.isContent with
    | true =>
      have hself : e.isHeader = false := by
        obtain ⟨line, depth, kind⟩ := e
        cases kind <;> simp_all [Element.isContent, Element.isHeader]
      refine ⟨[], e :: elements, rfl, nofun, ?_⟩
      intro e' he'
      obtain rfl | he' := List.mem_cons.1 he'
      · exact hself
      · exact hlater e' he' he
    | false =>
      obtain ⟨front, body, rfl, hfront, hbody⟩ := ih hrest
      refine ⟨e :: front, body, rfl, ?_, hbody⟩
      intro e' he'
      obtain rfl | he' := List.mem_cons.1 he'
      · exact he
      · exact hfront e' he'

section run

variable {f} {depths : Set Nat}

/-- What is no content keeps the forest one of header lines. -/
theorem Growth.isTop_step {g : Growth} (hg : ∀ n ∈ g.nodes, n.IsTop) {e : Element}
    (he : e.isContent = false) : ∀ n ∈ (g.step e).nodes, n.IsTop := by
  obtain ⟨line, depth, kind⟩ := e
  cases kind with
  | directive directive => exact hg
  | title text => exact hg
  | content content => cases he
  | conversant name =>
    intro n hn
    obtain hn | hn := List.mem_append.1 hn
    · exact hg n hn
    · rw [List.mem_singleton.1 hn]
      exact ⟨rfl, Forest.parentFor_headers hg depth⟩

theorem Growth.isTop_foldl_step {g : Growth} (hg : ∀ n ∈ g.nodes, n.IsTop) {front : List Element}
    (hfront : ∀ e ∈ front, e.isContent = false) :
    ∀ n ∈ (front.foldl Growth.step g).nodes, n.IsTop := by
  induction front generalizing g with
  | nil => exact hg
  | cons e front ih =>
    exact ih (isTop_step hg (hfront e List.mem_cons_self)) fun e' he' =>
      hfront e' (List.mem_cons_of_mem e he')

/-- What is no header line adds entries only. -/
theorem Growth.headed_step {g : Growth} (hg : g.nodes.Headed depths) {e : Element}
    (he : e.isHeader = false) (hdepth : e.isContent = true → e.depth ∈ depths) :
    (g.step e).nodes.Headed depths := by
  obtain ⟨line, depth, kind⟩ := e
  cases kind with
  | directive directive => exact hg
  | title text => cases he
  | conversant name => cases he
  | content content =>
    exact hg.concat rfl (hdepth rfl)

/-- A step with an element at another depth. -/
theorem Growth.step_reindented (hf : StrictMonoOn f depths) {g : Growth}
    (hg : g.nodes.Headed depths) {e : Element} (he : e.isHeader = false)
    (hdepth : e.isContent = true → e.depth ∈ depths) :
    (g.reindented f).step (e.reindented f) = (g.step e).reindented f := by
  obtain ⟨line, depth, kind⟩ := e
  cases kind with
  | directive directive => rfl
  | title text => cases he
  | conversant name => cases he
  | content content =>
    have hparent := hg.parentFor_reindented hf (hdepth rfl)
    simp [Growth.step, Growth.reindented, Element.reindented, Element.isContent, Forest.grow,
      Node.reindented, NodeKind.isHeader, hparent, Forest.nextNodeId_reindented]

theorem Growth.foldl_step_reindented (hf : StrictMonoOn f depths) {g : Growth}
    (hg : g.nodes.Headed depths) {body : List Element}
    (hbody : ∀ e ∈ body, e.isHeader = false)
    (hdepth : ∀ e ∈ body, e.isContent = true → e.depth ∈ depths) :
    (body.map (Element.reindented f)).foldl Growth.step (g.reindented f) =
      (body.foldl Growth.step g).reindented f := by
  induction body generalizing g with
  | nil => rfl
  | cons e body ih =>
    have he := hbody e List.mem_cons_self
    have hd := hdepth e List.mem_cons_self
    rw [List.map_cons, List.foldl_cons, step_reindented hf hg he hd, List.foldl_cons]
    exact ih (headed_step hg he hd) (fun e' he' => hbody e' (List.mem_cons_of_mem e he'))
      fun e' he' => hdepth e' (List.mem_cons_of_mem e he')

/-- What is read from elements with the header lines first is the same at other depths. -/
theorem buildForest_map_reindented {elements : List Element} (hfirst : HeadersFirst elements)
    (hf : StrictMonoOn f (contentDepths elements)) :
    buildForest (elements.map (Element.reindented f)) = (buildForest elements).reindented f := by
  rcases elements with _ | ⟨⟨line, depth, kind⟩, rest⟩
  · rfl
  · cases kind with
    | directive directive => rfl
    | conversant name => rfl
    | content content => rfl
    | title title =>
      have hrest : HeadersFirst rest := (List.pairwise_cons.1 hfirst).2
      obtain ⟨front, body, rfl, hfront, hbody⟩ := hrest.exists_append
      have hsame : front.map (Element.reindented f) = front.map id :=
        List.map_congr_left fun e he => by simp [Element.reindented, hfront e he]
      have htop : ∀ n ∈ (front.foldl Growth.step (.start line depth title)).nodes, n.IsTop := by
        refine Growth.isTop_foldl_step ?_ hfront
        intro n hn
        rw [List.mem_singleton.1 hn]
        exact ⟨rfl, rfl⟩
      have hrun := Growth.foldl_step_reindented hf ⟨_, [], (List.append_nil _).symm, htop, nofun⟩
        hbody fun e he hcontent => ⟨e, by simp [he], hcontent, rfl⟩
      have hstart : (front.foldl Growth.step (.start line depth title)).reindented f =
          front.foldl Growth.step (.start line depth title) := by
        rw [Growth.reindented, Forest.map_reindented_headers htop]
      rw [hstart] at hrun
      have htitle : (⟨line, depth, .title title⟩ : Element).reindented f =
          ⟨line, depth, .title title⟩ := rfl
      rw [List.map_cons, htitle, List.map_append, hsame, List.map_id]
      simp only [buildForest, List.foldl_append, hrun]
      rfl

end run

end Script

/-! ## The conversation -/

open Script

namespace Draft

variable (f : Nat → Nat)

theorem parentId_reindented (nodes : Forest) (parent : Option Nat) :
    parentId (nodes.map (Node.reindented f)) parent = parentId nodes parent := by
  cases parent <;> simp [parentId, Function.comp_def]

theorem addNode_reindented (nodes : Forest) (player : ActorId) (d : Draft) (n : Node) :
    addNode (nodes.map (Node.reindented f)) player d (n.reindented f) =
      addNode nodes player d n := by
  unfold addNode linkParent
  simp only [Node.kind_reindented, Node.id_reindented, Node.parent_reindented,
    Node.line_reindented, parentId_reindented]

end Draft

/-- Assembling does not look at depths. -/
theorem assemble_map_reindented (f : Nat → Nat) (nodes : Forest) (options : ImportOptions)
    (db : Database) (pending : List PendingLink) :
    assemble (nodes.map (Node.reindented f)) options db pending =
      assemble nodes options db pending := by
  rcases nodes with _ | ⟨⟨id, depth, line, parent, kind⟩, rest⟩
  · rfl
  · cases kind with
    | conversant name => rfl
    | entry content fields => rfl
    | title title =>
      have htitle : (⟨id, depth, line, parent, .title title⟩ : Node).reindented f =
          ⟨id, depth, line, parent, .title title⟩ := rfl
      have hrest : ∀ player d,
          (rest.map (Node.reindented f)).foldl (Draft.addNode
              (⟨id, depth, line, parent, .title title⟩ :: rest.map (Node.reindented f)) player) d =
            rest.foldl (Draft.addNode (⟨id, depth, line, parent, .title title⟩ :: rest) player)
              d := by
        intro player d
        rw [List.foldl_map, ← htitle, ← List.map_cons]
        simp only [Draft.addNode_reindented]
        rw [htitle]
      simp only [List.map_cons, htitle, assemble, hrest]

/-- Only relative indentation matters. Where no header line comes after content, a change of the
depths of the content that keeps their order changes nothing else about what is read: the forest is
built or not as before, its nodes have their ids, lines, parents and kinds, the diagnostics are the
same, and so is the conversation that is assembled. -/
theorem assemble_reindented {elements : List Element} (hfirst : HeadersFirst elements)
    {f : Nat → Nat} (hf : StrictMonoOn f (contentDepths elements)) :
    buildForest (elements.map (Element.reindented f)) = (buildForest elements).reindented f ∧
      ∀ options db pending,
        ((buildForest (elements.map (Element.reindented f))).forest.bind
            (assemble · options db pending)) =
          (buildForest elements).forest.bind (assemble · options db pending) := by
  have hforest := buildForest_map_reindented hfirst hf
  refine ⟨hforest, fun options db pending => ?_⟩
  rw [hforest]
  cases h : (buildForest elements).forest with
  | error e => simp [Parsed.reindented, h, Except.map, Except.bind]
  | ok nodes =>
    simp [Parsed.reindented, h, Except.map, Except.bind, assemble_map_reindented]

/-- A script whose body is set in. Its third reply comes back to a depth that nothing before it
has. -/
def setInElements : List Element :=
  [⟨1, 0, .title "Hall"⟩, ⟨2, 0, .conversant "Mira"⟩, ⟨3, 2, .content (.reply "Well?")⟩,
    ⟨4, 0, .directive (.title "End")⟩, ⟨5, 3, .content (.speak "Mira" "Well.")⟩,
    ⟨6, 1, .content (.reply "So.")⟩, ⟨7, 2, .content (.reply "Bye!")⟩]

/-- Without one tab a line, the third reply has the depth of the header lines. -/
theorem assemble_reindented_setInElements :
    HeadersFirst setInElements ∧ StrictMonoOn (· - 1) (contentDepths setInElements) ∧
      (buildForest (setInElements.map (Element.reindented (· - 1)))).forest.toOption.map
          (·.map fun n => (n.depth, n.parent)) =
        some [(0, none), (0, none), (1, none), (2, some 2), (0, none), (1, some 4)] ∧
      buildForest (setInElements.map (Element.reindented (· - 1))) =
        (buildForest setInElements).reindented (· - 1) := by
  have hfirst : HeadersFirst setInElements := by
    unfold HeadersFirst
    decide +kernel
  have hpos : ∀ e ∈ setInElements, e.isContent = true → 0 < e.depth := by decide +kernel
  have hf : StrictMonoOn (· - 1) (contentDepths setInElements) := by
    rintro a ⟨e, he, hcontent, rfl⟩ b - hlt
    have ha := hpos e he hcontent
    show e.depth - 1 < b - 1
    omega
  exact ⟨hfirst, hf, by decide +kernel, (assemble_reindented hfirst hf).1⟩

end Dialogue
