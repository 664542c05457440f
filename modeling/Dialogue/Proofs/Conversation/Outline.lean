import Dialogue.Assembly
import Dialogue.Proofs.Script.Filled
import Dialogue.Proofs.Script.Grown

/-!
# The outline of a forest

What a forest asks a conversation to be, with nothing in it that depends on a database: the title,
the people it names in the order in which it names them, the name on its last `npc:` line, and one
`Piece` for each node that makes an entry. A piece carries the id of the entry that it hangs from
and the name on the last `npc:` line above it, so no other node has to be looked at to write its
entry.

The pieces of a grown forest are numbered upwards, and each hangs from `START` or from a piece
before it (`Outline.Sound`, `Forest.Grown.sound`). So the pieces before a piece are those with a
smaller id, which is how `Piece.before` picks them out.
-/

namespace Dialogue

open Script

/-- One entry that a script asks for. -/
structure Piece where
  id : EntryId
  /-- The entry that it hangs from. -/
  parent : EntryId
  /-- The name on the last `npc:` line above it. -/
  conversant : Option String
  content : Content
  fields : Fields
  deriving DecidableEq

/-- What a script asks a conversation to be. -/
structure Outline where
  title : String
  /-- Everybody who is named, in order. -/
  names : List String
  /-- The name on the last `npc:` line. -/
  conversant : Option String
  pieces : List Piece
  deriving DecidableEq

/-- Who is named by a piece of content. -/
def contentNames : Content → List String
  | .speak actor _ => [actor]
  | .reply _ | .group _ | .sequenceNode _ => []

/-- The piece that a node stands for, below this `npc:` line. -/
def Piece.ofNode (conversant : Option String) (n : Node) (content : Content) (fields : Fields) :
    Piece :=
  ⟨n.id, n.parent.getD startId, conversant, content, fields⟩

/-- The outline with one more node. -/
def Outline.add (o : Outline) (n : Node) : Outline :=
  match n.kind with
  | .title _ => o
  | .conversant name => { o with names := o.names ++ [name], conversant := some name }
  | .entry content fields =>
    { o with
      names := o.names ++ contentNames content
      pieces := o.pieces ++ [.ofNode o.conversant n content fields] }

/-- The outline of a title alone. -/
def Outline.blank (title : String) : Outline := ⟨title, [], none, []⟩

/-- The outline of a forest, whose first node must be its title. -/
def Script.Forest.outline? : Forest → Option Outline
  | ⟨_, _, _, _, .title title⟩ :: rest => some (rest.foldl Outline.add (.blank title))
  | _ => none

namespace Piece

/-- The title of the entry. -/
def title (p : Piece) : String :=
  match p.content with
  | .speak _ _ | .reply _ => p.fields.title.getD ""
  | .group title => if Text.isAllBlank title.toList then p.fields.title.getD "" else title
  | .sequenceNode _ => p.fields.title.getD sequenceTitle

/-- What is said. -/
def text (p : Piece) : String :=
  match p.content with
  | .speak _ text | .reply text => text
  | .group _ | .sequenceNode _ => ""

/-- The sequence of the entry. -/
def sequence (p : Piece) : String :=
  match p.content with
  | .sequenceNode sequence => sequence
  | .speak _ _ | .reply _ | .group _ => p.fields.sequence.getD ""

/-- Whether the entry is a group. -/
def isGroup (p : Piece) : Bool :=
  match p.content with
  | .group _ => true
  | .speak _ _ | .reply _ | .sequenceNode _ => false

/-- The first entry with this title, among `START` and the entries of these pieces. -/
def titledAmong (pieces : List Piece) (title : String) : Option EntryId :=
  if title = "" then none
  else (((startId, startTitle) :: pieces.map fun p => (p.id, p.title)).find? (·.2 = title)).map
    Prod.fst

/-- The pieces before this one. -/
def before (pieces : List Piece) (p : Piece) : List Piece :=
  pieces.filter (·.id < p.id)

/-- Where the links by title lead that name an entry before this one. -/
def known (pieces : List Piece) (p : Piece) : List EntryId :=
  p.fields.titleLinks.filterMap (titledAmong (before pieces p))

/-- The titles of the other links by title, which wait. -/
def waiting (pieces : List Piece) (p : Piece) : List String :=
  p.fields.titleLinks.filter fun title => (titledAmong (before pieces p) title).isNone

/-- The entries that hang from this one. -/
def children (pieces : List Piece) (id : EntryId) : List EntryId :=
  (pieces.filter (·.parent = id)).map Piece.id

end Piece

/-- An outline whose pieces are numbered upwards, each hanging from `START` or from a piece before
it. -/
structure Outline.Sound (o : Outline) : Prop where
  pos : ∀ p ∈ o.pieces, startId < p.id
  increasing : o.pieces.Pairwise (·.id < ·.id)
  parent : ∀ p ∈ o.pieces, p.parent = startId ∨ ∃ q ∈ o.pieces, q.id = p.parent ∧ q.id < p.id

/-- The ids of `START` and of all pieces are distinct. -/
theorem Outline.Sound.nodup {o : Outline} (h : o.Sound) :
    (startId :: o.pieces.map Piece.id).Nodup := by
  rw [List.nodup_cons]
  constructor
  · intro hmem
    obtain ⟨p, hp, hid⟩ := List.mem_map.1 hmem
    exact (Nat.ne_of_lt (h.pos p hp)) hid.symm
  · rw [List.Nodup, List.pairwise_map]
    exact h.increasing.imp Nat.ne_of_lt

/-- What a piece hangs from has a smaller id. -/
theorem Outline.Sound.parent_lt {o : Outline} (h : o.Sound) {p : Piece} (hp : p ∈ o.pieces) :
    p.parent < p.id := by
  obtain hroot | ⟨q, -, hid, hlt⟩ := h.parent p hp
  · rw [hroot]
    exact h.pos p hp
  · rw [← hid]
    exact hlt

/-- In a sound outline the last piece has the largest id and hangs from what is there before it. -/
theorem Outline.Sound.last {o : Outline} (h : o.Sound) {pieces : List Piece} {new : Piece}
    (hp : o.pieces = pieces ++ [new]) :
    (∀ q ∈ pieces, q.id < new.id) ∧ new.parent ∈ startId :: pieces.map Piece.id := by
  have hinc := h.increasing
  rw [hp, List.pairwise_append] at hinc
  have hbelow : ∀ q ∈ pieces, q.id < new.id := fun q hq =>
    hinc.2.2 q hq new (List.mem_singleton.2 rfl)
  refine ⟨hbelow, ?_⟩
  obtain hroot | ⟨q, hq, hid, hlt⟩ := h.parent new (by simp [hp])
  · rw [hroot]
    exact List.mem_cons_self
  · rw [hp] at hq
    rcases List.mem_append.1 hq with hq | hq
    · exact List.mem_cons_of_mem _ (hid ▸ List.mem_map_of_mem hq)
    · rw [List.mem_singleton.1 hq] at hlt
      exact absurd hlt (Nat.lt_irrefl _)

/-! ## The outline of a grown forest -/

@[simp] theorem Outline.title_add (o : Outline) (n : Node) : (o.add n).title = o.title := by
  unfold Outline.add
  split <;> rfl

@[simp] theorem Outline.title_foldl_add (o : Outline) (rest : Forest) :
    (rest.foldl Outline.add o).title = o.title := by
  induction rest generalizing o with
  | nil => rfl
  | cons n rest ih => rw [List.foldl_cons, ih, Outline.title_add]

/-- A node can only name people after those who are named before it. -/
theorem Outline.exists_names_add (o : Outline) (n : Node) :
    ∃ names, (o.add n).names = o.names ++ names := by
  unfold Outline.add
  split
  · exact ⟨[], (List.append_nil _).symm⟩
  · exact ⟨_, rfl⟩
  · exact ⟨_, rfl⟩

/-- A node that joins a forest joins its outline. -/
theorem Script.Forest.outline?_append {nodes : Forest} {o : Outline} (h : nodes.outline? = some o)
    (n : Node) : Forest.outline? (nodes ++ [n]) = some (o.add n) := by
  unfold Forest.outline? at h
  split at h
  · next depth line id parent title rest =>
    cases h
    rw [List.cons_append, Forest.outline?, List.foldl_append]
    rfl
  · cases h

/-- A forest as a script makes it has an outline. -/
theorem Script.Forest.Grown.exists_outline? {nodes : Forest} (h : nodes.Grown) :
    ∃ o, nodes.outline? = some o := by
  induction h with
  | title line depth text => exact ⟨_, rfl⟩
  | node h line depth parent kind hkind hparent ih =>
      obtain ⟨o, ho⟩ := ih
      exact ⟨_, Forest.outline?_append ho _⟩

/-- An outline that names everybody whom its conversation needs. -/
structure Outline.Complete (o : Outline) : Prop where
  conversant : ∀ name, o.conversant = some name → name ∈ o.names
  speaker : ∀ p ∈ o.pieces, ∀ name ∈ contentNames p.content, name ∈ o.names
  listener : ∀ p ∈ o.pieces, ∀ name, p.conversant = some name → name ∈ o.names

/-- A node that joins names whom it needs. -/
theorem Outline.Complete.add {o : Outline} (h : o.Complete) (n : Node) : (o.add n).Complete := by
  unfold Outline.add
  split
  · exact h
  · next name hk =>
    refine ⟨?_, ?_, ?_⟩
    · intro name' hname
      rw [Option.some.inj hname]
      exact List.mem_append_right _ (List.mem_singleton.2 rfl)
    · exact fun p hp name' hname => List.mem_append_left _ (h.speaker p hp name' hname)
    · exact fun p hp name' hname => List.mem_append_left _ (h.listener p hp name' hname)
  · next content fields hk =>
    refine ⟨fun name hname => List.mem_append_left _ (h.conversant name hname), ?_, ?_⟩
    · intro p hp name hname
      rcases List.mem_append.1 hp with hp | hp
      · exact List.mem_append_left _ (h.speaker p hp name hname)
      · rw [List.mem_singleton.1 hp] at hname
        exact List.mem_append_right _ hname
    · intro p hp name hname
      rcases List.mem_append.1 hp with hp | hp
      · exact List.mem_append_left _ (h.listener p hp name hname)
      · rw [List.mem_singleton.1 hp] at hname
        exact List.mem_append_left _ (h.conversant name hname)

/-- The outline of a forest names everybody whom its conversation needs. -/
theorem Script.Forest.complete_of_outline? {nodes : Forest} {o : Outline}
    (h : nodes.outline? = some o) : o.Complete := by
  have hfold : ∀ (rest : Forest) {o : Outline}, o.Complete →
      (rest.foldl Outline.add o).Complete := by
    intro rest
    induction rest with
    | nil => exact fun h => h
    | cons n rest ih => exact fun h => ih (h.add n)
  unfold Forest.outline? at h
  split at h
  · cases h
    refine hfold _ ?_
    constructor <;> simp [Outline.blank]
  · cases h

/-- The title of a forest. -/
def Script.Forest.title? : Forest → Option String
  | ⟨_, _, _, _, .title title⟩ :: _ => some title
  | _ => none

/-- The title of a forest is that of its outline. -/
theorem Script.Forest.title?_eq (nodes : Forest) :
    nodes.title? = nodes.outline?.map Outline.title := by
  unfold Forest.title? Forest.outline?
  split
  · rw [Option.map_some, Outline.title_foldl_add]
    rfl
  · rfl

/-- What a node that makes an entry gives its piece: the id, the parent, the content and the
fields. -/
def Script.Node.entry? (n : Node) : Option (EntryId × EntryId × Content × Fields) :=
  match n.kind with
  | .entry content fields => some (n.id, n.parent.getD startId, content, fields)
  | .title _ | .conversant _ => none

/-- The pieces of an outline are the entries of the forest, in order. -/
theorem Script.Forest.map_pieces {nodes : Forest} {o : Outline} (h : nodes.outline? = some o) :
    (o.pieces.map fun p => (p.id, p.parent, p.content, p.fields)) =
      nodes.filterMap Node.entry? := by
  have hfold : ∀ (rest : Forest) (o : Outline),
      ((rest.foldl Outline.add o).pieces.map fun p => (p.id, p.parent, p.content, p.fields)) =
        (o.pieces.map fun p => (p.id, p.parent, p.content, p.fields)) ++
          rest.filterMap Node.entry? := by
    intro rest
    induction rest with
    | nil => intro o; simp
    | cons n rest ih =>
        intro o
        rw [List.foldl_cons, ih]
        rcases hk : n.kind with title | name | ⟨content, fields⟩
        · have hn : n.entry? = none := by simp [Node.entry?, hk]
          simp [Outline.add, hk, hn]
        · have hn : n.entry? = none := by simp [Node.entry?, hk]
          simp [Outline.add, hk, hn]
        · have hn : n.entry? = some (n.id, n.parent.getD startId, content, fields) := by
            simp [Node.entry?, hk]
          simp [Outline.add, hk, hn, Piece.ofNode]
  unfold Forest.outline? at h
  split at h
  · next title rest =>
    cases h
    rw [hfold]
    rfl
  · cases h

/-- The ids of the pieces are those of the nodes that are no header lines. -/
theorem Script.Forest.map_entryIds {nodes : Forest} {o : Outline} (h : nodes.outline? = some o) :
    o.pieces.map Piece.id = (nodes.filter (!·.kind.isHeader)).map (·.id) := by
  have hids := congrArg (List.map Prod.fst) (Forest.map_pieces h)
  rw [List.map_map, List.map_filterMap] at hids
  refine hids.trans ?_
  rw [← List.filterMap_eq_map, List.filterMap_filter]
  refine List.filterMap_congr fun n _ => ?_
  unfold Node.entry?
  rcases n.kind with title | name | ⟨content, fields⟩ <;> rfl

/-- Every piece is the piece of an entry node. -/
theorem Script.Forest.exists_node_of_mem_pieces {nodes : Forest} {o : Outline}
    (h : nodes.outline? = some o) {p : Piece} (hp : p ∈ o.pieces) :
    ∃ n ∈ nodes, n.id = p.id ∧ n.kind = .entry p.content p.fields := by
  have hmem : (p.id, p.parent, p.content, p.fields) ∈ nodes.filterMap Node.entry? := by
    rw [← Forest.map_pieces h]
    exact List.mem_map_of_mem (f := fun p => (p.id, p.parent, p.content, p.fields)) hp
  obtain ⟨n, hn, hentry⟩ := List.mem_filterMap.1 hmem
  unfold Node.entry? at hentry
  split at hentry
  · next content fields hk =>
    simp only [Option.some.injEq, Prod.mk.injEq] at hentry
    obtain ⟨hid, -, hcontent, hfields⟩ := hentry
    exact ⟨n, hn, hid, by rw [hk, hcontent, hfields]⟩
  · cases hentry
  · cases hentry

/-- Every entry node has a piece. -/
theorem Script.Forest.exists_piece_of_mem {nodes : Forest} {o : Outline}
    (h : nodes.outline? = some o) {n : Node} (hn : n ∈ nodes) {content : Content} {fields : Fields}
    (hk : n.kind = .entry content fields) :
    ∃ p ∈ o.pieces, p.id = n.id ∧ p.parent = n.parent.getD startId ∧ p.content = content ∧
      p.fields = fields := by
  have hentry : n.entry? = some (n.id, n.parent.getD startId, content, fields) := by
    simp [Node.entry?, hk]
  have hmem := List.mem_filterMap.2 ⟨n, hn, hentry⟩
  rw [← Forest.map_pieces h] at hmem
  obtain ⟨p, hp, heq⟩ := List.mem_map.1 hmem
  simp only [Prod.mk.injEq] at heq
  exact ⟨p, hp, heq⟩

/-- The ids of the pieces of a grown forest are ids of its nodes. -/
theorem Script.Forest.Grown.piece_id_lt {nodes : Forest} (h : nodes.Grown) {o : Outline}
    (ho : nodes.outline? = some o) {p : Piece} (hp : p ∈ o.pieces) : p.id < nodes.length := by
  obtain ⟨n, hn, hid, -⟩ := Forest.exists_node_of_mem_pieces ho hp
  rw [← hid]
  exact h.id_lt hn

/-- A grown forest has a sound outline. -/
theorem Script.Forest.Grown.sound {nodes : Forest} (h : nodes.Grown) {o : Outline}
    (ho : nodes.outline? = some o) : o.Sound := by
  induction h generalizing o with
  | title line depth text =>
      cases ho
      constructor <;> simp [Outline.blank]
  | @node nodes h line depth parent kind hkind hparent ih =>
      obtain ⟨o', ho'⟩ := h.exists_outline?
      rw [Forest.outline?_append ho'] at ho
      cases ho
      have hs := ih ho'
      unfold Outline.add
      split
      · exact hs
      · exact ⟨hs.pos, hs.increasing, hs.parent⟩
      · next content fields hk =>
        have hbelow : ∀ q ∈ o'.pieces, q.id < nodes.length := fun q hq => h.piece_id_lt ho' hq
        refine ⟨?_, ?_, ?_⟩
        · intro p hp
          rcases List.mem_append.1 hp with hp | hp
          · exact hs.pos p hp
          · rw [List.mem_singleton.1 hp]
            exact h.length_pos
        · rw [List.pairwise_append]
          refine ⟨hs.increasing, List.pairwise_singleton _ _, ?_⟩
          intro q hq p hp
          rw [List.mem_singleton.1 hp]
          exact hbelow q hq
        · intro p hp
          rcases List.mem_append.1 hp with hp | hp
          · obtain hstart | ⟨q, hq, hid⟩ := hs.parent p hp
            · exact .inl hstart
            · exact .inr ⟨q, List.mem_append_left _ hq, hid⟩
          · rw [List.mem_singleton.1 hp]
            rcases hpar : parent with _ | i
            · exact .inl rfl
            · obtain ⟨m, hm, hentry⟩ := hparent i hpar
              rcases hmk : m.kind with t | name | ⟨content', fields'⟩
              · rw [hmk] at hentry
                cases hentry
              · rw [hmk] at hentry
                cases hentry
              · obtain ⟨q, hq, hid, -⟩ :=
                  Forest.exists_piece_of_mem ho' (List.mem_of_getElem? hm) hmk
                rw [h.id_eq hm] at hid
                exact .inr ⟨q, List.mem_append_left _ hq, hid, hbelow q hq⟩

end Dialogue
