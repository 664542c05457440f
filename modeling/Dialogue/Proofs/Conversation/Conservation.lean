import Dialogue.Proofs.Conversation.Assembly
import Dialogue.Proofs.Conversation.Links
import Dialogue.Proofs.Resolution.Writing
import Dialogue.Proofs.Script.Held

/-!
# Assembling loses no link

A forest may come from anywhere: ids may repeat, also that of `START`, and a parent may be anything.
Then a node can hang from the wrong entry or from none, but whatever it asks for comes to something.
Each entry asks for one link to it and for its links by number and by title. The first becomes a
link of the entry that its parent's id leads to, or a warning (`Script.Forest.orphans`), links by
number become links, and links by title become links or wait (`Script.Forest.waiting`). Nothing else
is linked, queued or remarked.

That is one step per node (`Draft.Accounts.addNode`) and an induction over the nodes. Entries are
only ever added at the end and keep ids and titles, so what stands before the entry of a node when
it is made stands there in the end, and both the warnings and the queue can be read off the result.
-/

namespace Dialogue

open Script

/-! ## What becomes of the links of a forest -/

/-- All links of the conversation, entry by entry. -/
def Conversation.links (c : Conversation) : List Link := c.entries.flatMap (·.links)

/-- The conversation with these entries in place of its own. -/
def Conversation.withEntries (c : Conversation) (entries : List Entry) : Conversation :=
  { c with entries }

@[simp] theorem Conversation.id_withEntries (c : Conversation) (entries : List Entry) :
    (c.withEntries entries).id = c.id := rfl

@[simp] theorem Conversation.entries_withEntries (c : Conversation) (entries : List Entry) :
    (c.withEntries entries).entries = entries := rfl

/-- Every link starts from the entry that holds it, in this conversation. -/
def Conversation.OwnsLinks (c : Conversation) : Prop :=
  ∀ e ∈ c.entries, e.conversation = c.id ∧ ∀ l ∈ e.links, l.origin = ⟨c.id, e.id⟩

/-- The links by number of a node. -/
def Script.Node.numericLinks (n : Node) : List NumericLink :=
  match n.kind with
  | .entry _ fields => fields.links
  | .title _ | .conversant _ => []

namespace Script.Forest

/-- The nodes that make an entry. -/
def entryNodes (nodes : Forest) : Forest := nodes.filter (!·.kind.isHeader)

/-- The links by title that wait once these nodes are in the conversation, in the order of the
nodes: those whose title no entry has that stands before the entry of the node. -/
def waiting (nodes : Forest) (c : Conversation) : List PendingLink :=
  (beforeEach nodes.entryNodes).flatMap fun (before, n) =>
    (n.titleLinks.filter fun title =>
      ((c.withEntries (c.entries.take (before.length + 1))).entryTitled? title).isNone).map
        (⟨·, ⟨c.id, n.id⟩⟩)

/-- The warning about a node, if neither `START` nor any of these entry nodes has the id that it
hangs from in this forest. -/
def orphan? (nodes before : Forest) (n : Node) : Option Diagnostic :=
  let parent := Draft.parentId nodes n.parent
  if parent ∈ startId :: before.map (·.id) then none
  else some (.atLine n.line (.missingParent n.id parent))

/-- The warnings about these nodes of the forest. -/
def orphans (nodes made : Forest) : List Diagnostic :=
  (beforeEach made.entryNodes).filterMap fun (before, n) => nodes.orphan? before n

end Script.Forest

/-! ## Changes of entries -/

section entries

variable {α : Type} {p : α → Bool} {f : α → α}

/-- What holds of all elements and is kept by a change holds of all elements after it. -/
theorem forall_mem_updateFirst {P : α → Prop} (hf : ∀ a, P a → P (f a)) {l : List α}
    (h : ∀ a ∈ l, P a) : ∀ a ∈ updateFirst p f l, P a := by
  induction l with
  | nil => exact h
  | cons a l ih =>
    rw [List.forall_mem_cons] at h
    rw [updateFirst]
    split
    · exact List.forall_mem_cons.2 ⟨hf a h.1, h.2⟩
    · exact List.forall_mem_cons.2 ⟨h.1, ih h.2⟩

/-- A change that adds one to what is collected from an element adds one to all that is collected,
if there is such an element. -/
theorem length_flatMap_updateFirst {β : Type} {g : α → List β}
    (hf : ∀ a, (g (f a)).length = (g a).length + 1) {l : List α} (h : (l.find? p).isSome) :
    ((updateFirst p f l).flatMap g).length = (l.flatMap g).length + 1 := by
  induction l with
  | nil => cases h
  | cons a l ih =>
    rw [updateFirst]
    split
    · rw [List.flatMap_cons, List.flatMap_cons, List.length_append, List.length_append, hf]
      omega
    · next ha =>
      rw [List.find?_cons_of_neg ha] at h
      rw [List.flatMap_cons, List.flatMap_cons, List.length_append, List.length_append, ih h]
      omega

/-- What a look-up finds, and what it does not find, is everything that is looked up. -/
theorem length_filterMap_add_length_filter {β : Type} (find : α → Option β) (l : List α) :
    (l.filterMap find).length + (l.filter fun a => (find a).isNone).length = l.length := by
  have hsplit := List.length_eq_countP_add_countP (l := l) fun a => (find a).isSome
  rw [List.length_filterMap_eq_countP, ← List.countP_eq_length_filter, hsplit]
  congr 1
  exact List.countP_congr fun a _ => by simp

end entries

/-- Whether a title is found depends on the ids and the titles of the entries alone. -/
theorem Conversation.isNone_entryTitled?_congr {c c' : Conversation}
    (h : c.entries.map (fun e => (e.id, e.title)) = c'.entries.map fun e => (e.id, e.title))
    (title : String) : (c.entryTitled? title).isNone = (c'.entryTitled? title).isNone := by
  have hsame := congrArg Option.isNone (Conversation.entryTitled?_congr h title)
  rwa [Option.isNone_map, Option.isNone_map] at hsame

/-- Entries with the same ids and titles have the same ids. -/
theorem map_id_of_names {es es' : List Entry}
    (h : es.map (fun e => (e.id, e.title)) = es'.map fun e => (e.id, e.title)) :
    es.map (·.id) = es'.map (·.id) := by
  have hids := congrArg (List.map Prod.fst) h
  rwa [List.map_map, List.map_map] at hids

/-- An entry that links to more places owns those links too. -/
theorem Entry.owns_linkToAll {e : Entry} {ref : EntryRef}
    (he : e.conversation = ref.conversation ∧ e.id = ref.entry)
    (h : ∀ l ∈ e.links, l.origin = ref) (ds : List EntryRef) :
    ∀ l ∈ (e.linkToAll ds).links, l.origin = ref := by
  intro l hl
  rcases List.mem_append.1 hl with hl | hl
  · exact h l hl
  · obtain ⟨d, -, rfl⟩ := List.mem_map.1 hl
    rw [he.1, he.2]

namespace Script.Forest

variable {nodes made : Forest} {n : Node} {c c' : Conversation}

theorem entryNodes_append_header (h : n.kind.isHeader = true) :
    entryNodes (made ++ [n]) = made.entryNodes := by
  simp [entryNodes, h]

theorem entryNodes_append_entry (h : n.kind.isHeader = false) :
    entryNodes (made ++ [n]) = made.entryNodes ++ [n] := by
  simp [entryNodes, h]

/-- What waits is read off the ids and the titles of the entries that there are so far. -/
theorem waiting_congr (hid : c.id = c'.id)
    (hnames : c.entries.map (fun e => (e.id, e.title)) <+: c'.entries.map fun e => (e.id, e.title))
    (hlength : made.entryNodes.length < c.entries.length) :
    made.waiting c = made.waiting c' := by
  unfold waiting
  refine List.flatMap_congr fun ⟨before, n⟩ hn => ?_
  obtain ⟨i, hi, hbefore⟩ := List.mem_mapIdx.1 hn
  obtain ⟨rfl, rfl⟩ := Prod.mk.inj hbefore
  obtain ⟨k, hk⟩ : ∃ k, k = (made.entryNodes.take i).length + 1 := ⟨_, rfl⟩
  have hle : k ≤ c.entries.length := by
    rw [hk, List.length_take]
    omega
  have hfirst : (c.withEntries (c.entries.take k)).entries.map (fun e => (e.id, e.title)) =
      (c'.withEntries (c'.entries.take k)).entries.map fun e => (e.id, e.title) := by
    obtain ⟨more, hmore⟩ := hnames
    simp only [Conversation.withEntries, List.map_take]
    rw [← hmore, List.take_append_of_le_length (by simpa using hle)]
  simp only [← hk, Conversation.isNone_entryTitled?_congr hfirst, hid]

/-- What waits, when one more entry node is made: what waited before, and what the new one leaves
waiting for want of an entry before its own. -/
theorem waiting_append_entry (hid : c.id = c'.id) (h : n.kind.isHeader = false)
    (hnames : c.entries.map (fun e => (e.id, e.title)) <+: c'.entries.map fun e => (e.id, e.title))
    (hlength : c.entries.length = made.entryNodes.length + 1) :
    Forest.waiting (made ++ [n]) c' =
      made.waiting c ++
        (n.titleLinks.filter fun title => (c.entryTitled? title).isNone).map
          (⟨·, ⟨c.id, n.id⟩⟩) := by
  have hfirst : (c'.withEntries (c'.entries.take (made.entryNodes.length + 1))).entries.map
      (fun e => (e.id, e.title)) = c.entries.map fun e => (e.id, e.title) := by
    obtain ⟨more, hmore⟩ := hnames
    rw [Conversation.withEntries, List.map_take, ← hmore, List.take_left' (by simpa using hlength)]
  rw [waiting, entryNodes_append_entry h, beforeEach_append_singleton, List.flatMap_append,
    List.flatMap_singleton, ← waiting, ← waiting_congr hid hnames (by omega), ← hid]
  simp only [Conversation.isNone_entryTitled?_congr hfirst]

/-- A header line leaves nothing waiting. -/
theorem waiting_append_header (h : n.kind.isHeader = true) :
    Forest.waiting (made ++ [n]) c = made.waiting c := by
  rw [waiting, entryNodes_append_header h, ← waiting]

/-- There are no warnings about header lines. -/
theorem orphans_append_header (h : n.kind.isHeader = true) :
    nodes.orphans (made ++ [n]) = nodes.orphans made := by
  rw [orphans, entryNodes_append_header h, ← orphans]

/-- The warnings, when one more entry node is made. -/
theorem orphans_append_entry (h : n.kind.isHeader = false) :
    nodes.orphans (made ++ [n]) =
      nodes.orphans made ++ (nodes.orphan? made.entryNodes n).toList := by
  rw [orphans, entryNodes_append_entry h, beforeEach_append_singleton, List.filterMap_append]
  rfl

end Script.Forest

namespace Draft

variable {d : Draft} {player : ActorId} {nodes : Forest} {n : Node}

/-- The entry of a node has its id and the conversation's, and no links yet. -/
theorem exists_entryFor (d : Draft) (player : ActorId) (id : EntryId) (fields : Fields)
    (content : Content) :
    ∃ e db, d.entryFor player id fields content = (e, db) ∧ e.id = id ∧
      e.conversation = d.conversation.id ∧ e.links = [] ∧
        db.conversations = d.db.conversations := by
  cases content with
  | speak actor text => exact ⟨_, _, rfl, rfl, rfl, rfl, Database.conversations_actorId _ _ _⟩
  | reply text => exact ⟨_, _, rfl, rfl, rfl, rfl, rfl⟩
  | group title => exact ⟨_, _, rfl, rfl, rfl, rfl, rfl⟩
  | sequenceNode sequence => exact ⟨_, _, rfl, rfl, rfl, rfl, rfl⟩

/-- Linking a node to the entry that it hangs from adds one link or one warning. -/
theorem exists_linkParent (h : d.conversation.OwnsLinks) (nodes : Forest) (n : Node)
    {before : Forest} (hids : d.conversation.entries.map (·.id) = startId :: before.map (·.id)) :
    ∃ es, d.linkParent nodes n =
        { d with
          conversation := d.conversation.withEntries es
          diagnostics := d.diagnostics ++ (nodes.orphan? before n).toList } ∧
      es.map (fun e => (e.id, e.title)) = d.conversation.entries.map (fun e => (e.id, e.title)) ∧
      (d.conversation.withEntries es).OwnsLinks ∧
      (es.flatMap (·.links)).length + (nodes.orphan? before n).toList.length =
        d.conversation.links.length + 1 := by
  obtain ⟨parent, hparent⟩ : ∃ parent, parentId nodes n.parent = parent := ⟨_, rfl⟩
  have hfound : (d.conversation.entryById? parent).isSome ↔
      parent ∈ startId :: before.map (·.id) := by
    rw [← hids, Conversation.entryById?, List.find?_isSome, List.mem_map]
    simp
  by_cases hp : parent ∈ startId :: before.map (·.id)
  · have horphan : nodes.orphan? before n = none := by
      rw [Forest.orphan?, hparent]
      exact if_pos hp
    refine ⟨(d.conversation.updateEntry parent
      (·.linkTo ⟨d.conversation.id, n.id⟩)).entries, ?_, ?_, ?_, ?_⟩
    · rw [linkParent, hparent, if_pos (hfound.2 hp), horphan]
      simp [Conversation.updateEntry, Conversation.withEntries]
    · apply map_updateFirst
      intro e
      rfl
    · refine forall_mem_updateFirst ?_ h
      intro e he
      exact ⟨he.1, Entry.owns_linkToAll ⟨he.1, rfl⟩ he.2 [_]⟩
    · rw [horphan]
      exact length_flatMap_updateFirst (fun e => by simp [Entry.linkTo]) (hfound.2 hp)
  · have horphan : nodes.orphan? before n =
        some (.atLine n.line (.missingParent n.id parent)) := by
      rw [Forest.orphan?, hparent]
      exact if_neg hp
    refine ⟨d.conversation.entries, ?_, rfl, h, ?_⟩
    · rw [linkParent, hparent, if_neg (fun hs => hp (hfound.1 hs)), horphan]
      rfl
    · rw [horphan]
      rfl

/-- The own links of a node become links of its entry, or wait. -/
theorem exists_ownLinks (c : Conversation) {e : Entry} (hconv : e.conversation = c.id)
    (hlinks : e.links = []) (pending : List PendingLink) (fields : Fields) :
    ∃ e', fields.titleLinks.foldl (linkByTitle c) (linkByNumber c.id e fields.links, pending) =
        (e', pending ++ (fields.titleLinks.filter fun title =>
          (c.entryTitled? title).isNone).map (⟨·, ⟨c.id, e.id⟩⟩)) ∧
      e'.id = e.id ∧ e'.conversation = c.id ∧ (∀ l ∈ e'.links, l.origin = ⟨c.id, e.id⟩) ∧
      e'.links.length +
          (fields.titleLinks.filter fun title => (c.entryTitled? title).isNone).length =
        fields.links.length + fields.titleLinks.length := by
  obtain ⟨known, hknown⟩ : ∃ known : String → Option EntryId,
      ∀ title, (c.entryTitled? title).map (·.id) = known title := ⟨_, fun _ => rfl⟩
  have hnone : ∀ title, (c.entryTitled? title).isNone = (known title).isNone := by
    intro title
    rw [← hknown, Option.isNone_map]
  have hsplit := length_filterMap_add_length_filter known fields.titleLinks
  simp only [hnone]
  rw [linkByNumber_eq, foldl_linkByTitle hknown, Entry.linkToAll_linkToAll]
  refine ⟨_, rfl, rfl, hconv, ?_, ?_⟩
  · apply Entry.owns_linkToAll ⟨hconv, rfl⟩
    simp [hlinks]
  · simp only [Entry.linkToAll, hlinks, List.nil_append, List.length_map, List.length_append]
    omega

/-- What adding an entry node does: it adds one entry, of which it asks for one link to it and for
its own links, and each of these becomes a link, waits, or is warned about. -/
theorem exists_addNode_entry (h : d.conversation.OwnsLinks) (nodes : Forest) (player : ActorId)
    {content : Content} {fields : Fields} (hk : n.kind = .entry content fields) {before : Forest}
    (hids : d.conversation.entries.map (·.id) = startId :: before.map (·.id)) :
    ∃ db es e, addNode nodes player d n =
        { db
          conversation := d.conversation.withEntries (es ++ [e])
          pending := d.pending ++ (n.titleLinks.filter fun title =>
            (d.conversation.entryTitled? title).isNone).map (⟨·, ⟨d.conversation.id, n.id⟩⟩)
          diagnostics := d.diagnostics ++ (nodes.orphan? before n).toList } ∧
      db.conversations = d.db.conversations ∧
      es.map (fun e => (e.id, e.title)) = d.conversation.entries.map (fun e => (e.id, e.title)) ∧
      e.id = n.id ∧ (d.conversation.withEntries (es ++ [e])).OwnsLinks ∧
      (d.conversation.withEntries (es ++ [e])).links.length +
          (n.titleLinks.filter fun title => (d.conversation.entryTitled? title).isNone).length +
          (nodes.orphan? before n).toList.length =
        d.conversation.links.length + 1 + n.numericLinks.length + n.titleLinks.length := by
  have hnumeric : n.numericLinks = fields.links := by rw [Node.numericLinks, hk]
  have htitles : n.titleLinks = fields.titleLinks := by rw [Node.titleLinks, hk]
  obtain ⟨bare, db, hbare, hid, hconv, hlinks, hdb⟩ := d.exists_entryFor player n.id fields content
  obtain ⟨es, hparent, hnames, howns, hcount⟩ :=
    exists_linkParent (d := { d with db }) h nodes n hids
  obtain ⟨e, hown, hid', hconv', horigin, hcount'⟩ :=
    exists_ownLinks (d.conversation.withEntries es) hconv hlinks d.pending fields
  have hsame : ∀ title, ((d.conversation.withEntries es).entryTitled? title).isNone =
      (d.conversation.entryTitled? title).isNone := Conversation.isNone_entryTitled?_congr hnames
  simp only [hsame, hid, Conversation.id_withEntries] at hown hcount' horigin
  refine ⟨db, es, e, ?_, hdb, hnames, hid'.trans hid, ?_, ?_⟩
  · simp only [addNode, hk, hbare, hparent, htitles, Conversation.id_withEntries, hown]
    rfl
  · intro e' he'
    rcases List.mem_append.1 he' with he' | he'
    · exact howns e' he'
    · rw [List.mem_singleton.1 he', hid', hid]
      exact ⟨hconv', horigin⟩
  · rw [hnumeric, htitles]
    simp only [Conversation.links, Conversation.entries_withEntries, List.flatMap_append,
      List.flatMap_singleton, List.length_append] at hcount ⊢
    omega

/-! ## One node after another -/

/-- A draft that accounts for every link that these nodes of a forest ask for. -/
structure Accounts (nodes : Forest) (start d : Draft) (made : Forest) : Prop where
  id : d.conversation.id = start.conversation.id
  title : d.conversation.title = start.conversation.title
  conversations : d.db.conversations = start.db.conversations
  ids : d.conversation.entries.map (·.id) = startId :: made.entryNodes.map (·.id)
  owns : d.conversation.OwnsLinks
  pending : d.pending = start.pending ++ made.waiting d.conversation
  diagnostics : d.diagnostics = start.diagnostics ++ nodes.orphans made
  links : d.conversation.links.length + (made.waiting d.conversation).length +
      (nodes.orphans made).length =
    made.entryNodes.length + (made.flatMap Node.numericLinks).length +
      (made.flatMap Node.titleLinks).length

namespace Accounts

variable {start : Draft} {made : Forest}

theorem length_entries (h : Accounts nodes start d made) :
    d.conversation.entries.length = made.entryNodes.length + 1 := by
  have hlength := congrArg List.length h.ids
  simpa using hlength

/-- A header line asks for nothing, whatever it changes but the ids, titles and links of entries. -/
theorem of_header (h : Accounts nodes start d made) (hk : n.kind.isHeader = true)
    {db : Database} (hdb : db.conversations = d.db.conversations) {c : Conversation}
    (hid : c.id = d.conversation.id) (htitle : c.title = d.conversation.title)
    (hnames : c.entries.map (fun e => (e.id, e.title)) =
      d.conversation.entries.map fun e => (e.id, e.title))
    (howns : c.OwnsLinks) (hlinks : c.links.length = d.conversation.links.length) :
    Accounts nodes start { d with db, conversation := c } (made ++ [n]) := by
  have hnumeric : n.numericLinks = [] := by
    unfold Node.numericLinks
    split <;> simp_all [NodeKind.isHeader]
  have htitles : n.titleLinks = [] := by
    unfold Node.titleLinks
    split <;> simp_all [NodeKind.isHeader]
  have hwaiting : Forest.waiting (made ++ [n]) c = made.waiting d.conversation := by
    rw [Forest.waiting_append_header hk]
    apply (Forest.waiting_congr hid.symm (hnames ▸ List.prefix_rfl) _).symm
    rw [h.length_entries]
    omega
  constructor
  case id => exact hid.trans h.id
  case title => exact htitle.trans h.title
  case conversations => exact hdb.trans h.conversations
  case ids =>
    rw [Forest.entryNodes_append_header hk, ← h.ids]
    exact map_id_of_names hnames
  case owns => exact howns
  case pending => rw [hwaiting, h.pending]
  case diagnostics => rw [Forest.orphans_append_header hk, h.diagnostics]
  case links =>
    rw [hwaiting, hlinks, Forest.orphans_append_header hk, h.links,
      Forest.entryNodes_append_header hk]
    simp [hnumeric, htitles]

/-- An entry node asks for a link to its entry and for its own, and each comes to something. -/
theorem addNode_entry (h : Accounts nodes start d made) {content : Content} {fields : Fields}
    (hk : n.kind = .entry content fields) :
    Accounts nodes start (Draft.addNode nodes player d n) (made ++ [n]) := by
  have hentry : n.kind.isHeader = false := by rw [hk]; rfl
  obtain ⟨db, es, e, hadd, hdb, hnames, hid, howns, hcount⟩ :=
    exists_addNode_entry h.owns nodes player hk h.ids
  have hwaiting : Forest.waiting (made ++ [n]) (d.conversation.withEntries (es ++ [e])) =
      made.waiting d.conversation ++ (n.titleLinks.filter fun title =>
        (d.conversation.entryTitled? title).isNone).map (⟨·, ⟨d.conversation.id, n.id⟩⟩) := by
    refine Forest.waiting_append_entry rfl hentry ?_ h.length_entries
    rw [Conversation.withEntries, List.map_append, hnames]
    exact List.prefix_append _ _
  rw [hadd]
  constructor
  case id => exact h.id
  case title => exact h.title
  case conversations => exact hdb.trans h.conversations
  case ids =>
    rw [Forest.entryNodes_append_entry hentry, Conversation.withEntries, List.map_append,
      map_id_of_names hnames, h.ids, List.map_append, List.map_singleton, hid]
    rfl
  case owns => exact howns
  case pending => rw [hwaiting, h.pending, List.append_assoc]
  case diagnostics => rw [Forest.orphans_append_entry hentry, h.diagnostics, List.append_assoc]
  case links =>
    have hbefore := h.links
    rw [hwaiting, Forest.orphans_append_entry hentry, Forest.entryNodes_append_entry hentry]
    simp only [List.flatMap_append, List.flatMap_singleton, List.length_append, List.length_map,
      List.length_singleton]
    omega

/-- Every node of a forest is accounted for. -/
theorem addNode (h : Accounts nodes start d made) (n : Node) :
    Accounts nodes start (Draft.addNode nodes player d n) (made ++ [n]) := by
  rcases hk : n.kind with title | name | ⟨content, fields⟩
  · rw [Draft.addNode, hk]
    exact h.of_header (by rw [hk]; rfl) rfl rfl rfl rfl h.owns rfl
  · obtain ⟨actor, db, hactor⟩ : ∃ actor db, d.db.actorId name false = (actor, db) :=
      ⟨_, _, rfl⟩
    have hdb := Database.conversations_actorId d.db name false
    rw [hactor] at hdb
    simp only [Draft.addNode, hk, hactor]
    refine h.of_header (by rw [hk]; rfl) hdb rfl rfl ?_ ?_ ?_
    · apply map_updateFirst
      intro e
      rfl
    · apply forall_mem_updateFirst _ h.owns
      exact fun e he => he
    · have hlinks : (updateFirst (·.id = startId) ({ · with conversant := some actor })
          d.conversation.entries).map Entry.links = d.conversation.entries.map Entry.links := by
        apply map_updateFirst
        intro e
        rfl
      rw [Conversation.links, Conversation.links, List.flatMap_def, List.flatMap_def]
      exact congrArg (fun links => links.flatten.length) hlinks
  · exact h.addNode_entry hk

/-- Every forest is accounted for. -/
theorem foldl_addNode (h : Accounts nodes start d made) (rest : Forest) :
    Accounts nodes start (rest.foldl (Draft.addNode nodes player) d) (made ++ rest) := by
  induction rest generalizing d made with
  | nil => simpa using h
  | cons n rest ih =>
    rw [← List.singleton_append, ← List.append_assoc]
    exact ih (h.addNode n)

/-- A draft that has only just been started owes nothing. -/
theorem of_start {N : Naming} {sequence title : String}
    (hstart : start.conversation = N.conversation sequence (.blank title)) {first : Node}
    (hfirst : first.kind = .title title) : Accounts nodes start start [first] := by
  have hnodes : Forest.entryNodes [first] = [] := by
    simp [Forest.entryNodes, hfirst, NodeKind.isHeader]
  have hwaiting : Forest.waiting [first] start.conversation = [] := by
    rw [Forest.waiting, hnodes]
    rfl
  have horphans : nodes.orphans [first] = [] := by
    rw [Forest.orphans, hnodes]
    rfl
  have hlinks : start.conversation.links = [] := by
    rw [hstart]
    rfl
  constructor
  case id => rfl
  case title => rfl
  case conversations => rfl
  case ids =>
    rw [hstart, hnodes]
    rfl
  case owns =>
    rw [hstart]
    intro e he
    rw [List.mem_singleton.1 he]
    exact ⟨rfl, List.forall_mem_nil _⟩
  case pending => rw [hwaiting, List.append_nil]
  case diagnostics => rw [horphans, List.append_nil]
  case links =>
    have hnumeric : first.numericLinks = [] := by rw [Node.numericLinks, hfirst]
    have htitles : first.titleLinks = [] := by rw [Node.titleLinks, hfirst]
    simp [hlinks, hwaiting, horphans, hnodes, hnumeric, htitles]

end Accounts

end Draft

/-- Assembling loses no link, whatever the forest is like below its title. What a conversation of
this title left waiting is dropped, with a warning for each link. Of what the nodes ask for, which
is a link to each entry and the links by number and by title, everything is a link of the
conversation, in the entry that it starts from, or waits, or has been warned about. Other
conversations stay as they are. -/
theorem assemble_accounts (id : EntryId) (depth line : Nat) (parent : Option Nat) (title : String)
    (rest : Forest) (options : ImportOptions) (db : Database) (pending : List PendingLink) :
    let nodes : Forest := ⟨id, depth, line, parent, .title title⟩ :: rest
    ∃ done c, assemble nodes options db pending = .ok done ∧
      done.assembly.conversation = c.id ∧ c.id = db.idFor title ∧ c.title = title ∧
      done.db.conversations = db.conversations.filter (·.title ≠ title) ++ [c] ∧
      c.entries.map (·.id) = startId :: nodes.entryNodes.map (·.id) ∧
      c.OwnsLinks ∧
      done.pending = pending.filter (!db.dropsLink title ·) ++ nodes.waiting c ∧
      done.diagnostics =
        (pending.filter (db.dropsLink title)).map PendingLink.stale ++ nodes.orphans nodes ∧
      c.links.length + (nodes.waiting c).length + (nodes.orphans nodes).length =
        nodes.entryNodes.length + (nodes.flatMap Node.numericLinks).length +
          (nodes.flatMap Node.titleLinks).length := by
  intro nodes
  obtain ⟨N, hid, hplayer, -⟩ := db.exists_naming options.playerName (.blank title)
  have hid : N.idOf title = db.idFor title := hid
  rcases hstart : Draft.start title options db pending with ⟨player, start⟩
  have hstarted := Draft.start_eq pending hid hplayer
  rw [hstart, Prod.mk.injEq] at hstarted
  obtain ⟨rfl, hstarted⟩ := hstarted
  have hbegin : Draft.Accounts nodes start start [⟨id, depth, line, parent, .title title⟩] :=
    .of_start (by rw [hstarted]) rfl
  have hall : Draft.Accounts nodes start (rest.foldl (Draft.addNode nodes N.player) start) nodes :=
    hbegin.foldl_addNode rest
  have hid' : start.conversation.id = db.idFor title := by rw [hstarted]; exact hid
  have htitle : start.conversation.title = title := by rw [hstarted]; rfl
  have hconversations : start.db.conversations = db.conversations.filter (·.title ≠ title) := by
    rw [hstarted]
    simp [Database.removeTitled]
  have hpending : start.pending = pending.filter (!db.dropsLink title ·) := by rw [hstarted]
  have hdiagnostics : start.diagnostics =
      (pending.filter (db.dropsLink title)).map PendingLink.stale := by rw [hstarted]
  refine ⟨_, _, by rw [assemble, hstart], rfl, hall.id.trans hid', hall.title.trans htitle, ?_,
    hall.ids, hall.owns, hpending ▸ hall.pending, hdiagnostics ▸ hall.diagnostics, hall.links⟩
  rw [Database.addConversation, hall.conversations, hconversations]

/-- The first entry hangs from the next one, which hangs from itself, and the last one, with the id
of `START`, from the title. -/
example :
    let nodes : Forest :=
      [⟨0, 0, 1, none, .title "Hall"⟩, ⟨7, 0, 2, some 2, .entry (.reply "Who?") .none⟩,
        ⟨9, 0, 3, some 2, .entry (.reply "You?") .none⟩,
        ⟨0, 0, 4, some 0, .entry (.reply "I.") .none⟩]
    nodes.orphans nodes = [.atLine 2 (.missingParent 7 9), .atLine 3 (.missingParent 9 9)] := by
  decide

end Dialogue
