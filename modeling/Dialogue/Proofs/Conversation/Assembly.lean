import Dialogue.Proofs.Conversation.Written
import Dialogue.Proofs.Database.Names

/-!
# Assembling writes the conversation of the outline

`assemble_eq` says what assembling a grown forest gives. The database has the people whom the
outline names, and in place of the conversations of its title the one that `Naming.conversation`
writes down. The queue has lost the links that start from the replaced conversation, each with a
warning, and has gained `Naming.queue`. Nothing else is remarked: every parent is found.

The argument is one step per node (`Draft.addNode_eq`) and an induction on how the forest grew
(`Draft.foldl_addNode`). The names in the statement are those that the database gives out when it
is all done. A name keeps its id once it has one, so they are also those of every earlier moment.
-/

namespace Dialogue

open Script

/-- The ids that a naming has for these names are those that the database gives out. -/
def Naming.FitsNames (N : Naming) (db : Database) (names : List String) : Prop :=
  ∀ name ∈ names, db.idNamed? name = some (N.actorOf name)

/-- A naming that fits a later database fits an earlier one, where that has all the names. -/
theorem Naming.FitsNames.of_actors {N : Naming} {db db' : Database} {names : List String}
    (h : N.FitsNames db' names) (hp : db.actors <+: db'.actors)
    (hnames : ∀ name ∈ names, ∃ id, db.idNamed? name = some id) : N.FitsNames db names := by
  intro name hname
  obtain ⟨id, hid⟩ := hnames name hname
  rw [hid, ← Database.idNamed?_of_actors hp hid]
  exact h name hname

namespace Draft

variable {N : Naming} {d : Draft} {o : Outline} {sequence : String}

/-! ## The parts of a step -/

/-- The id given for a name that is enrolled. -/
theorem actorId_of_fitsNames {db : Database} {name : String}
    (h : N.FitsNames (db.enroll [name]) [name]) : (db.actorId name false).1 = N.actorOf name := by
  have hfits := h name (List.mem_singleton.2 rfl)
  rw [Database.enroll_cons, Database.enroll_nil, Database.idNamed?_actorId] at hfits
  exact Option.some.inj hfits

/-- The entry that a draft makes of a node is that of the piece. -/
theorem entryFor_eq (hconv : d.conversation = N.conversation sequence o) (n : Node)
    {content : Content} (fields : Fields)
    (hnames : N.FitsNames (d.db.enroll (contentNames content)) (contentNames content)) :
    d.entryFor N.player n.id fields content =
      (N.bare (N.idOf o.title) (.ofNode o.conversant n content fields),
        d.db.enroll (contentNames content)) := by
  have hid : d.conversation.id = N.idOf o.title := by rw [hconv]; rfl
  have hconversant : d.conversation.conversant = o.conversant.map N.actorOf := by rw [hconv]; rfl
  cases content with
  | speak actor text =>
      have hactor : (d.db.actorId actor false).1 = N.actorOf actor := actorId_of_fitsNames hnames
      simp only [entryFor, hactor, hid]
      rfl
  | reply text =>
      simp only [entryFor, hid, hconversant]
      rfl
  | group title =>
      simp only [entryFor, hid, hconversant, nonBlank_getD]
      rfl
  | sequenceNode body =>
      simp only [entryFor, hid, hconversant]
      rfl

/-- The links by number are added after those that are there. -/
theorem linkByNumber_eq (conversation : ConversationId) (e : Entry) (links : List NumericLink) :
    linkByNumber conversation e links =
      e.linkToAll (links.map fun l => ⟨l.conversation.getD conversation, l.entry⟩) := by
  unfold linkByNumber
  induction links generalizing e with
  | nil => rw [List.map_nil, Entry.linkToAll_nil, List.foldl_nil]
  | cons l links ih =>
      rw [List.foldl_cons, ih, Entry.linkTo_eq, Entry.linkToAll_linkToAll, List.map_cons,
        List.singleton_append]

/-- The links by title are added where the title is known, and wait where it is not. -/
theorem foldl_linkByTitle {c : Conversation} {known : String → Option EntryId}
    (hknown : ∀ title, (c.entryTitled? title).map Entry.id = known title) (e : Entry)
    (pending : List PendingLink) (titles : List String) :
    titles.foldl (linkByTitle c) (e, pending) =
      (e.linkToAll ((titles.filterMap known).map (⟨c.id, ·⟩)),
        pending ++ (titles.filter fun t => (known t).isNone).map (⟨·, ⟨c.id, e.id⟩⟩)) := by
  induction titles generalizing e pending with
  | nil => simp
  | cons t titles ih =>
      have ht := hknown t
      rw [List.foldl_cons]
      rcases hfind : c.entryTitled? t with _ | target
      · rw [hfind, Option.map_none] at ht
        rw [linkByTitle, hfind, ih]
        simp [← ht]
      · rw [hfind, Option.map_some] at ht
        rw [linkByTitle, hfind, ih, Entry.linkTo_eq, Entry.linkToAll_linkToAll]
        simp [← ht, Entry.linkToAll]

/-- The entry that a piece hangs from is there. -/
theorem entryById?_isSome {new : Piece} (h : new.parent ∈ startId :: o.pieces.map Piece.id) :
    ((N.conversation sequence o).entryById? new.parent).isSome := by
  rw [← Naming.ids_conversation (N := N) sequence] at h
  obtain ⟨e, he, hid⟩ := List.mem_map.1 h
  rw [Conversation.entryById?, List.find?_isSome]
  exact ⟨e, he, by simpa using hid⟩

/-- The link to a piece that joins is added to the entry that the piece hangs from. -/
theorem updateEntry_parent {new : Piece} {names : List String}
    (hsound : Outline.Sound { o with names, pieces := o.pieces ++ [new] }) :
    (N.conversation sequence o).updateEntry new.parent
        (·.linkTo ⟨(N.conversation sequence o).id, new.id⟩) =
      { N.conversation sequence o with
        entries :=
          N.start (N.idOf o.title) sequence { o with names, pieces := o.pieces ++ [new] } ::
            o.pieces.map (N.entry (N.idOf o.title) (o.pieces ++ [new])) } := by
  have hnodup : ((N.conversation sequence o).entries.map Entry.id).Nodup := by
    have hall := hsound.nodup
    rw [List.map_append, ← List.cons_append] at hall
    rw [Naming.ids_conversation]
    exact (List.nodup_append.1 hall).1
  have hentries : ∀ p ∈ o.pieces, N.entry (N.idOf o.title) (o.pieces ++ [new]) p =
      if p.id = new.parent then
        (N.entry (N.idOf o.title) o.pieces p).linkTo ⟨N.idOf o.title, new.id⟩
      else N.entry (N.idOf o.title) o.pieces p := by
    intro p hp
    exact Naming.entry_append (Nat.le_of_lt ((hsound.last rfl).1 p hp))
  unfold Conversation.updateEntry
  rw [updateFirst_eq_map hnodup, Naming.start_append, List.map_congr_left hentries]
  simp only [Naming.conversation, List.map_cons, List.map_map]
  rfl

/-! ## One node -/

/-- A draft that has written an outline writes, with one more entry node, the outline with that
node. -/
theorem addNode_entry (hconv : d.conversation = N.conversation sequence o) {nodes : Forest}
    {n : Node} {content : Content} {fields : Fields} (hk : n.kind = .entry content fields)
    (hsound : (o.add n).Sound) (hparent : parentId nodes n.parent = n.parent.getD startId)
    (hnames : N.FitsNames (d.db.enroll (contentNames content)) (contentNames content))
    {pending : List PendingLink} (hpending : d.pending = pending ++ N.queue o) :
    addNode nodes N.player d n =
      { db := d.db.enroll (contentNames content)
        conversation := N.conversation sequence (o.add n)
        pending := pending ++ N.queue (o.add n)
        diagnostics := d.diagnostics } := by
  obtain ⟨new, hnew⟩ : ∃ new, Piece.ofNode o.conversant n content fields = new := ⟨_, rfl⟩
  have ho : o.add n =
      { o with names := o.names ++ contentNames content, pieces := o.pieces ++ [new] } := by
    rw [Outline.add, hk, ← hnew]
  have hid : n.id = new.id := by rw [← hnew]; rfl
  have hpar : n.parent.getD startId = new.parent := by rw [← hnew]; rfl
  have hfields : fields = new.fields := by rw [← hnew]; rfl
  rw [ho] at hsound
  obtain ⟨hbelow, hroot⟩ := hsound.last rfl
  -- the conversation once the parent is linked, of which only two things are asked
  obtain ⟨c, hc⟩ : ∃ c : Conversation, c =
      { N.conversation sequence o with
        entries :=
          N.start (N.idOf o.title) sequence (o.add n) ::
            o.pieces.map (N.entry (N.idOf o.title) (o.pieces ++ [new])) } := ⟨_, rfl⟩
  have hcid : c.id = N.idOf o.title := by rw [hc]; rfl
  have hknown : ∀ title, (c.entryTitled? title).map Entry.id =
      Piece.titledAmong (new.before (o.pieces ++ [new])) title := by
    intro title
    rw [Piece.before_last hbelow]
    refine Piece.entryTitled?_eq_titledAmong ?_ title
    rw [hc]
    exact Naming.titles_written _ sequence o.pieces _
  simp only [addNode, hk, entryFor_eq hconv n fields hnames, hnew]
  unfold linkParent
  simp only [hparent, hpar, hconv, hid, entryById?_isSome hroot, if_true,
    updateEntry_parent hsound, ← ho, ← hc, linkByNumber_eq, foldl_linkByTitle hknown]
  rw [Entry.linkToAll_linkToAll, hfields, hcid, ← Piece.known, ← Naming.entry_last hsound, ho,
    Naming.queue_append hbelow, hpending, List.append_assoc, Piece.waiting, hc]
  simp only [Naming.conversation, List.map_append, List.map_cons, List.map_nil, ho,
    List.cons_append]
  rfl

/-- A draft that has written an outline writes, with one more node, the outline with that node. -/
theorem addNode_eq (hconv : d.conversation = N.conversation sequence o) {nodes : Forest} {n : Node}
    (hsound : (o.add n).Sound) (hparent : parentId nodes n.parent = n.parent.getD startId)
    {names : List String} (hadd : (o.add n).names = o.names ++ names)
    (hnames : N.FitsNames (d.db.enroll names) names) {pending : List PendingLink}
    (hpending : d.pending = pending ++ N.queue o) :
    addNode nodes N.player d n =
      { db := d.db.enroll names
        conversation := N.conversation sequence (o.add n)
        pending := pending ++ N.queue (o.add n)
        diagnostics := d.diagnostics } := by
  rcases hk : n.kind with title | name | ⟨content, fields⟩
  · have ho : o.add n = o := by rw [Outline.add, hk]
    have hnil : names = [] := by
      rw [ho] at hadd
      exact List.self_eq_append_right.1 hadd
    subst hnil
    simp only [addNode, hk, ho, ← hconv, ← hpending, Database.enroll_nil]
  · have ho : o.add n = { o with names := o.names ++ [name], conversant := some name } := by
      rw [Outline.add, hk]
    have hone : names = [name] := by
      rw [ho] at hadd
      exact (List.append_cancel_left hadd).symm
    subst hone
    have hactor := actorId_of_fitsNames hnames
    simp only [addNode, hk, hactor, ho, hconv, hpending]
    congr 1
  · have hmore : names = contentNames content := by
      have hself : (o.add n).names = o.names ++ contentNames content := by rw [Outline.add, hk]
      rw [hself] at hadd
      exact (List.append_cancel_left hadd).symm
    subst hmore
    exact addNode_entry hconv hk hsound hparent hnames hpending

/-! ## All nodes -/

/-- The parent of a node that joins a grown forest is found by its place, in any longer forest. -/
theorem parentId_eq {nodes full : Forest} (h : nodes.Grown) (hfull : nodes <+: full)
    {parent : Option Nat}
    (hparent : ∀ p, parent = some p → ∃ m, nodes[p]? = some m ∧ m.kind.isHeader = false) :
    parentId full parent = parent.getD startId := by
  rcases parent with _ | p
  · rfl
  · obtain ⟨m, hm, -⟩ := hparent p rfl
    obtain ⟨later, rfl⟩ := hfull
    have hp : (nodes ++ later)[p]? = some m := by
      rw [List.getElem?_append_left (List.getElem?_eq_some_iff.1 hm).1]
      exact hm
    simp only [parentId, Option.bind_some, hp, Option.map_some, Option.getD_some]
    exact h.id_eq hm

/-- The draft of the first nodes of a forest has written their outline. The induction is on how
they grew, with the whole forest, in which parents are looked up, held fixed. -/
theorem foldl_addNode {nodes : Forest} (h : nodes.Grown) {full : Forest} (hfull : nodes <+: full)
    (ho : nodes.outline? = some o) (start : Draft)
    (hstart : start.conversation = N.conversation sequence (.blank o.title))
    (hnames : N.FitsNames (start.db.enroll o.names) o.names) :
    nodes.tail.foldl (addNode full N.player) start =
      { db := start.db.enroll o.names
        conversation := N.conversation sequence o
        pending := start.pending ++ N.queue o
        diagnostics := start.diagnostics } := by
  induction h generalizing o with
  | title line depth text =>
      cases ho
      have hqueue : N.queue (.blank text) = [] := rfl
      have hconv : start.conversation = N.conversation sequence (.blank text) := hstart
      rw [List.foldl_nil, List.tail_cons, List.foldl_nil, hqueue, List.append_nil, ← hconv]
      rfl
  | @node nodes h line depth parent kind hkind hparent ih =>
      obtain ⟨o', ho'⟩ := h.exists_outline?
      have hgrown : Forest.Grown (nodes ++ [⟨nodes.length, depth, line, parent, kind⟩]) :=
        .node h line depth parent kind hkind hparent
      have hsound := hgrown.sound ho
      rw [Forest.outline?_append ho'] at ho
      cases ho
      obtain ⟨names, hadd⟩ := o'.exists_names_add ⟨nodes.length, depth, line, parent, kind⟩
      rw [hadd, Database.enroll_append] at hnames
      have hprefix : nodes <+: full := (List.prefix_append _ _).trans hfull
      have hbefore : N.FitsNames (start.db.enroll o'.names) o'.names := by
        refine Naming.FitsNames.of_actors (fun name hn => hnames name (List.mem_append_left _ hn))
          (Database.actors_enroll _ names) ?_
        intro name hn
        exact start.db.exists_idNamed?_enroll hn
      have hdraft := ih hprefix ho' (by rw [hstart, Outline.title_add]) hbefore
      have hnew : N.FitsNames ((start.db.enroll o'.names).enroll names) names := fun name hn =>
        hnames name (List.mem_append_right _ hn)
      rw [List.tail_append_of_ne_nil (List.ne_nil_of_length_pos h.length_pos), List.foldl_append,
        hdraft, List.foldl_cons, List.foldl_nil,
        addNode_eq rfl hsound (parentId_eq h hprefix hparent) hadd hnew rfl, hadd,
        Database.enroll_append]

end Draft

/-! ## The whole conversation -/

/-- Whether a waiting link starts from the conversation that one of this title would replace. -/
def Database.dropsLink (db : Database) (title : String) (p : PendingLink) : Bool :=
  db.idTitled? title = some p.origin.conversation

/-- The database with a conversation in place of those of its title, and with the people whom it
needs. -/
def Database.install (db : Database) (fallback : String) (o : Outline) (c : Conversation) :
    Database :=
  ((db.staff fallback o.names).removeTitled o.title).addConversation c

@[simp] theorem Database.conversations_install (db : Database) (fallback : String) (o : Outline)
    (c : Conversation) :
    (db.install fallback o c).conversations =
      db.conversations.filter (·.title ≠ o.title) ++ [c] := by
  rw [install, addConversation, removeTitled, conversations_staff]

/-- There are ids to write the conversation of an outline with. -/
theorem Database.exists_naming (db : Database) (fallback : String) (o : Outline) :
    ∃ N : Naming, N.idOf o.title = db.idFor o.title ∧ (db.playerId fallback).1 = N.player ∧
      N.FitsNames (db.staff fallback o.names) o.names := by
  refine ⟨⟨fun _ => db.idFor o.title,
    fun name => ((db.staff fallback o.names).idNamed? name).getD startId,
    (db.playerId fallback).1⟩, rfl, rfl, ?_⟩
  intro name hn
  obtain ⟨id, hfound⟩ := (db.playerId fallback).2.exists_idNamed?_enroll hn
  rw [← Database.staff] at hfound
  simp only [hfound, Option.getD_some]

/-- What a draft starts with. -/
theorem Draft.start_eq {N : Naming} {title : String} {options : ImportOptions} {db : Database}
    (pending : List PendingLink) (hid : N.idOf title = db.idFor title)
    (hplayer : (db.playerId options.playerName).1 = N.player) :
    Draft.start title options db pending =
      (N.player,
        { db := ((db.playerId options.playerName).2).removeTitled title
          conversation := N.conversation options.startSequence (.blank title)
          pending := pending.filter (!db.dropsLink title ·)
          diagnostics := (pending.filter (db.dropsLink title)).map PendingLink.stale }) := by
  have hidFor : ((db.conversationTitled? title).map (·.id)).getD db.nextConversationId =
      N.idOf title := hid.symm
  have hdrops : ∀ p : PendingLink, ((db.conversationTitled? title).isSome &&
      decide (p.origin.conversation = N.idOf title)) = db.dropsLink title p := by
    intro p
    rw [← hidFor]
    unfold Database.dropsLink Database.idTitled?
    rcases db.conversationTitled? title with _ | c
    · simp
    · simp [eq_comm]
  have hremove : (db.removeTitled title).playerId options.playerName =
      (N.player, ((db.playerId options.playerName).2).removeTitled title) := by
    rw [Database.removeTitled, Database.playerId_withConversations, hplayer, Database.removeTitled,
      Database.conversations_playerId]
  unfold Draft.start
  simp only [hremove, hidFor, hdrops]
  rfl

/-- Assembling a forest writes the conversation of its outline. -/
theorem assemble_eq {nodes : Forest} (h : nodes.Grown) {o : Outline} (ho : nodes.outline? = some o)
    (options : ImportOptions) (db : Database) (pending : List PendingLink) {N : Naming}
    (hid : N.idOf o.title = db.idFor o.title)
    (hplayer : (db.playerId options.playerName).1 = N.player)
    (hnames : N.FitsNames (db.staff options.playerName o.names) o.names) :
    assemble nodes options db pending =
      .ok
        { assembly :=
            { conversation := N.idOf o.title
              title := o.title
              replaced := (db.conversationTitled? o.title).isSome
              entries := o.pieces.length + 1 }
          db := db.install options.playerName o (N.conversation options.startSequence o)
          pending := pending.filter (!db.dropsLink o.title ·) ++ N.queue o
          diagnostics := (pending.filter (db.dropsLink o.title)).map PendingLink.stale } := by
  have hcopy := ho
  unfold Forest.outline? at hcopy
  split at hcopy
  · next id depth line parent title rest =>
    have htitle : o.title = title := by
      cases hcopy
      exact Outline.title_foldl_add _ rest
    have hstaff : ((db.playerId options.playerName).2.removeTitled title).enroll o.names =
        (db.staff options.playerName o.names).removeTitled title := by
      rw [Database.removeTitled, Database.enroll_withConversations, Database.removeTitled,
        Database.conversations_playerId, Database.conversations_staff]
      rfl
    rw [htitle] at hid
    have hstart := Draft.start_eq pending hid hplayer
    have hdraft := Draft.foldl_addNode h (List.prefix_refl _) ho
      (Draft.start title options db pending).2 (by rw [hstart, htitle])
      (by rw [hstart, hstaff]; exact hnames)
    rw [hstart, List.tail_cons] at hdraft
    simp only [hstaff] at hdraft
    rw [assemble, hstart]
    simp only [hdraft, htitle]
    have hlength : (N.conversation options.startSequence o).entries.length =
        o.pieces.length + 1 := by
      simp [Naming.conversation]
    have hconv : (N.conversation options.startSequence o).id = N.idOf title := by
      rw [← htitle]
      rfl
    rw [hlength, hconv, Database.install, htitle]
  · cases hcopy

end Dialogue
