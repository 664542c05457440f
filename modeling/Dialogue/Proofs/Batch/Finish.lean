import Dialogue.Proofs.Batch.Run
import Dialogue.Proofs.Resolution.Writing

/-!
# What a batch leaves behind

A run that has ended (`Naming.Ran`) is finished by resolving what waits. Every waiting link starts
from the conversation of a survivor, and no two survivors share an id as long as ids last, so each
conversation gets exactly the links of its own outline (`Naming.Ran.receive_conversation`) and the
conversations that the run did not import get none (`Naming.Ran.receive_kept`). So the database at the end is written
down at once (`Naming.Ran.finish_db`): what the run kept, and then, for every survivor,
`Naming.resolved`.
-/

namespace Dialogue

open Script

namespace Naming

variable (N : Naming)

/-- The links of an outline that are written at the end, where titles lead there. -/
def lateLinks (target : String → Option EntryRef) (o : Outline) : List Link :=
  o.waits.filterMap fun (entry, title) => (target title).map (⟨⟨N.idOf o.title, entry⟩, ·⟩)

/-- The entry of a piece at the end, where titles lead there. -/
def finishedEntry (conversation : ConversationId) (pieces : List Piece)
    (target : String → Option EntryRef) (p : Piece) : Entry :=
  (N.entry conversation pieces p).linkToAll ((p.waiting pieces).filterMap target)

/-- The conversation of an outline at the end, where titles lead there. -/
def finished (sequence : String) (target : String → Option EntryRef) (o : Outline) :
    Conversation :=
  { N.conversation sequence o with
    entries :=
      N.start (N.idOf o.title) sequence o ::
        o.pieces.map (N.finishedEntry (N.idOf o.title) o.pieces target) }

/-- The conversation of an outline at the end, where titles lead in this database. -/
def resolved (options : ImportOptions) (db : Database) (o : Outline) : Conversation :=
  N.finished options.startSequence (db.target? (N.conversation options.startSequence o)) o

variable {N} {o : Outline} {target : String → Option EntryRef}

/-- The links of a finished entry. -/
theorem links_finishedEntry {conversation : ConversationId} {pieces : List Piece} {p : Piece} :
    (N.finishedEntry conversation pieces target p).links =
      (p.destinations conversation pieces ++ (p.waiting pieces).filterMap target).map
        (⟨⟨conversation, p.id⟩, ·⟩) := by
  unfold finishedEntry entry
  rw [Entry.linkToAll_linkToAll]
  rfl

/-- All links of an outline start from its conversation. -/
theorem conversation_of_mem_lateLinks {l : Link} (h : l ∈ N.lateLinks target o) :
    l.origin.conversation = N.idOf o.title := by
  obtain ⟨w, -, hw⟩ := List.mem_filterMap.1 h
  obtain ⟨ref, -, rfl⟩ := Option.map_eq_some_iff.1 hw
  rfl

/-- The links of an outline, piece by piece. -/
theorem lateLinks_eq_flatMap :
    N.lateLinks target o =
      o.pieces.flatMap fun p =>
        ((p.waiting o.pieces).filterMap target).map (⟨⟨N.idOf o.title, p.id⟩, ·⟩) := by
  unfold lateLinks Outline.waits
  rw [List.filterMap_flatMap]
  congr 1
  funext p
  rw [List.filterMap_map, List.map_filterMap]
  rfl

/-- The links of an outline that start from the entry of a piece. -/
theorem filter_lateLinks (h : o.Sound) {p : Piece} (hp : p ∈ o.pieces) :
    (N.lateLinks target o).filter (·.origin = ⟨N.idOf o.title, p.id⟩) =
      ((p.waiting o.pieces).filterMap target).map (⟨⟨N.idOf o.title, p.id⟩, ·⟩) := by
  have hfrom : ∀ q ∈ o.pieces,
      ∀ l ∈ ((q.waiting o.pieces).filterMap target).map
          (fun ref => (⟨⟨N.idOf o.title, q.id⟩, ref⟩ : Link)),
        decide (l.origin = ⟨N.idOf o.title, p.id⟩) = decide (q.id = p.id) := by
    intro q _ l hl
    obtain ⟨ref, -, rfl⟩ := List.mem_map.1 hl
    simp
  have hnodup : (o.pieces.map Piece.id).Nodup := (List.nodup_cons.1 h.nodup).2
  rw [lateLinks_eq_flatMap, filter_flatMap_eq hfrom, filter_of_nodup hnodup hp,
    List.flatMap_singleton]

/-- No link that waits starts from `START`. -/
theorem filter_lateLinks_start (h : o.Sound) :
    (N.lateLinks target o).filter (·.origin = ⟨N.idOf o.title, startId⟩) = [] := by
  rw [List.filter_eq_nil_iff, lateLinks_eq_flatMap]
  intro l hl
  obtain ⟨p, hp, hl⟩ := List.mem_flatMap.1 hl
  obtain ⟨ref, -, rfl⟩ := List.mem_map.1 hl
  have hne : p.id ≠ startId := Nat.ne_of_gt (h.pos p hp)
  simpa using hne

/-- The conversation of an outline, with the links of the outline in it, is finished. -/
theorem receive_lateLinks (h : o.Sound) (sequence : String) :
    (N.conversation sequence o).receive (N.lateLinks target o) = N.finished sequence target o := by
  have hstart : { N.start (N.idOf o.title) sequence o with
      links := (N.start (N.idOf o.title) sequence o).links ++
        (N.lateLinks target o).filter (·.origin = ⟨N.idOf o.title, startId⟩) } =
      N.start (N.idOf o.title) sequence o := by
    rw [filter_lateLinks_start h, List.append_nil]
  have hpiece : ∀ p ∈ o.pieces, { N.entry (N.idOf o.title) o.pieces p with
      links := (N.entry (N.idOf o.title) o.pieces p).links ++
        (N.lateLinks target o).filter (·.origin = ⟨N.idOf o.title, p.id⟩) } =
      N.finishedEntry (N.idOf o.title) o.pieces target p := by
    intro p hp
    rw [filter_lateLinks h hp]
    rfl
  have hpieces := List.map_congr_left hpiece
  unfold Conversation.receive finished
  simp only [conversation, List.map_cons, List.map_map]
  congr 2

/-- The ids and the titles of the entries of a finished conversation. -/
theorem names_finished (h : o.Sound) {sequence : String} :
    (N.finished sequence target o).entries.map (fun e => (e.id, e.title)) =
      (startId, startTitle) :: o.pieces.map fun p => (p.id, p.title) := by
  rw [← receive_lateLinks h, Conversation.names_receive]
  exact titles_written _ sequence o.pieces o.pieces

/-- The ids of the entries of a finished conversation. -/
theorem ids_finished (h : o.Sound) {sequence : String} :
    (N.finished sequence target o).entries.map (·.id) = startId :: o.pieces.map Piece.id := by
  have hids : (N.finished sequence target o).entries.map (·.id) =
      ((N.finished sequence target o).entries.map fun e => (e.id, e.title)).map Prod.fst := by
    rw [List.map_map]
    rfl
  rw [hids, names_finished h, List.map_cons, List.map_map]
  rfl

end Naming

/-- Links that are written change no id that a title goes with. -/
theorem Database.idTitled?_receive (db : Database) (links : List Link) (title : String) :
    (db.receive links).idTitled? title = db.idTitled? title := by
  have hfind : (db.receive links).conversationTitled? title =
      (db.conversationTitled? title).map (·.receive links) := by
    unfold conversationTitled? receive
    rw [List.find?_map]
    rfl
  rw [Database.idTitled?, hfind, Option.map_map]
  rfl

/-- Links that are written change no id that the database gives out. -/
theorem Naming.Fits.receive {N : Naming} {db : Database} {o : Outline} (h : N.Fits db o)
    (links : List Link) : N.Fits (db.receive links) o where
  title := by
    rw [Database.idTitled?_receive]
    exact h.title
  names := h.names
  player := h.player

/-! ## A run that has ended -/

/-- A batch over this database, whose conversations have distinct ids, after these sources, with
ids that fit and that have lasted. -/
structure Naming.Ran (N : Naming) (before : Database) (options : ImportOptions)
    (sources : List Source) (b : Batch) : Prop extends N.Wrote before options sources b where
  fits : ∀ o ∈ outlines sources, N.Fits b.db o
  last : before.ConversationIdsLast b.db
  nodup : (b.db.conversations.map (·.id)).Nodup

namespace Naming.Ran

variable {N : Naming} {db : Database} {options : ImportOptions} {sources : List Source} {b : Batch}
  {o : Outline}

/-- Every run ends so, with any ids that fit, as long as the ids last. -/
theorem of_importSources (hdb : (db.conversations.map (·.id)).Nodup)
    (hlast : db.ConversationIdsLast ((Batch.start db options).importSources sources).db)
    (hN : ∀ o ∈ outlines sources, N.Fits ((Batch.start db options).importSources sources).db o) :
    N.Ran db options sources ((Batch.start db options).importSources sources) where
  toWrote := .of_importSources hdb hlast hN
  fits := hN
  last := hlast
  nodup := Batch.nodup_importSources (b := .start db options) hdb hlast

/-- Every run ends so, with the ids that the database gives out, if they last until the end of the
batch. -/
theorem naming (hdb : (db.conversations.map (·.id)).Nodup)
    (hlast : db.ConversationIdsLast (importSources db sources options).2) :
    Naming.Ran ((Batch.start db options).importSources sources).db.naming db options sources
      ((Batch.start db options).importSources sources) :=
  .of_importSources hdb (hlast.first (Batch.continues_finish _)) fun _ ho =>
    Batch.naming_fits_importSources _ ho

/-- The conversation of a survivor is there. -/
theorem mem_conversations (h : N.Ran db options sources b) (ho : o ∈ survivors (outlines sources)) :
    N.conversation options.startSequence o ∈ b.db.conversations := by
  rw [h.db]
  exact List.mem_append_right _ (List.mem_map_of_mem ho)

/-- The conversation of a survivor is found by its id. -/
theorem conversationById? (h : N.Ran db options sources b)
    (ho : o ∈ survivors (outlines sources)) :
    b.db.conversationById? (N.idOf o.title) = some (N.conversation options.startSequence o) :=
  find?_of_nodup h.nodup (h.mem_conversations ho) rfl

/-- Outlines with one id have one title. -/
theorem title_eq (h : N.Ran db options sources b) {o' : Outline} (ho : o ∈ outlines sources)
    (ho' : o' ∈ outlines sources) (hid : N.idOf o.title = N.idOf o'.title) :
    o.title = o'.title := by
  refine Database.title_eq_of_idTitled? h.nodup (h.fits o ho).title ?_
  rw [hid]
  exact (h.fits o' ho').title

/-- A conversation that the run did not import has an id that no survivor has. -/
theorem id_ne_of_kept (h : N.Ran db options sources b) {c : Conversation}
    (hc : c ∈ db.conversations) (ht : c.title ∉ (outlines sources).map Outline.title)
    (ho : o ∈ survivors (outlines sources)) : c.id ≠ N.idOf o.title := by
  intro hid
  have hmem : c ∈ b.db.conversations := by
    rw [h.db]
    exact List.mem_append_left _ (List.mem_filter.2 ⟨hc, by simpa using ht⟩)
  have hsame : c = N.conversation options.startSequence o :=
    List.inj_on_of_nodup_map h.nodup hmem (h.mem_conversations ho) hid
  rw [hsame] at ht
  exact ht (List.mem_map_of_mem (mem_of_mem_survivors ho))

/-! ## What waits -/

/-- What waits starts from an entry of a survivor. -/
theorem entryById?_isSome {e : EntryId} {title : String} (hw : (e, title) ∈ o.waits) :
    ((N.conversation options.startSequence o).entryById? e).isSome := by
  obtain ⟨p, hp, hpe⟩ := List.mem_flatMap.1 hw
  obtain ⟨t, -, ht⟩ := List.mem_map.1 hpe
  cases ht
  have hmem : p.id ∈ (N.conversation options.startSequence o).entries.map Entry.id := by
    rw [Naming.ids_conversation]
    exact List.mem_cons_of_mem _ (List.mem_map_of_mem hp)
  obtain ⟨entry, hentry, hid⟩ := List.mem_map.1 hmem
  rw [Conversation.entryById?, List.find?_isSome]
  exact ⟨entry, hentry, by simpa using hid⟩

/-- The links that are written at the end are those of the survivors. -/
theorem links_resolve (h : N.Ran db options sources b) :
    (resolve b.db b.pending).links =
      (survivors (outlines sources)).flatMap fun o =>
        N.lateLinks (b.db.target? (N.conversation options.startSequence o)) o := by
  unfold resolve
  simp only [h.pending, List.filterMap_flatMap]
  refine List.flatMap_congr fun o ho => ?_
  rw [Naming.queue, List.filterMap_map, Naming.lateLinks]
  refine List.filterMap_congr fun ⟨e, title⟩ hw => ?_
  exact PendingLink.link?_eq (h.conversationById? ho) (entryById?_isSome hw)

/-- The links that start from the conversation of a survivor are those of its outline. -/
theorem filter_links (h : N.Ran db options sources b) (ho : o ∈ survivors (outlines sources)) :
    (resolve b.db b.pending).links.filter (·.origin.conversation = N.idOf o.title) =
      N.lateLinks (b.db.target? (N.conversation options.startSequence o)) o := by
  have hfrom : ∀ o' ∈ survivors (outlines sources),
      ∀ l ∈ N.lateLinks (b.db.target? (N.conversation options.startSequence o')) o',
        decide (l.origin.conversation = N.idOf o.title) = decide (o'.title = o.title) := by
    intro o' ho' l hl
    rw [Naming.conversation_of_mem_lateLinks hl, decide_eq_decide]
    exact ⟨h.title_eq (mem_of_mem_survivors ho') (mem_of_mem_survivors ho), congrArg N.idOf⟩
  rw [h.links_resolve, filter_flatMap_eq hfrom, filter_of_nodup (nodup_titles_survivors _) ho,
    List.flatMap_singleton]

/-- The conversation of a survivor is finished at the end. -/
theorem receive_conversation (h : N.Ran db options sources b)
    (ho : o ∈ survivors (outlines sources)) :
    (N.conversation options.startSequence o).receive (resolve b.db b.pending).links =
      N.resolved options b.db o := by
  have hown := h.filter_links ho
  have hid : (N.conversation options.startSequence o).id = N.idOf o.title := rfl
  rw [← Conversation.receive_filter, hid, hown]
  exact Naming.receive_lateLinks (sound_of_mem_outlines (mem_of_mem_survivors ho)) _

/-- A conversation that the run did not import stays as it is. -/
theorem receive_kept (h : N.Ran db options sources b) {c : Conversation}
    (hc : c ∈ db.conversations) (ht : c.title ∉ (outlines sources).map Outline.title) :
    c.receive (resolve b.db b.pending).links = c := by
  refine Conversation.receive_eq_self fun l hl => ?_
  rw [h.links_resolve] at hl
  obtain ⟨o, ho, hl⟩ := List.mem_flatMap.1 hl
  rw [Naming.conversation_of_mem_lateLinks hl]
  exact (h.id_ne_of_kept hc ht ho).symm

/-! ## What is left behind -/

/-- All links that are resolved are written, each to the entry that it starts from. -/
theorem writeLinks_resolve (h : N.Ran db options sources b) :
    b.db.writeLinks (resolve b.db b.pending).links =
      ((resolve b.db b.pending).links.length, b.db.receive (resolve b.db b.pending).links) := by
  refine Database.writeLinks_resolve b.pending h.nodup fun l hl c hc hid => ?_
  rw [h.links_resolve] at hl
  obtain ⟨o, ho, hl⟩ := List.mem_flatMap.1 hl
  rw [Naming.conversation_of_mem_lateLinks hl] at hid
  have hsame : c = N.conversation options.startSequence o :=
    List.inj_on_of_nodup_map h.nodup hc (h.mem_conversations ho) hid
  rw [hsame, Naming.ids_conversation]
  exact (sound_of_mem_outlines (mem_of_mem_survivors ho)).nodup

/-- Finishing hands every waiting link to the entry that it starts from. -/
theorem finish_eq_receive (h : N.Ran db options sources b) :
    b.finish.2 = b.db.receive (resolve b.db b.pending).links :=
  congrArg Prod.snd h.writeLinks_resolve

/-- The database at the end. -/
theorem finish_db (h : N.Ran db options sources b) :
    b.finish.2 =
      { db.staffAll options.playerName (outlines sources) with
        conversations :=
          db.conversations.filter (·.title ∉ (outlines sources).map Outline.title) ++
            (survivors (outlines sources)).map (N.resolved options b.db) } := by
  have hkept : ∀ c ∈ db.conversations.filter (·.title ∉ (outlines sources).map Outline.title),
      c.receive (resolve b.db b.pending).links = c := by
    intro c hc
    obtain ⟨hc, ht⟩ := List.mem_filter.1 hc
    exact h.receive_kept hc (by simpa using ht)
  have hnew : ∀ o ∈ survivors (outlines sources),
      (N.conversation options.startSequence o).receive (resolve b.db b.pending).links =
        N.resolved options b.db o := fun o ho => h.receive_conversation ho
  have hconversations := congrArg Database.conversations h.db
  rw [h.finish_eq_receive, Database.receive, hconversations, List.map_append,
    List.map_congr_left hkept, List.map_id', List.map_map, List.map_congr_left (f := _ ∘ _) hnew,
    h.db]

/-- The conversation of a survivor is there at the end. -/
theorem mem_finish (h : N.Ran db options sources b) (ho : o ∈ survivors (outlines sources)) :
    N.resolved options b.db o ∈ b.finish.2.conversations := by
  rw [h.finish_db]
  exact List.mem_append_right _ (List.mem_map.2 ⟨o, ho, rfl⟩)

/-- What is there at the end was kept or is finished. -/
theorem mem_finish_iff (h : N.Ran db options sources b) {c : Conversation} :
    c ∈ b.finish.2.conversations ↔
      (c ∈ db.conversations ∧ c.title ∉ (outlines sources).map Outline.title) ∨
        ∃ o ∈ survivors (outlines sources), c = N.resolved options b.db o := by
  rw [h.finish_db, List.mem_append]
  refine or_congr ?_ ?_
  · rw [List.mem_filter]
    exact and_congr_right fun _ => decide_eq_true_iff
  · rw [List.mem_map]
    exact exists_congr fun o => and_congr_right fun _ => eq_comm

/-- Outlines of the run fit the database at the end. -/
theorem fits_finish (h : N.Ran db options sources b) (ho : o ∈ outlines sources) :
    N.Fits b.finish.2 o := by
  rw [h.finish_eq_receive]
  exact (h.fits o ho).receive _

/-- Finishing changes no id. -/
theorem ids_finish (h : N.Ran db options sources b) :
    b.finish.2.conversations.map (·.id) = b.db.conversations.map (·.id) := by
  rw [h.finish_db, h.db, List.map_append, List.map_append, List.map_map, List.map_map]
  rfl

/-- The ids of the conversations at the end are distinct. -/
theorem nodup_finish (h : N.Ran db options sources b) :
    (b.finish.2.conversations.map (·.id)).Nodup := by
  rw [h.ids_finish]
  exact h.nodup

/-- The titles at the end: those that were kept, and those of the survivors. -/
theorem titles_finish (h : N.Ran db options sources b) :
    b.finish.2.conversations.map (·.title) =
      (db.conversations.filter (·.title ∉ (outlines sources).map Outline.title)).map (·.title) ++
        (survivors (outlines sources)).map Outline.title := by
  rw [h.finish_db, List.map_append, List.map_map]
  rfl

/-- The conversation of a survivor is the only one of its title at the end. -/
theorem filter_titled (h : N.Ran db options sources b) (ho : o ∈ survivors (outlines sources)) :
    b.finish.2.conversations.filter (·.title = o.title) = [N.resolved options b.db o] := by
  have hkept : (db.conversations.filter
      (·.title ∉ (outlines sources).map Outline.title)).filter (·.title = o.title) = [] := by
    rw [List.filter_eq_nil_iff]
    intro c hc ht
    obtain ⟨-, hnot⟩ := List.mem_filter.1 hc
    simp only [decide_eq_true_eq] at ht hnot
    rw [ht] at hnot
    exact hnot (List.mem_map_of_mem (mem_of_mem_survivors ho))
  have htitle : (fun c : Conversation => decide (c.title = o.title)) ∘ N.resolved options b.db =
      fun o' => decide (o'.title = o.title) := rfl
  rw [h.finish_db, List.filter_append, hkept, List.nil_append, List.filter_map, htitle,
    filter_of_nodup (nodup_titles_survivors _) ho, List.map_singleton]

/-- From a survivor, a title leads at the end where it led before. -/
theorem target?_finish (h : N.Ran db options sources b) (ho : o ∈ survivors (outlines sources))
    (title : String) :
    b.finish.2.target? (N.resolved options b.db o) title =
      b.db.target? (N.conversation options.startSequence o) title := by
  rw [h.finish_eq_receive, ← h.receive_conversation ho, Database.target?_receive]

end Naming.Ran

end Dialogue
