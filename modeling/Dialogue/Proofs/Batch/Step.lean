import Dialogue.Proofs.Batch.Sources
import Dialogue.Proofs.Conversation.Assembly

/-!
# What one source does to a batch

A source either has an outline or is refused, and what it does then is the whole of what it can do:
`importSource_of_none` and `importSource_of_some` give the batch after it (`Batch.refuse`,
`Batch.accept`). All proofs about runs go through these two and never open `importSource` again.

The ids in the second one are those that the database gives out after the source
(`Naming.Fits`), or at any later time: importing is a continuation (`continues_importSource`), so
an id that fits later fits already (`Naming.Fits.of_continues`).
-/

namespace Dialogue

open Script

/-! ## A conversation that is installed -/

namespace Database

variable (db : Database) (fallback : String) (o : Outline) (c : Conversation)

theorem player?_install :
    (db.install fallback o c).player? = some (db.playerId fallback).1 :=
  player?_staff db fallback o.names

theorem idTitled?_install (hc : c.title = o.title) (title : String) :
    (db.install fallback o c).idTitled? title =
      if title = o.title then some c.id else db.idTitled? title := by
  have hstaff : (db.staff fallback o.names).idTitled? title = db.idTitled? title := by
    unfold Database.idTitled? conversationTitled?
    rw [conversations_staff]
  rw [install, ← hc, idTitled?_store, hstaff]

variable {db o c}

/-- The conversation ids last while one is installed, exactly if its title has one or the last id is
free. -/
theorem conversationIdsLast_install_iff (hc : c.title = o.title) (hid : c.id = db.idFor o.title) :
    db.ConversationIdsLast (db.install fallback o c) ↔
      (db.idTitled? o.title).isSome ∨ ∀ d ∈ db.conversations, d.id < maxId := by
  rw [← nextConversationId_ne_zero_iff]
  rcases ht : db.idTitled? o.title with _ | id
  · rw [idFor, ht, Option.getD_none] at hid
    simp only [Option.isSome_none, Bool.false_eq_true, false_or]
    constructor
    · intro h hzero
      refine h o.title ht ?_
      rw [idTitled?_install db fallback o c hc, if_pos rfl, hid, hzero]
    · intro hne title hnone hzero
      rw [idTitled?_install db fallback o c hc] at hzero
      split at hzero
      · exact hne (hid ▸ Option.some.inj hzero)
      · rw [hnone] at hzero
        cases hzero
  · refine iff_of_true (fun title hnone hzero => ?_) (.inl rfl)
    rw [idTitled?_install db fallback o c hc] at hzero
    split at hzero
    · next hsame =>
      rw [hsame, ht] at hnone
      cases hnone
    · rw [hnone] at hzero
      cases hzero

/-- Where the ids last while a conversation of a new title is installed, its id is not 0. -/
theorem ConversationIdsLast.nextConversationId_ne_zero (hc : c.title = o.title)
    (hid : c.id = db.idFor o.title) (hlast : db.ConversationIdsLast (db.install fallback o c))
    (hnew : db.idTitled? o.title = none) : db.nextConversationId ≠ 0 := by
  rcases (conversationIdsLast_install_iff fallback hc hid).1 hlast with hthere | hfree
  · rw [hnew] at hthere
    cases hthere
  · exact nextConversationId_ne_zero_iff.2 hfree

/-- The conversations keep distinct ids when one is installed under the id for its title, as long as
the ids last. -/
theorem nodup_install (h : (db.conversations.map (·.id)).Nodup) (hc : c.title = o.title)
    (hid : c.id = db.idFor o.title) (hlast : db.ConversationIdsLast (db.install fallback o c)) :
    ((db.install fallback o c).conversations.map (·.id)).Nodup := by
  have hfresh : ∀ d ∈ db.conversations.filter (·.title ≠ o.title), d.id ≠ c.id := by
    intro d hd heq
    obtain ⟨hd, hne⟩ := List.mem_filter.1 hd
    rw [hid, idFor] at heq
    rcases ht : db.conversationTitled? o.title with _ | old
    · have hnone : db.idTitled? o.title = none := Option.map_eq_none_iff.2 ht
      rw [hnone, Option.getD_none] at heq
      have hmem : d.id ∈ db.conversations.map (·.id) := List.mem_map_of_mem hd
      rw [heq] at hmem
      exact nextId_not_mem (hlast.nextConversationId_ne_zero fallback hc hid hnone) hmem
    · rw [Database.idTitled?, ht, Option.map_some, Option.getD_some] at heq
      have hold : old.title = o.title := by simpa using List.find?_some ht
      have hsame : d = old :=
        List.inj_on_of_nodup_map h hd (List.mem_of_find?_eq_some ht) heq
      simp [hsame, hold] at hne
  rw [conversations_install, List.map_append, List.nodup_append]
  refine ⟨h.sublist (List.filter_sublist.map _), List.nodup_singleton _, ?_⟩
  intro i hi j hj
  obtain ⟨d, hd, rfl⟩ := List.mem_map.1 hi
  rw [List.map_singleton, List.mem_singleton] at hj
  rw [hj]
  exact hfresh d hd

/-- Installing is a continuation. -/
theorem continues_install (hc : c.title = o.title) (hid : c.id = db.idFor o.title) :
    db.Continues (db.install fallback o c) where
  idTitled? := by
    intro title id h
    rw [idTitled?_install db fallback o c hc]
    split
    · next ht => rw [hid, idFor, ← ht, h, Option.getD_some]
    · exact h
  actors := actors_staff db fallback o.names
  player? := by
    intro id h
    rw [player?_install, playerId_of_player? h]

/-- Conversations with one id have one title, where ids are distinct. -/
theorem title_eq_of_idTitled? (h : (db.conversations.map (·.id)).Nodup) {title title' : String}
    {id : ConversationId} (ht : db.idTitled? title = some id)
    (ht' : db.idTitled? title' = some id) : title = title' := by
  obtain ⟨c, hc, hid⟩ := Option.map_eq_some_iff.1 ht
  obtain ⟨c', hc', hid'⟩ := Option.map_eq_some_iff.1 ht'
  have hsame : c = c' := List.inj_on_of_nodup_map h (List.mem_of_find?_eq_some hc)
    (List.mem_of_find?_eq_some hc') (hid.trans hid'.symm)
  have htitle : c.title = title := by simpa using List.find?_some hc
  have htitle' : c'.title = title' := by simpa using List.find?_some hc'
  rw [← htitle, ← htitle', hsame]

end Database

/-! ## The ids that a database gives out -/

/-- The ids of a naming are those that the database gives out, as far as the outline goes. -/
structure Naming.Fits (N : Naming) (db : Database) (o : Outline) : Prop where
  title : db.idTitled? o.title = some (N.idOf o.title)
  names : N.FitsNames db o.names
  player : db.player? = some N.player

namespace Naming.Fits

variable {N M : Naming} {db db' : Database} {o : Outline}

/-- What fits goes on fitting. -/
theorem continues (h : N.Fits db o) (hc : db.Continues db') : N.Fits db' o where
  title := hc.idTitled? h.title
  names name hn := hc.idNamed? (h.names name hn)
  player := hc.player? h.player

/-- What fits later fits already, where the database gives out all those ids. -/
theorem of_continues (h : N.Fits db' o) (hc : db.Continues db') (hM : M.Fits db o) :
    N.Fits db o where
  title := by
    rw [hM.title, ← hc.idTitled? hM.title]
    exact h.title
  names name hn := by
    rw [hM.names name hn, ← hc.idNamed? (hM.names name hn)]
    exact h.names name hn
  player := by
    rw [hM.player, ← hc.player? hM.player]
    exact h.player

end Naming.Fits

/-- The ids that a database gives out. -/
def Database.naming (db : Database) : Naming where
  idOf title := (db.idTitled? title).getD startId
  actorOf name := (db.idNamed? name).getD startId
  player := db.player?.getD startId

/-- If any ids fit, those that the database gives out do. -/
theorem Database.naming_fits {db : Database} {N : Naming} {o : Outline} (h : N.Fits db o) :
    db.naming.Fits db o where
  title := by
    simp only [Database.naming, h.title, Option.getD_some]
  names name hn := by
    simp only [Database.naming, h.names name hn, Option.getD_some]
  player := by
    simp only [Database.naming, h.player, Option.getD_some]

/-- The ids that fit after a conversation is installed are those that it was written with. -/
theorem Naming.Fits.of_install {N : Naming} {db : Database} {fallback : String} {o : Outline}
    {c : Conversation} (h : N.Fits (db.install fallback o c) o) (hc : c.title = o.title) :
    N.idOf o.title = c.id ∧ (db.playerId fallback).1 = N.player ∧
      N.FitsNames (db.staff fallback o.names) o.names := by
  refine ⟨?_, ?_, h.names⟩
  · have ht := h.title
    rw [Database.idTitled?_install db fallback o c hc, if_pos rfl] at ht
    exact (Option.some.inj ht).symm
  · have hp := h.player
    rw [Database.player?_install] at hp
    exact Option.some.inj hp

/-! ## One source -/

namespace Batch

/-- The batch without a source, of which only is told. -/
def refuse (b : Batch) (s : Source) : Batch :=
  { b with
    diagnostics := b.diagnostics ++ s.remarks
    skipped := b.skipped ++ s.file.toList }

/-- The batch with the conversation of an outline, written with these ids. -/
def accept (b : Batch) (N : Naming) (s : Source) (o : Outline) : Batch where
  options := b.options
  db := b.db.install b.options.playerName o (N.conversation b.options.startSequence o)
  pending := b.pending.filter (!b.db.dropsLink o.title ·) ++ N.queue o
  diagnostics := b.diagnostics ++ s.remarks ++
    ((b.pending.filter (b.db.dropsLink o.title)).map PendingLink.stale).map (·.inFile s.file)
  imported := b.imported ++
    [⟨N.idOf o.title, o.title, s.file, (b.db.conversationTitled? o.title).isSome,
      o.pieces.length + 1⟩]
  skipped := b.skipped

variable {b : Batch} {s : Source}

/-- A source that is refused is remarked on, and nothing else happens. -/
theorem importSource_of_none (h : s.outline? = none) :
    b.importSource s = (none, b.refuse s) := by
  have hf := Source.forest?_eq_none h
  unfold Source.forest? at hf
  rcases hparse : (Script.parse s.text).forest with e | nodes
  · simp only [importSource, hparse, skipSource, report, refuse, Source.remarks, List.map_append,
      List.append_assoc]
  · rw [hparse] at hf
    cases hf

/-- A source that is not refused installs the conversation of its outline, with these ids. -/
theorem importSource_eq {o : Outline} (h : s.outline? = some o) {N : Naming}
    (hid : N.idOf o.title = b.db.idFor o.title)
    (hplayer : (b.db.playerId b.options.playerName).1 = N.player)
    (hnames : N.FitsNames (b.db.staff b.options.playerName o.names) o.names) :
    b.importSource s = (some (N.idOf o.title), b.accept N s o) := by
  obtain ⟨nodes, hf, ho⟩ := Source.outline?_eq_some_iff.1 h
  have hparse := Source.forest?_eq_some_iff.1 hf
  have hdone :=
    assemble_eq (Source.grown_of_forest? hf) ho b.options b.db b.pending hid hplayer hnames
  simp only [importSource, report, hparse, hdone, accept, Source.remarks, List.append_nil]

/-- A source that is not refused installs a conversation under its title and the id for that. -/
theorem exists_install {o : Outline} (h : s.outline? = some o) :
    ∃ c : Conversation, c.title = o.title ∧ c.id = b.db.idFor o.title ∧
      (b.importSource s).2.db = b.db.install b.options.playerName o c ∧
      ∃ N : Naming, N.Fits (b.importSource s).2.db o := by
  obtain ⟨N, hid, hplayer, hnames⟩ := b.db.exists_naming b.options.playerName o
  rw [importSource_eq h hid hplayer hnames]
  refine ⟨_, rfl, hid, rfl, N, ?_, hnames, ?_⟩
  · exact (Database.idTitled?_install _ _ _ _ rfl _).trans (if_pos rfl)
  · exact (Database.player?_install _ _ _ _).trans (congrArg some hplayer)

/-- A source that is not refused installs the conversation of its outline, with the ids that fit
afterwards. -/
theorem importSource_of_some {o : Outline} (h : s.outline? = some o) {N : Naming}
    (hN : N.Fits (b.importSource s).2.db o) :
    b.importSource s = (some (N.idOf o.title), b.accept N s o) := by
  obtain ⟨c, hc, hid, hdb, -⟩ := exists_install (b := b) h
  rw [hdb] at hN
  obtain ⟨hcid, hplayer, hnames⟩ := hN.of_install hc
  exact importSource_eq h (hcid.trans hid) hplayer hnames

@[simp] theorem options_importSource (b : Batch) (s : Source) :
    (b.importSource s).2.options = b.options := by
  rcases h : s.outline? with _ | o
  · rw [importSource_of_none h]
    rfl
  · obtain ⟨N, hid, hplayer, hnames⟩ := b.db.exists_naming b.options.playerName o
    rw [importSource_eq h hid hplayer hnames]
    rfl

/-- Importing a source is a continuation. -/
theorem continues_importSource : b.db.Continues (b.importSource s).2.db := by
  rcases h : s.outline? with _ | o
  · rw [importSource_of_none h]
    exact .refl _
  · obtain ⟨c, hc, hid, hdb, -⟩ := exists_install (b := b) h
    rw [hdb]
    exact Database.continues_install _ hc hid

/-- Conversations keep distinct ids, as long as these last. -/
theorem nodup_importSource (hb : (b.db.conversations.map (·.id)).Nodup)
    (hlast : b.db.ConversationIdsLast (b.importSource s).2.db) :
    ((b.importSource s).2.db.conversations.map (·.id)).Nodup := by
  rcases h : s.outline? with _ | o
  · rw [importSource_of_none h]
    exact hb
  · obtain ⟨c, hc, hid, hdb, -⟩ := exists_install (b := b) h
    rw [hdb] at hlast ⊢
    exact Database.nodup_install _ hb hc hid hlast

end Batch

/-! ## The end of a batch -/

/-- Links that are written change neither actors nor ids. -/
theorem Database.exists_writeLinks (db : Database) (links : List Link) :
    ∃ cs, (db.writeLinks links).2 = { db with conversations := cs } ∧
      Database.shelf { db with conversations := cs } = db.shelf := by
  show ∃ cs, links.foldl writeLink db = _ ∧ _
  induction links generalizing db with
  | nil => exact ⟨_, rfl, rfl⟩
  | cons l links ih =>
    obtain ⟨cs, hcs, hshelf⟩ := ih (db.writeLink l)
    have hone : (db.writeLink l).shelf = db.shelf := by
      unfold shelf writeLink updateEntry
      refine map_updateFirst ?_ db.conversations
      intro c
      rfl
    exact ⟨cs, hcs, hshelf.trans hone⟩

/-- Finishing is a continuation. -/
theorem Batch.continues_finish (b : Batch) : b.db.Continues b.finish.2 := by
  obtain ⟨cs, hcs, hshelf⟩ := b.db.exists_writeLinks (resolve b.db b.pending).links
  rw [finish, hcs]
  constructor
  case idTitled? =>
    intro title id h
    rwa [Database.idTitled?_eq_shelf, hshelf, ← Database.idTitled?_eq_shelf]
  case actors => exact List.prefix_refl _
  case player? => exact id

end Dialogue
