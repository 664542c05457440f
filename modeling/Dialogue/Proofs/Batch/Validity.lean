import Dialogue.Proofs.Batch.Finish
import Dialogue.Proofs.Database.Problems

/-!
# What is wrong after a batch

A batch over a database without problems leaves an orderly one (`Naming.Ran.orderly_finish`): its
conversations are orderly as they are written (`Naming.orderly_finished`), and those that were there
under other titles stay so. All that can be wrong is where links lead. A link to an entry before, to
a child or to a title always leads to an entry, so there are only two ways left: a link by number
can lead anywhere, and a link that was there before can lead into a conversation that has been
replaced.
-/

namespace Dialogue

open Script

/-! ## Actors that there are -/

namespace Database

variable {db db' : Database}

theorem hasActor_of_actors (h : db.actors <+: db'.actors) {id : ActorId}
    (hid : db.hasActor id = true) : db'.hasActor id = true := by
  obtain ⟨a, ha, heq⟩ := List.any_eq_true.1 hid
  exact List.any_eq_true.2 ⟨a, h.subset ha, heq⟩

/-- The id that a name goes with is an actor's. -/
theorem hasActor_of_idNamed? {name : String} {id : ActorId} (h : db.idNamed? name = some id) :
    db.hasActor id = true := by
  obtain ⟨a, ha, rfl⟩ := Option.map_eq_some_iff.1 h
  exact List.any_eq_true.2 ⟨a, List.mem_of_find?_eq_some ha, decide_eq_true rfl⟩

/-- The player, if there is one, is set and is an actor. -/
theorem player_of_player? {id : ActorId} (h : db.player? = some id) :
    db.player = some id ∧ db.hasActor id = true := by
  obtain ⟨hset, hfound⟩ := Option.filter_eq_some_iff.1 h
  obtain ⟨a, ha⟩ := Option.isSome_iff_exists.1 hfound
  have hid : a.id = id := by simpa using List.find?_some ha
  exact ⟨hset, List.any_eq_true.2 ⟨a, List.mem_of_find?_eq_some ha, decide_eq_true hid⟩⟩

end Database

/-! ## What stays orderly -/

section orderly

variable {db db' : Database} {c : Conversation} {e : Entry}

/-- More actors leave an entry orderly. -/
theorem Entry.Orderly.of_actors (h : e.Orderly db c) (hp : db.actors <+: db'.actors) :
    e.Orderly db' c where
  conversation := h.conversation
  actor := Database.hasActor_of_actors hp h.actor
  conversant id hid := Database.hasActor_of_actors hp (h.conversant id hid)
  origin := h.origin

/-- More actors leave a conversation orderly. -/
theorem Conversation.Orderly.of_actors (h : c.Orderly db) (hp : db.actors <+: db'.actors) :
    c.Orderly db' where
  title := h.title
  entryIds := h.entryIds
  start := h.start
  conversant id hid := Database.hasActor_of_actors hp (h.conversant id hid)
  entries e he := (h.entries e he).of_actors hp

/-- Links from itself leave an entry orderly. -/
theorem Entry.Orderly.linkToAll (h : e.Orderly db c) (ds : List EntryRef) :
    (e.linkToAll ds).Orderly db c where
  conversation := h.conversation
  actor := h.actor
  conversant := h.conversant
  origin l hl := by
    rcases List.mem_append.1 hl with hl | hl
    · exact h.origin l hl
    · obtain ⟨ref, -, rfl⟩ := List.mem_map.1 hl
      rw [h.conversation]
      rfl

end orderly

/-! ## What is written is orderly -/

namespace Naming

variable {N : Naming} {db : Database} {o : Outline} {p : Piece}

/-- Whose entry it is is an actor. -/
theorem hasActor_actor (h : N.Fits db o) (hc : o.Complete) (hp : p ∈ o.pieces) :
    db.hasActor (p.actor N) = true := by
  have hnames := hc.speaker p hp
  unfold Piece.actor
  split
  · next name text hcontent =>
    rw [hcontent] at hnames
    exact Database.hasActor_of_idNamed? (h.names name (hnames name (List.mem_singleton.2 rfl)))
  all_goals exact (Database.player_of_player? h.player).2

/-- Whom an outline names is an actor. -/
theorem hasActor_conversant (h : N.Fits db o) {conversant : Option String}
    (hc : ∀ name, conversant = some name → name ∈ o.names) {id : ActorId}
    (hid : conversant.map N.actorOf = some id) : db.hasActor id = true := by
  obtain ⟨name, hname, rfl⟩ := Option.map_eq_some_iff.1 hid
  exact Database.hasActor_of_idNamed? (h.names name (hc name hname))

/-- To whom it is said is an actor. -/
theorem hasActor_listener (h : N.Fits db o) (hc : o.Complete) (hp : p ∈ o.pieces) {id : ActorId}
    (hid : p.listener N = some id) : db.hasActor id = true := by
  unfold Piece.listener at hid
  split at hid
  · rw [← Option.some.inj hid]
    exact (Database.player_of_player? h.player).2
  all_goals exact hasActor_conversant h (hc.listener p hp) hid

/-- A finished conversation is orderly. -/
theorem orderly_finished (h : N.Fits db o) (hs : o.Sound) (hc : o.Complete)
    (ht : Text.isAllBlank o.title.toList = false) (sequence : String)
    (target : String → Option EntryRef) : (N.finished sequence target o).Orderly db := by
  refine ⟨ht, ?_, ?_, ?_, ?_⟩
  · rw [ids_finished hs]
    exact hs.nodup
  · exact List.any_eq_true.2 ⟨_, List.mem_cons_self, decide_eq_true rfl⟩
  · exact fun id hid => hasActor_conversant h hc.conversant hid
  · intro e he
    rcases List.mem_cons.1 he with rfl | he
    · refine Entry.Orderly.linkToAll ⟨rfl, (Database.player_of_player? h.player).2, ?_, ?_⟩ _
      · exact fun id hid => hasActor_conversant h hc.conversant hid
      · exact fun l hl => nomatch hl
    · obtain ⟨p, hp, rfl⟩ := List.mem_map.1 he
      refine Entry.Orderly.linkToAll (Entry.Orderly.linkToAll ?_ _) _
      exact ⟨rfl, hasActor_actor h hc hp, fun id hid => hasActor_listener h hc hp hid,
        fun l hl => nomatch hl⟩

end Naming

/-! ## The database at the end -/

namespace Naming.Ran

variable {N : Naming} {db : Database} {options : ImportOptions} {sources : List Source} {b : Batch}

/-- Without an outline nothing is changed; with one there is a player. -/
theorem player_finish (h : N.Ran db options sources b) :
    b.finish.2 = db ∨ ∃ id, b.finish.2.player = some id ∧ b.finish.2.hasActor id = true := by
  rw [h.finish_db]
  by_cases hnone : outlines sources = []
  · left
    simp [hnone, Database.staffAll, survivors]
  · right
    obtain ⟨id, hid, -⟩ := db.player?_staffAll options.playerName hnone
    exact ⟨id, Database.player_of_player? hid⟩

/-- The conversation of a survivor is orderly at the end. -/
theorem orderly_finished (h : N.Ran db options sources b) {o : Outline}
    (ho : o ∈ survivors (outlines sources)) :
    (N.resolved options b.db o).Orderly b.finish.2 := by
  have hmem := mem_of_mem_survivors ho
  exact Naming.orderly_finished (h.fits_finish hmem) (sound_of_mem_outlines hmem)
    (complete_of_mem_outlines hmem) (isAllBlank_of_mem_outlines hmem) _ _

/-- A batch over an orderly database leaves an orderly one, as long as the ids last. -/
theorem orderly_finish (h : N.Ran db options sources b) (hdb : db.Orderly)
    (hlast : db.ActorIdsLast b.finish.2) : b.finish.2.Orderly where
  actorIds := by
    rw [h.finish_db] at hlast ⊢
    exact Database.nodup_staffAll hdb.actorIds hlast
  conversationIds := h.nodup_finish
  titles := by
    rw [h.titles_finish, List.nodup_append]
    refine ⟨hdb.titles.sublist (List.filter_sublist.map _), nodup_titles_survivors _, ?_⟩
    intro title hkept title' hnew heq
    obtain ⟨c, hc, rfl⟩ := List.mem_map.1 hkept
    obtain ⟨o, ho, rfl⟩ := List.mem_map.1 hnew
    obtain ⟨-, hnot⟩ := List.mem_filter.1 hc
    rw [decide_eq_true_eq, heq] at hnot
    exact hnot (List.mem_map_of_mem (mem_of_mem_survivors ho))
  player id hid := by
    rcases h.player_finish with hsame | ⟨id', hset, hactor⟩
    · rw [hsame] at hid ⊢
      exact hdb.player id hid
    · rw [hset] at hid
      rw [← Option.some.inj hid]
      exact hactor
  noPlayer hid := by
    rcases h.player_finish with hsame | ⟨id', hset, -⟩
    · rw [hsame] at hid ⊢
      exact hdb.noPlayer hid
    · rw [hset] at hid
      cases hid
  conversations c hc := by
    have hactors : db.actors <+: b.finish.2.actors := by
      rw [h.finish_db]
      exact Database.actors_staffAll db _ _
    rcases h.mem_finish_iff.1 hc with ⟨hc, -⟩ | ⟨o, ho, rfl⟩
    · exact (hdb.conversations c hc).of_actors hactors
    · exact h.orderly_finished ho

end Naming.Ran

/-! ## Where links lead at the end -/

namespace Piece

variable {pieces : List Piece} {p : Piece} {id : EntryId}

/-- A title leads to `START` or to a piece. -/
theorem mem_of_titledAmong {title : String} (h : titledAmong pieces title = some id) :
    id ∈ startId :: pieces.map Piece.id := by
  unfold titledAmong at h
  split at h
  · cases h
  · obtain ⟨q, hq, rfl⟩ := Option.map_eq_some_iff.1 h
    rcases List.mem_cons.1 (List.mem_of_find?_eq_some hq) with rfl | hq
    · exact List.mem_cons_self
    · obtain ⟨p, hp, rfl⟩ := List.mem_map.1 hq
      exact List.mem_cons_of_mem _ (List.mem_map_of_mem hp)

/-- A title that names an entry before leads to `START` or to a piece. -/
theorem mem_of_known (h : id ∈ p.known pieces) : id ∈ startId :: pieces.map Piece.id := by
  obtain ⟨title, -, ht⟩ := List.mem_filterMap.1 h
  have hsub : (p.before pieces).map Piece.id ⊆ pieces.map Piece.id :=
    (List.filter_sublist.map Piece.id).subset
  exact List.cons_subset_cons _ hsub (mem_of_titledAmong ht)

/-- What hangs from an entry is a piece. -/
theorem mem_of_children {parent : EntryId} (h : id ∈ children pieces parent) :
    id ∈ startId :: pieces.map Piece.id := by
  obtain ⟨p, hp, rfl⟩ := List.mem_map.1 h
  exact List.mem_cons_of_mem _ (List.mem_map_of_mem (List.mem_filter.1 hp).1)

end Piece

namespace Naming.Ran

variable {N : Naming} {db : Database} {options : ImportOptions} {sources : List Source} {b : Batch}
  {o : Outline}

/-- The entries of a survivor are there at the end. -/
theorem hasEntry_finish (h : N.Ran db options sources b) (ho : o ∈ survivors (outlines sources))
    {id : EntryId} (hid : id ∈ startId :: o.pieces.map Piece.id) :
    b.finish.2.hasEntry ⟨N.idOf o.title, id⟩ = true := by
  have hids : (N.resolved options b.db o).entries.map (·.id) =
        startId :: o.pieces.map Piece.id :=
    Naming.ids_finished (sound_of_mem_outlines (mem_of_mem_survivors ho))
  rw [← hids] at hid
  obtain ⟨e, he, heq⟩ := List.mem_map.1 hid
  exact Database.hasEntry_iff.2 ⟨_, h.mem_finish ho, rfl, e, he, heq⟩

/-- A link of a survivor leads to an entry, or else it is by number. -/
theorem destination_finished (h : N.Ran db options sources b)
    (ho : o ∈ survivors (outlines sources)) {e : Entry}
    (he : e ∈ (N.resolved options b.db o).entries) {l : Link}
    (hl : l ∈ e.links) :
    b.finish.2.hasEntry l.destination = true ∨
      ∃ p ∈ o.pieces, e.id = p.id ∧ ∃ k ∈ p.fields.links,
        l.destination = ⟨k.conversation.getD (N.idOf o.title), k.entry⟩ := by
  rcases List.mem_cons.1 he with rfl | he
  · left
    obtain ⟨ref, href, rfl⟩ := List.mem_map.1 hl
    obtain ⟨id, hid, rfl⟩ := List.mem_map.1 href
    exact h.hasEntry_finish ho (Piece.mem_of_children hid)
  · obtain ⟨p, hp, rfl⟩ := List.mem_map.1 he
    rw [Naming.links_finishedEntry] at hl
    obtain ⟨ref, href, rfl⟩ := List.mem_map.1 hl
    rcases List.mem_append.1 href with href | href
    · rcases List.mem_append.1 href with href | href
      · rcases List.mem_append.1 href with href | href
        · right
          obtain ⟨k, hk, rfl⟩ := List.mem_map.1 href
          exact ⟨p, hp, rfl, k, hk, rfl⟩
        · left
          obtain ⟨id, hid, rfl⟩ := List.mem_map.1 href
          exact h.hasEntry_finish ho (Piece.mem_of_known hid)
      · left
        obtain ⟨id, hid, rfl⟩ := List.mem_map.1 href
        exact h.hasEntry_finish ho (Piece.mem_of_children hid)
    · left
      obtain ⟨title, -, htitle⟩ := List.mem_filterMap.1 href
      rw [← h.target?_finish ho] at htitle
      obtain ⟨c, hc, e', he', rfl, -⟩ :=
        Database.exists_of_target?_eq_some (h.mem_finish ho) htitle
      exact Database.hasEntry_iff.2 ⟨c, hc, rfl, e', he', rfl⟩

/-- An entry that was there is there at the end, unless its conversation was replaced. -/
theorem destination_kept (h : N.Ran db options sources b) {ref : EntryRef}
    (href : db.hasEntry ref = true) :
    b.finish.2.hasEntry ref = true ∨
      ∃ c ∈ db.conversations, c.title ∈ (outlines sources).map Outline.title ∧
        c.id = ref.conversation ∧ ∃ e ∈ c.entries, e.id = ref.entry := by
  obtain ⟨c, hc, hid, hentry⟩ := Database.hasEntry_iff.1 href
  by_cases ht : c.title ∈ (outlines sources).map Outline.title
  · exact .inr ⟨c, hc, ht, hid, hentry⟩
  · exact .inl (Database.hasEntry_iff.2 ⟨c, h.mem_finish_iff.2 (.inl ⟨hc, ht⟩), hid, hentry⟩)

end Naming.Ran

/-- What can be wrong after a batch over a database without problems: a link leads to no entry. It
is a link by number of the last source of a title, or it was there before, in a conversation that
the batch did not import, and led into one that has been replaced. No id must have run out. -/
theorem problems_importSources {db : Database} (hdb : db.problems = []) {options : ImportOptions}
    {sources : List Source} (hlast : db.IdsLast (importSources db sources options).2) {p : Problem}
    (hp : p ∈ (importSources db sources options).2.problems) :
    ∃ c ∈ (importSources db sources options).2.conversations, ∃ e ∈ c.entries, ∃ l ∈ e.links,
      p = (importSources db sources options).2.missingDestination c e l ∧
      ((∃ nodes, lastTitled? sources c.title = some nodes ∧ ∃ n ∈ nodes, ∃ content fields,
          n.kind = .entry content fields ∧ e.id = n.id ∧ ∃ k ∈ fields.links,
            l.destination = ⟨k.conversation.getD c.id, k.entry⟩) ∨
        (c ∈ db.conversations ∧
          c.title ∉ (importSources db sources options).1.imported.map (·.title) ∧
          ∃ old ∈ db.conversations,
            old.title ∈ (importSources db sources options).1.imported.map (·.title) ∧
            old.id = l.destination.conversation ∧ ∃ e' ∈ old.entries, e'.id = l.destination.entry))
    := by
  obtain ⟨horderly, hlinks⟩ := Database.problems_eq_nil_iff.1 hdb
  have hran := Naming.Ran.naming horderly.conversationIds hlast.conversations
  have himported : (importSources db sources options).1.imported.map (·.title) =
      (outlines sources).map Outline.title := hran.imported
  obtain ⟨c, hc, e, he, l, hl, hnone, rfl⟩ :=
    (hran.orderly_finish horderly hlast.actors).exists_of_mem_problems hp
  refine ⟨c, hc, e, he, l, hl, rfl, ?_⟩
  rw [himported]
  rcases hran.mem_finish_iff.1 hc with ⟨hkept, ht⟩ | ⟨o, ho, rfl⟩
  · right
    rcases hran.destination_kept (hlinks c hkept e he l hl) with hthere | hreplaced
    · rw [hthere] at hnone
      cases hnone
    · exact ⟨hkept, ht, hreplaced⟩
  · left
    rcases hran.destination_finished ho he hl with hthere | ⟨p, hp, hid, k, hk, hdest⟩
    · rw [hthere] at hnone
      cases hnone
    · obtain ⟨nodes, hnodes, hout⟩ := exists_lastTitled?_of_survivor ho
      obtain ⟨n, hn, hnid, hkind⟩ := Forest.exists_node_of_mem_pieces hout hp
      exact ⟨nodes, hnodes, n, hn, p.content, p.fields, hkind, hid.trans hnid.symm, k, hk, hdest⟩

/-- A link by number that leads to no entry. -/
theorem problems_importSources_link :
    ∃ c ∈ (importSources .empty [⟨none, "title: Gate\n<<link 9>>\nOpen up. ->"⟩]
        .standard).2.conversations, ∃ e ∈ c.entries, ∃ l ∈ e.links,
      Problem.missing (.entry ⟨1, 9⟩) (.entryLink ⟨1, "Gate"⟩) =
        (importSources .empty [⟨none, "title: Gate\n<<link 9>>\nOpen up. ->"⟩]
          .standard).2.missingDestination c e l := by
  have hvalid : Database.empty.problems = [] := by decide
  have hp : Problem.missing (.entry ⟨1, 9⟩) (.entryLink ⟨1, "Gate"⟩) ∈
      (importSources .empty [⟨none, "title: Gate\n<<link 9>>\nOpen up. ->"⟩]
        .standard).2.problems := by
    decide +kernel
  have hlast : Database.empty.IdsLast
      (importSources .empty [⟨none, "title: Gate\n<<link 9>>\nOpen up. ->"⟩] .standard).2 :=
    ⟨.of_ne_zero (by decide +kernel), .of_ne_zero (by decide +kernel)⟩
  obtain ⟨c, hc, e, he, l, hl, hdest, -⟩ := problems_importSources hvalid hlast hp
  exact ⟨c, hc, e, he, l, hl, hdest⟩

end Dialogue
