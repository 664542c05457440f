import Dialogue.Proofs.Batch.Validity

/-!
# What a batch leaves alone

A batch works on the conversations whose titles it imports, and only adds to the rest
(`Database.Gained`). What stands where is read off the database at the end
(`Naming.Ran.finish_db`); which ids come out is not, since they are given out one after another
while conversations are taken out and put in. So these are followed along the run
(`Database.Numbered`): a title that is stored takes its id out and puts it in again, which leaves
the largest id as it is, and a new title takes the one after it, which is then the largest.
-/

namespace Dialogue

namespace Database

variable {db db' : Database} {titles : List String} {title : String}

/-- Those titles that the database does not have, in the order in which they first come. -/
def newTitles (db : Database) (titles : List String) : List String :=
  (titles.filter (· ∉ db.conversations.map (·.title))).eraseDups

/-- The largest id of a conversation, or 0 if there is none. -/
def largestId (db : Database) : ConversationId :=
  (db.conversations.map (·.id)).max?.getD 0

/-- What has become of a database into which conversations of these titles were imported, one after
another. -/
structure Gained (db : Database) (titles : List String) (final : Database) : Prop where
  /-- The other conversations are as they were and come first, and each imported one stands where
  it was last imported. -/
  conversations : ∃ imported,
    final.conversations = db.conversations.filter (·.title ∉ titles) ++ imported ∧
      imported.map (·.title) = titles.dedup
  /-- Of each title that was there, there is one conversation, and it has the old id. -/
  oldIds : ∀ c ∈ db.conversations,
    (final.conversations.filter (·.title = c.title)).map (·.id) = [c.id]
  /-- Of each new title there is one conversation, and the ids go on from the largest one. -/
  newIds : ∀ i title, (db.newTitles titles)[i]? = some title →
    (final.conversations.filter (·.title = title)).map (·.id) =
      [db.largestId + (i + 1)]
  actors : db.actors <+: final.actors
  player : ∀ a ∈ db.actors, db.player = some a.id → final.player = some a.id

/-! ## Titles that are new -/

/-- A title that the database has is not new, and neither is one that came before. -/
theorem newTitles_append_of_mem
    (h : title ∈ db.conversations.map (·.title) ∨ title ∈ titles) :
    db.newTitles (titles ++ [title]) = db.newTitles titles := by
  unfold newTitles
  rw [List.filter_append]
  by_cases hdb : title ∈ db.conversations.map (·.title)
  · rw [List.filter_cons_of_neg (by simpa using hdb), List.filter_nil, List.append_nil]
  · have hbefore : title ∈ titles.filter (· ∉ db.conversations.map (·.title)) :=
      List.mem_filter.2 ⟨h.resolve_left hdb, by simpa using hdb⟩
    rw [List.filter_cons_of_pos (by simpa using hdb), List.filter_nil,
      eraseDups_append_singleton, if_pos hbefore]

/-- Any other title is new. -/
theorem newTitles_append_of_notMem (hdb : title ∉ db.conversations.map (·.title))
    (hbefore : title ∉ titles) :
    db.newTitles (titles ++ [title]) = db.newTitles titles ++ [title] := by
  have hnot : title ∉ titles.filter (· ∉ db.conversations.map (·.title)) := fun h =>
    hbefore (List.mem_filter.1 h).1
  unfold newTitles
  rw [List.filter_append, List.filter_cons_of_pos (by simpa using hdb), List.filter_nil,
    eraseDups_append_singleton, if_neg hnot]

example : Database.empty.newTitles ["Hall", "Gate", "Hall"] = ["Hall", "Gate"] := by decide

/-! ## Ids along the run -/

/-- The ids of a database into which conversations of these titles have been imported, one after
another. -/
structure Numbered (db : Database) (titles : List String) (db' : Database) : Prop where
  nodup : (db'.conversations.map (·.title)).Nodup
  mem_iff : ∀ title, title ∈ db'.conversations.map (·.title) ↔
    title ∈ db.conversations.map (·.title) ∨ title ∈ titles
  largest : db'.largestId = db.largestId + (db.newTitles titles).length
  new : ∀ i title, (db.newTitles titles)[i]? = some title →
    db'.idTitled? title = some (db.largestId + (i + 1))

theorem Numbered.start (h : (db.conversations.map (·.title)).Nodup) : db.Numbered [] db where
  nodup := h
  mem_iff title := by simp
  largest := rfl
  new i title hi := nomatch hi

section install

variable (fallback : String) {o : Outline} {c : Conversation}

/-- The titles after a conversation is installed. -/
theorem titles_install (hc : c.title = o.title) :
    (db.install fallback o c).conversations.map (·.title) =
      (db.conversations.map (·.title)).filter (· ≠ o.title) ++ [o.title] := by
  rw [conversations_install, List.map_append, List.map_singleton, hc, List.filter_map]
  rfl

/-- The titles stay distinct. -/
theorem nodup_titles_install (h : (db.conversations.map (·.title)).Nodup) (hc : c.title = o.title) :
    ((db.install fallback o c).conversations.map (·.title)).Nodup := by
  rw [titles_install fallback hc]
  refine List.nodup_append.2 ⟨h.filter _, List.nodup_singleton _, ?_⟩
  intro t ht t' ht'
  rw [List.mem_singleton.1 ht']
  exact of_decide_eq_true (List.mem_filter.1 ht).2

/-- A conversation that is installed under a title that is there leaves the largest id. -/
theorem largestId_install_of_mem (h : (db.conversations.map (·.title)).Nodup)
    (hc : c.id = db.idFor o.title) (hmem : o.title ∈ db.conversations.map (·.title)) :
    (db.install fallback o c).largestId = db.largestId := by
  obtain ⟨old, hold, ht⟩ := List.mem_map.1 hmem
  have hid : c.id = old.id := by
    rw [hc, idFor, ← ht, idTitled?_of_mem h hold, Option.getD_some]
  -- the old conversation of the title is taken out, but the new one has its id
  refine congrArg (·.getD 0) (max?_congr fun i => ?_)
  rw [conversations_install, List.map_append, List.map_singleton, hid, List.mem_append,
    List.mem_singleton]
  constructor
  · rintro (hi | rfl)
    · exact (List.filter_sublist.map _).subset hi
    · exact List.mem_map_of_mem hold
  · intro hi
    obtain ⟨d, hd, rfl⟩ := List.mem_map.1 hi
    by_cases hdt : d.title = o.title
    · rw [List.inj_on_of_nodup_map h hd hold (hdt.trans ht.symm)]
      exact .inr rfl
    · exact .inl (List.mem_map_of_mem (List.mem_filter.2 ⟨hd, by simpa using hdt⟩))

/-- A conversation that is installed under a new title gets the id after the largest one, as long as
the ids last, and that is then the largest. -/
theorem largestId_install_of_notMem (hc : c.title = o.title) (hid : c.id = db.idFor o.title)
    (hnew : o.title ∉ db.conversations.map (·.title))
    (hlast : db.ConversationIdsLast (db.install fallback o c)) :
    c.id = db.largestId + 1 ∧ (db.install fallback o c).largestId = db.largestId + 1 := by
  have hnone : db.idTitled? o.title = none :=
    Option.not_isSome_iff_eq_none.1 fun h => hnew (isSome_idTitled?_iff.1 h)
  have hne := hlast.nextConversationId_ne_zero fallback hc hid hnone
  have hnext : db.nextConversationId = db.largestId + 1 := nextId_eq hne
  rw [idFor, hnone, Option.getD_none] at hid
  have hkept : db.conversations.filter (·.title ≠ o.title) = db.conversations := by
    rw [List.filter_eq_self]
    intro d hd
    simpa using fun ht : d.title = o.title => hnew (ht ▸ List.mem_map_of_mem hd)
  refine ⟨hid.trans hnext, ?_⟩
  rw [← hnext, largestId, conversations_install, hkept, List.map_append, List.map_singleton, hid]
  exact congrArg (·.getD 0) (max?_append_nextId hne)

/-- One conversation more keeps the numbers. -/
theorem Numbered.install (h : db.Numbered titles db') (hc : c.title = o.title)
    (hid : c.id = db'.idFor o.title)
    (hlast : db'.ConversationIdsLast (db'.install fallback o c)) :
    db.Numbered (titles ++ [o.title]) (db'.install fallback o c) := by
  have hnodup := nodup_titles_install fallback h.nodup hc
  have hmem : ∀ t, t ∈ (db'.install fallback o c).conversations.map (·.title) ↔
      t ∈ db.conversations.map (·.title) ∨ t ∈ titles ++ [o.title] := by
    intro t
    rw [titles_install fallback hc, List.mem_append, List.mem_filter, List.mem_append, h.mem_iff t,
      List.mem_singleton, ← or_assoc]
    by_cases ht : t = o.title <;> simp [ht]
  -- an id that goes with a title goes with it afterwards
  have hold : ∀ {t i}, db'.idTitled? t = some i →
      (db'.install fallback o c).idTitled? t = some i :=
    (continues_install fallback hc hid).idTitled?
  by_cases hthere : o.title ∈ db'.conversations.map (·.title)
  · have hsame := newTitles_append_of_mem ((h.mem_iff _).1 hthere)
    refine ⟨hnodup, hmem, ?_, ?_⟩
    · rw [largestId_install_of_mem fallback h.nodup hid hthere, hsame, h.largest]
    · rw [hsame]
      exact fun i t hi => hold (h.new i t hi)
  · have hnot := not_or.1 fun hor => hthere ((h.mem_iff _).2 hor)
    have hmore := newTitles_append_of_notMem hnot.1 hnot.2
    obtain ⟨hcid, hlargest⟩ := largestId_install_of_notMem fallback hc hid hthere hlast
    refine ⟨hnodup, hmem, ?_, ?_⟩
    · rw [hlargest, h.largest, hmore, List.length_append, List.length_singleton, Nat.add_assoc]
    · intro i t hi
      rw [hmore] at hi
      rcases Nat.lt_or_ge i (db.newTitles titles).length with hlt | hge
      · rw [List.getElem?_append_left hlt] at hi
        exact hold (h.new i t hi)
      · rw [List.getElem?_append_right hge, List.getElem?_singleton] at hi
        split at hi
        · next hzero =>
          have hi' : i = (db.newTitles titles).length :=
            Nat.le_antisymm (Nat.sub_eq_zero_iff_le.1 hzero) hge
          rw [← Option.some.inj hi, idTitled?_install _ _ _ _ hc, if_pos rfl, hcid, h.largest, hi',
            Nat.add_assoc]
        · cases hi

end install

end Database

/-- A run keeps the numbers, as long as the ids last. -/
theorem Batch.numbered_importSources {b : Batch}
    (hb : (b.db.conversations.map (·.title)).Nodup) {sources : List Source}
    (hlast : b.db.ConversationIdsLast (b.importSources sources).db) :
    b.db.Numbered ((outlines sources).map Outline.title) (b.importSources sources).db := by
  induction sources using List.reverseRecOn with
  | nil => exact .start hb
  | append_singleton sources s ih =>
      rw [importSources_append_singleton] at hlast ⊢
      rw [outlines_append]
      have ih := ih (hlast.first continues_importSource)
      have hstep := hlast.rest (continues_importSources b sources)
      rcases hs : s.outline? with _ | o
      · rw [importSource_of_none hs, outlines_cons_of_none hs, outlines_nil, List.append_nil]
        exact ih
      · obtain ⟨c, hc, hid, hdb, -⟩ := exists_install (b := b.importSources sources) hs
        rw [hdb] at hstep
        rw [outlines_cons_of_some hs, outlines_nil, List.map_append, List.map_singleton, hdb]
        exact ih.install _ hc hid hstep

/-! ## The database at the end -/

namespace Naming.Ran

variable {N : Naming} {db : Database} {options : ImportOptions} {sources : List Source} {b : Batch}

/-- A batch has gained the titles that it imported. -/
theorem gained (h : N.Ran db options sources b)
    (htitles : (db.conversations.map (·.title)).Nodup) (hcontinues : db.Continues b.db)
    (hnumbered : db.Numbered ((outlines sources).map Outline.title) b.db) :
    db.Gained ((outlines sources).map Outline.title) b.finish.2 := by
  have hnodup : (b.finish.2.conversations.map (·.title)).Nodup := by
    have hsame : b.finish.2.conversations.map (·.title) = b.db.conversations.map (·.title) := by
      rw [h.finish_eq_receive, Database.receive, List.map_map]
      rfl
    rw [hsame]
    exact hnumbered.nodup
  have hid : ∀ title, b.finish.2.idTitled? title = b.db.idTitled? title := by
    intro title
    rw [h.finish_eq_receive, Database.idTitled?_receive]
  constructor
  case conversations =>
    refine ⟨(survivors (outlines sources)).map (N.resolved options b.db), ?_, ?_⟩
    · rw [h.finish_db]
    · rw [← titles_survivors, List.map_map]
      rfl
  case oldIds =>
    intro c hc
    refine Database.ids_filter_titled hnodup ?_
    rw [hid]
    exact hcontinues.idTitled? (Database.idTitled?_of_mem htitles hc)
  case newIds =>
    intro i title hi
    refine Database.ids_filter_titled hnodup ?_
    rw [hid, hnumbered.new i title hi]
  case actors =>
    rw [h.finish_eq_receive]
    exact hcontinues.actors
  case player =>
    intro a ha hplayer
    have hset := hcontinues.player? (Database.player?_of_mem ha hplayer)
    rw [h.finish_eq_receive]
    exact (Database.player_of_player? hset).1

end Naming.Ran

/-- A batch touches only what it imports: over a database whose conversations have distinct ids and
distinct titles, it has gained the titles that it imported, and these are those of the sources that
give a conversation. The ids of conversations must not run out. -/
theorem importSources_gained {db : Database} (hids : (db.conversations.map (·.id)).Nodup)
    (htitles : (db.conversations.map (·.title)).Nodup) {options : ImportOptions}
    {sources : List Source}
    (hlast : db.ConversationIdsLast (importSources db sources options).2) :
    (importSources db sources options).1.imported.map (·.title) =
        sources.filterMap Source.title? ∧
      db.Gained (sources.filterMap Source.title?) (importSources db sources options).2 := by
  have hran := Naming.Ran.naming hids hlast
  rw [filterMap_title?]
  refine ⟨hran.imported, hran.gained htitles ?_ ?_⟩
  · exact Batch.continues_importSources (.start db options) sources
  · exact Batch.numbered_importSources (b := .start db options) htitles hran.last

/-- A script that is there and one that is new, imported the other way round. -/
theorem importSources_gained_linkedScripts :
    (importSources .empty (linkedScripts.take 1) .standard).2.Gained ["Hall", "Gate"]
      (importSources (importSources .empty (linkedScripts.take 1) .standard).2
        linkedScripts.reverse .standard).2 := by
  have htitles : linkedScripts.reverse.filterMap Source.title? = ["Hall", "Gate"] := by
    decide +kernel
  rw [← htitles]
  exact (importSources_gained (by decide +kernel) (by decide +kernel)
    (.of_ne_zero (by decide +kernel))).2

end Dialogue
