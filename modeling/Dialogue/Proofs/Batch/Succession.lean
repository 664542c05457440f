import Dialogue.Proofs.Batch.Links
import Dialogue.Proofs.Batch.Validity
import Dialogue.Proofs.Database.Views

/-!
# Batches one after another

As long as ids last, a conversation is stored as the last batch that imports its title has left it
(`exists_lastBuilt`). A later batch that imports the title again puts another conversation in its
place, under the same id and the same title, whose entries are numbered by the new script
(`Conversation.Succeeds`).

A link by title is an address from the moment at which it is written, and no later batch looks at the
title again. So it leads into the conversation of the same title for ever, and to an entry of the
right title for as long as the scripts of that conversation keep the number of the entry
(`entryAt?_titleLink?`). A script that is imported again with other numbers lets the link lead to
another entry (`exists_titleLink?_renumbered`).
-/

namespace Dialogue

open Script

/-- The sources of one batch, and the options that they are imported with. -/
structure Import where
  options : ImportOptions
  sources : List Source

/-- The database after batches, one after another. -/
def Database.importAll (db : Database) (imports : List Import) : Database :=
  imports.foldl (fun db i => (importSources db i.sources i.options).2) db

/-- The last of these batches that imports the title is this one, between those before it and those
after it, and it builds the conversation from this forest. -/
structure LastBuilt (imports : List Import) (title : String) (before : List Import) (last : Import)
    (after : List Import) (nodes : Forest) : Prop where
  imports : imports = before ++ last :: after
  forest : lastTitled? last.sources title = some nodes
  after : lastTitled? (after.flatMap Import.sources) title = none

/-- The title of the entry of a node, by its id. -/
def Script.Node.entryTitle? (n : Node) : Option (EntryId × String) :=
  match n.kind with
  | .entry content fields => some (n.id, (Piece.ofNode none n content fields).title)
  | .title _ | .conversant _ => none

/-- The titles of the entries that a forest asks for, by their ids. -/
def Script.Forest.entryTitles (nodes : Forest) : List (EntryId × String) :=
  (startId, startTitle) :: nodes.filterMap Node.entryTitle?

/-- The titles of the entries of a conversation, by their ids. -/
def Conversation.entryTitles (c : Conversation) : List (EntryId × String) :=
  c.entries.map fun e => (e.id, e.title)

/-- Where the link of a node leads that names this title: to the first entry with the title before
the node, or else to wherever the title leads. -/
def Database.titleLink? (db : Database) (c : Conversation) (n : Node) (title : String) :
    Option EntryRef :=
  match c.earlierTitled? n.id title with
  | some e => some ⟨c.id, e.id⟩
  | none => db.target? c title

/-! ## Titles and links of one database -/

/-- The pieces of a forest have the titles of its entries. -/
theorem Script.Forest.entryTitles_eq {nodes : Forest} {o : Outline} (h : nodes.outline? = some o) :
    nodes.entryTitles = (startId, startTitle) :: o.pieces.map fun p => (p.id, p.title) := by
  have hpieces := congrArg (List.map fun q : EntryId × EntryId × Content × Fields =>
    (q.1, (⟨q.1, q.2.1, none, q.2.2.1, q.2.2.2⟩ : Piece).title)) (Forest.map_pieces h)
  rw [List.map_map, List.map_filterMap] at hpieces
  have hnodes : nodes.filterMap Node.entryTitle? =
      nodes.filterMap fun n => n.entry?.map fun q : EntryId × EntryId × Content × Fields =>
        (q.1, (⟨q.1, q.2.1, none, q.2.2.1, q.2.2.2⟩ : Piece).title) := by
    refine List.filterMap_congr fun n _ => ?_
    unfold Node.entryTitle? Node.entry?
    rcases n.kind with title | name | ⟨content, fields⟩ <;> rfl
  rw [entryTitles, hnodes, ← hpieces]
  rfl

namespace Database

variable {db : Database} {c : Conversation} {n : Node} {title : String} {ref : EntryRef}

/-- A link by title leads to an entry that has the title. -/
theorem exists_of_titleLink? (hc : c ∈ db.conversations) (h : db.titleLink? c n title = some ref) :
    ∃ d ∈ db.conversations, ref.conversation = d.id ∧ (ref.entry, title) ∈ d.entryTitles := by
  have hmem : ∀ {d : Conversation} {e : Entry}, e ∈ d.entries → e.title = title →
      (e.id, title) ∈ d.entryTitles := by
    intro d e he ht
    exact List.mem_map.2 ⟨e, he, by rw [ht]⟩
  unfold titleLink? at h
  split at h
  · next e he =>
    obtain ⟨hbefore, ht⟩ := Conversation.mem_of_entryTitled? he
    cases h
    exact ⟨c, hc, rfl, hmem ((List.takeWhile_sublist _).subset hbefore) ht⟩
  · obtain ⟨d, hd, e, he, rfl, ht⟩ := exists_of_target?_eq_some hc h
    exact ⟨d, hd, rfl, hmem he ht⟩

/-- A link by title is one of the links that are asked for. -/
theorem mem_linksOf_of_titleLink? (nodes : Forest) {fields : Fields}
    (ht : title ∈ fields.titleLinks) (h : db.titleLink? c n title = some ref) :
    ref ∈ db.linksOf nodes c n fields := by
  unfold titleLink? at h
  unfold linksOf
  split at h
  · next e he =>
    refine List.mem_append_left _ (List.mem_append_left _ (List.mem_append_right _ ?_))
    exact List.mem_filterMap.2 ⟨title, ht, by rw [he]; exact h⟩
  · next hnone =>
    refine List.mem_append_right _ (List.mem_filterMap.2 ⟨title, ?_, h⟩)
    exact List.mem_filter.2 ⟨ht, by rw [hnone]; rfl⟩

/-- What stands at an address of an orderly database is said by the titles of the conversation. -/
theorem Orderly.entryAt?_iff (h : db.Orderly) (hc : c ∈ db.conversations) (id : EntryId) :
    (db.entryAt? ⟨c.id, id⟩).map (·.title) = some title ↔ (id, title) ∈ c.entryTitles := by
  have hfind : db.entryAt? ⟨c.id, id⟩ = c.entries.find? (·.id = id) := by
    rw [entryAt?, conversationById?, find?_of_nodup h.conversationIds hc rfl, Option.bind_some]
    rfl
  rw [hfind, Option.map_eq_some_iff]
  constructor
  · rintro ⟨e, he, rfl⟩
    have hid : e.id = id := by simpa using List.find?_some he
    exact List.mem_map.2 ⟨e, List.mem_of_find?_eq_some he, by rw [hid]⟩
  · intro hmem
    obtain ⟨e, he, heq⟩ := List.mem_map.1 hmem
    cases heq
    exact ⟨e, find?_of_nodup (h.conversations c hc).entryIds he rfl, rfl⟩

end Database

/-- A link by title stands in the entry of its node. -/
theorem Script.Forest.WrittenIn.exists_link {nodes : Forest} {db : Database} {c : Conversation}
    (h : nodes.WrittenIn db c) {n : Node} (hn : n ∈ nodes) {title : String}
    (ht : title ∈ n.titleLinks) {ref : EntryRef} (href : db.titleLink? c n title = some ref) :
    ∃ e ∈ c.entries, e.id = n.id ∧ ⟨⟨c.id, n.id⟩, ref⟩ ∈ e.links := by
  unfold Node.titleLinks at ht
  split at ht
  · next content fields hk =>
    have hwritten : db.writtenEntry? nodes c n =
        some (n.id, (db.linksOf nodes c n fields).map (⟨⟨c.id, n.id⟩, ·⟩)) := by
      rw [Database.writtenEntry?, hk]
    have hmem := List.mem_cons_of_mem
      (startId, (nodes.childrenOf none).map fun id => ⟨⟨c.id, startId⟩, ⟨c.id, id⟩⟩)
      (List.mem_filterMap.2 ⟨n, hn, hwritten⟩)
    rw [← h.entries] at hmem
    obtain ⟨e, he, heq⟩ := List.mem_map.1 hmem
    obtain ⟨hid, hlinks⟩ := Prod.mk.inj heq
    refine ⟨e, he, hid, ?_⟩
    rw [hlinks]
    exact List.mem_map_of_mem (Database.mem_linksOf_of_titleLink? nodes ht href)
  · cases ht
  · cases ht

/-! ## One more batch -/

/-- A conversation has taken the place of another: it has its id and its title, and the titles of
its entries are those of the forest that it was built from, if it was built anew. -/
structure Conversation.Succeeds (c c' : Conversation) (nodes? : Option Forest) : Prop where
  id : c'.id = c.id
  title : c'.title = c.title
  entryTitles : c'.entryTitles = nodes?.elim c.entryTitles Forest.entryTitles

/-- A conversation that is left as it is takes its own place. -/
theorem Conversation.Succeeds.refl (c : Conversation) : c.Succeeds c none := ⟨rfl, rfl, rfl⟩

/-- Of two forests the later one counts. -/
theorem Conversation.Succeeds.trans {c c' c'' : Conversation} {nodes? nodes?' : Option Forest}
    (h : c.Succeeds c' nodes?) (h' : c'.Succeeds c'' nodes?') :
    c.Succeeds c'' (nodes?'.or nodes?) where
  id := h'.id.trans h.id
  title := h'.title.trans h.title
  entryTitles := by
    rw [h'.entryTitles, h.entryTitles]
    cases nodes?' <;> rfl

section batch

variable {db : Database} {c : Conversation}

/-- What is stored after a batch was stored before it, under a title that the batch does not import,
or it was built by the batch. -/
theorem mem_importSources (hdb : db.Orderly) {options : ImportOptions} {sources : List Source}
    (hlast : db.ConversationIdsLast (importSources db sources options).2)
    (hc : c ∈ (importSources db sources options).2.conversations) :
    (c ∈ db.conversations ∧ lastTitled? sources c.title = none) ∨
      ∃ nodes, lastTitled? sources c.title = some nodes ∧
        nodes.WrittenIn (importSources db sources options).2 c := by
  have hran := Naming.Ran.naming hdb.conversationIds hlast
  rcases hran.mem_finish_iff.1 hc with ⟨hkept, ht⟩ | ⟨o, ho, rfl⟩
  · exact .inl ⟨hkept, lastTitled?_eq_none_iff.2 ht⟩
  · obtain ⟨nodes, hnodes, hout⟩ := exists_lastTitled?_of_survivor ho
    obtain ⟨-, -, -, -, s, -, hforest⟩ := exists_survivor_of_lastTitled? hnodes
    exact .inr ⟨nodes, hnodes, writtenIn_finished (Source.grown_of_forest? hforest) hout
      (filled_of_parse (Source.forest?_eq_some_iff.1 hforest)) hc (hran.target?_finish ho)⟩

/-- Every conversation has a successor after a batch, which was built anew if the batch imports the
title. -/
theorem exists_succeeds_importSources (hdb : db.Orderly) (hc : c ∈ db.conversations)
    {options : ImportOptions} {sources : List Source}
    (hlast : db.ConversationIdsLast (importSources db sources options).2) :
    ∃ c' ∈ (importSources db sources options).2.conversations,
      c.Succeeds c' (lastTitled? sources c.title) := by
  have hran := Naming.Ran.naming hdb.conversationIds hlast
  by_cases ht : c.title ∈ (outlines sources).map Outline.title
  · rw [← mem_titles_survivors] at ht
    obtain ⟨o, ho, hot⟩ := List.mem_map.1 ht
    obtain ⟨nodes, hnodes, hout⟩ := exists_lastTitled?_of_survivor ho
    have hstored : db.idTitled? c.title = some c.id := by
      rw [Database.idTitled?, Database.conversationTitled?, find?_of_nodup hdb.titles hc rfl,
        Option.map_some]
    have hlater := (Batch.continues_importSources (.start db options) sources).idTitled? hstored
    rw [← hot, (hran.fits o (mem_of_mem_survivors ho)).title] at hlater
    rw [← hot, hnodes]
    refine ⟨_, hran.mem_finish ho, Option.some.inj hlater, hot, ?_⟩
    rw [Option.elim_some, Forest.entryTitles_eq hout]
    exact Naming.names_finished (sound_of_mem_outlines (mem_of_mem_survivors ho))
  · rw [lastTitled?_eq_none_iff.2 ht]
    exact ⟨c, hran.mem_finish_iff.2 (.inl ⟨hc, ht⟩), .refl c⟩

end batch

/-! ## Many batches -/

namespace LastBuilt

variable {imports before before' after after' : List Import} {title : String} {last last' : Import}
  {nodes nodes' : Forest}

/-- No batch after the last one imports the title. -/
theorem lastTitled?_eq_none (h : LastBuilt imports title before last after nodes) {i : Import}
    (hi : i ∈ after) : lastTitled? i.sources title = none := by
  obtain ⟨later, latest, rfl⟩ := List.append_of_mem hi
  have hnone := h.after
  rw [List.flatMap_append, List.flatMap_cons, lastTitled?_append, lastTitled?_append,
    Option.or_eq_none_iff, Option.or_eq_none_iff] at hnone
  exact hnone.1.2

/-- Of two batches that are the last to import a title none is later. -/
theorem eq_nil (h : LastBuilt imports title before last after nodes)
    (h' : LastBuilt imports title before' last' after' nodes') {between : List Import}
    (hrest : last :: after = between ++ last' :: after') : between = [] := by
  rcases between with _ | ⟨i, between⟩
  · rfl
  · obtain ⟨-, rfl⟩ := List.cons.inj hrest
    have hnone := h.lastTitled?_eq_none (List.mem_append_right between List.mem_cons_self)
    rw [h'.forest] at hnone
    cases hnone

/-- The last batch that imports a title is one, and so is the forest. -/
theorem unique (h : LastBuilt imports title before last after nodes)
    (h' : LastBuilt imports title before' last' after' nodes') :
    before = before' ∧ last = last' ∧ after = after' ∧ nodes = nodes' := by
  have hsame : before = before' ∧ last = last' ∧ after = after' := by
    rcases List.append_eq_append_iff.1 (h.imports.symm.trans h'.imports) with
      ⟨between, rfl, hrest⟩ | ⟨between, rfl, hrest⟩
    · obtain rfl := h.eq_nil h' hrest
      exact ⟨(List.append_nil _).symm, List.cons.inj hrest⟩
    · obtain rfl := h'.eq_nil h hrest
      obtain ⟨hlast, hafter⟩ := List.cons.inj hrest
      exact ⟨List.append_nil _, hlast.symm, hafter.symm⟩
  obtain ⟨rfl, rfl, rfl⟩ := hsame
  exact ⟨rfl, rfl, rfl, Option.some.inj (h.forest.symm.trans h'.forest)⟩

end LastBuilt

namespace Database

variable {db : Database} {c : Conversation}

theorem importAll_append (db : Database) (imports imports' : List Import) :
    db.importAll (imports ++ imports') = (db.importAll imports).importAll imports' :=
  List.foldl_append

theorem importAll_append_singleton (db : Database) (imports : List Import) (i : Import) :
    db.importAll (imports ++ [i]) = (importSources (db.importAll imports) i.sources i.options).2 :=
  db.importAll_append imports [i]

theorem orderly_empty : Database.empty.Orderly :=
  (problems_eq_nil_iff.1 (by decide)).1

/-- Batches are a continuation. -/
theorem continues_importAll (db : Database) (imports : List Import) :
    db.Continues (db.importAll imports) := by
  induction imports generalizing db with
  | nil => exact .refl db
  | cons i imports ih => exact (db.continues_importSources i.sources i.options).trans (ih _)

/-- Batches leave an orderly database, as long as ids last. -/
theorem Orderly.importAll (h : db.Orderly) {imports : List Import}
    (hlast : db.IdsLast (db.importAll imports)) : (db.importAll imports).Orderly := by
  induction imports generalizing db with
  | nil => exact h
  | cons i imports ih =>
      have hnow := hlast.first (continues_importAll _ imports)
      exact ih ((Naming.Ran.naming h.conversationIds hnow.conversations).orderly_finish h
        hnow.actors) (hlast.rest (continues_importSources _ _ _))

/-- Every conversation has a successor after batches, which was built from the last forest of its
title, if there is one. -/
theorem Orderly.exists_succeeds (h : db.Orderly) (hc : c ∈ db.conversations)
    {imports : List Import} (hlast : db.IdsLast (db.importAll imports)) :
    ∃ c' ∈ (db.importAll imports).conversations,
      c.Succeeds c' (lastTitled? (imports.flatMap Import.sources) c.title) := by
  induction imports using List.reverseRecOn with
  | nil => exact ⟨c, hc, .refl c⟩
  | append_singleton imports i ih =>
      rw [importAll_append_singleton] at hlast
      have hbefore := hlast.first (continues_importSources _ _ _)
      obtain ⟨c', hc', hsucceeds⟩ := ih hbefore
      obtain ⟨c'', hc'', hagain⟩ := exists_succeeds_importSources (h.importAll hbefore) hc'
        (hlast.rest (continues_importAll db imports)).conversations
      rw [importAll_append_singleton, List.flatMap_append, List.flatMap_singleton,
        lastTitled?_append]
      rw [hsucceeds.title] at hagain
      exact ⟨c'', hc'', hsucceeds.trans hagain⟩

end Database

/-- Every conversation that is stored after batches is as the last batch that imports its title has
left it, as long as ids last. -/
theorem exists_lastBuilt {imports : List Import}
    (hlast : Database.empty.IdsLast (Database.empty.importAll imports)) {c : Conversation}
    (hc : c ∈ (Database.empty.importAll imports).conversations) :
    ∃ before last after nodes, LastBuilt imports c.title before last after nodes ∧
      c ∈ (Database.empty.importAll (before ++ [last])).conversations ∧
      nodes.WrittenIn (Database.empty.importAll (before ++ [last])) c := by
  induction imports using List.reverseRecOn with
  | nil => cases hc
  | append_singleton imports i ih =>
      rw [Database.importAll_append_singleton] at hlast hc
      have hbefore := hlast.first (Database.continues_importSources _ _ _)
      have hnow := hlast.rest (Database.empty.continues_importAll imports)
      rcases mem_importSources (Database.orderly_empty.importAll hbefore) hnow.conversations hc with
        ⟨hkept, hnone⟩ | ⟨nodes, hnodes, hwritten⟩
      · obtain ⟨before, last, after, nodes, hbuilt, hmem, hwritten⟩ := ih hbefore hkept
        refine ⟨before, last, after ++ [i], nodes, ⟨?_, hbuilt.forest, ?_⟩, hmem, hwritten⟩
        · rw [hbuilt.imports, List.append_assoc, List.cons_append]
        · rw [List.flatMap_append, List.flatMap_singleton, lastTitled?_append, hnone,
            hbuilt.after]
          rfl
      · rw [← Database.importAll_append_singleton] at hc hwritten
        exact ⟨imports, i, [], nodes, ⟨rfl, hnodes, rfl⟩, hc, hwritten⟩

/-! ## What becomes of links by title -/

/-- A link by title, in a conversation that is stored after batches that started with nothing, leads
where its title led when the conversation was last built. That is in a conversation which has kept
its title since, and at an entry that has the title of the link exactly if the later scripts of that
conversation leave this title at this id. No id must have run out. -/
theorem entryAt?_titleLink? {imports : List Import}
    (hlast : Database.empty.IdsLast (Database.empty.importAll imports)) {c : Conversation}
    (hc : c ∈ (Database.empty.importAll imports).conversations) :
    ∃ before last after nodes, LastBuilt imports c.title before last after nodes ∧
      nodes.WrittenIn (Database.empty.importAll (before ++ [last])) c ∧
      ∀ n ∈ nodes, ∀ title ∈ n.titleLinks, ∀ ref,
        (Database.empty.importAll (before ++ [last])).titleLink? c n title = some ref →
        (∃ e ∈ c.entries, e.id = n.id ∧ ⟨⟨c.id, n.id⟩, ref⟩ ∈ e.links) ∧
        ∃ home,
          (Database.empty.importAll (before ++ [last])).titleOf? ref.conversation = some home ∧
          (Database.empty.importAll imports).titleOf? ref.conversation = some home ∧
          (((Database.empty.importAll imports).entryAt? ref).map (·.title) = some title ↔
            ∀ nodes', lastTitled? (after.flatMap Import.sources) home = some nodes' →
              (ref.entry, title) ∈ nodes'.entryTitles) := by
  obtain ⟨before, last, after, nodes, hbuilt, hmem, hwritten⟩ := exists_lastBuilt hlast hc
  refine ⟨before, last, after, nodes, hbuilt, hwritten, ?_⟩
  intro n hn title ht ref href
  refine ⟨hwritten.exists_link hn ht href, ?_⟩
  have hsplit : Database.empty.importAll imports =
      (Database.empty.importAll (before ++ [last])).importAll after := by
    rw [hbuilt.imports, ← Database.importAll_append, List.append_assoc, List.singleton_append]
  have hfinal := Database.orderly_empty.importAll hlast
  rw [hsplit] at hlast hfinal ⊢
  have hmade := Database.orderly_empty.importAll
    (hlast.first (Database.continues_importAll _ after))
  obtain ⟨d, hd, hid, hentry⟩ := Database.exists_of_titleLink? hmem href
  obtain ⟨d', hd', hsucceeds⟩ :=
    hmade.exists_succeeds hd (hlast.rest (Database.empty.continues_importAll (before ++ [last])))
  have haddress : ref = ⟨d'.id, ref.entry⟩ := by rw [hsucceeds.id, ← hid]
  refine ⟨d.title, ?_, ?_, ?_⟩
  · rw [hid]
    exact Database.titleOf?_of_mem hmade.conversationIds hd
  · rw [hid, ← hsucceeds.id, ← hsucceeds.title]
    exact Database.titleOf?_of_mem hfinal.conversationIds hd'
  · rw [haddress, hfinal.entryAt?_iff hd', hsucceeds.entryTitles]
    rcases lastTitled? (after.flatMap Import.sources) d.title with _ | nodes'
    · exact iff_of_true hentry fun _ h => nomatch h
    · constructor
      · rintro h nodes'' ⟨⟩
        exact h
      · exact fun h => h nodes' rfl

/-- Two scripts, and then the second one again with its first two lines the other way round. -/
def renumbering : List Import :=
  [⟨.standard, linkedScripts⟩,
    ⟨.standard, [⟨none, "title: Hall\nnpc: Bob\nBob: Come in.\n<<title Inside>>\nHello. ->"⟩]⟩]

theorem idsLast_renumbering : Database.empty.IdsLast (Database.empty.importAll renumbering) :=
  ⟨.of_ne_zero (by decide +kernel), .of_ne_zero (by decide +kernel)⟩

/-- The first script, which only the first batch imports, has a link to an entry of the second one,
and the link gets the address that this entry had in the first batch. -/
theorem exists_titleLink?_renumbering :
    ∃ c ∈ (Database.empty.importAll renumbering).conversations, ∃ nodes,
      LastBuilt renumbering c.title [] ⟨.standard, linkedScripts⟩ (renumbering.drop 1) nodes ∧
        ∃ n ∈ nodes, "Inside" ∈ n.titleLinks ∧
          (Database.empty.importAll (renumbering.take 1)).titleLink? c n "Inside" =
            some ⟨2, 2⟩ := by
  have hparsed : (lastTitled? linkedScripts "Gate").isSome := by decide +kernel
  obtain ⟨c, hc, htitle, hn⟩ :
      ∃ c ∈ (Database.empty.importAll renumbering).conversations, c.title = "Gate" ∧
        ∃ n ∈ (lastTitled? linkedScripts "Gate").get hparsed, "Inside" ∈ n.titleLinks ∧
          (Database.empty.importAll (renumbering.take 1)).titleLink? c n "Inside" =
            some ⟨2, 2⟩ := by
    decide +kernel +revert
  refine ⟨c, hc, _, ⟨rfl, ?_, ?_⟩, hn⟩
  · rw [htitle]
    exact (Option.some_get hparsed).symm
  · rw [htitle]
    decide +kernel

/-- The link stays where it is and `Hall` keeps its title, so the link leads to an entry `Inside`
exactly if the later script of `Hall` has this title at the old number. -/
theorem entryAt?_titleLink?_renumbering :
    ∃ c ∈ (Database.empty.importAll renumbering).conversations, ∃ nodes, ∃ n ∈ nodes,
      LastBuilt renumbering c.title [] ⟨.standard, linkedScripts⟩ (renumbering.drop 1) nodes ∧
      nodes.WrittenIn (Database.empty.importAll (renumbering.take 1)) c ∧
      "Inside" ∈ n.titleLinks ∧
      (∃ e ∈ c.entries, e.id = n.id ∧ ⟨⟨c.id, n.id⟩, ⟨2, 2⟩⟩ ∈ e.links) ∧
      (Database.empty.importAll renumbering).titleOf? 2 = some "Hall" ∧
      (((Database.empty.importAll renumbering).entryAt? ⟨2, 2⟩).map (·.title) = some "Inside" ↔
        ∀ nodes', lastTitled? ((renumbering.drop 1).flatMap Import.sources) "Hall" = some nodes' →
          (2, "Inside") ∈ nodes'.entryTitles) := by
  have hhall : (Database.empty.importAll renumbering).titleOf? 2 = some "Hall" := by decide +kernel
  obtain ⟨c, hc, _, hgate, n, hn, ht, href⟩ := exists_titleLink?_renumbering
  obtain ⟨before, last, after, nodes, hbuilt, hwritten, hlinks⟩ :=
    entryAt?_titleLink? idsLast_renumbering hc
  obtain ⟨rfl, rfl, rfl, rfl⟩ := hbuilt.unique hgate
  obtain ⟨hlink, home, -, hhome, htitled⟩ := hlinks n hn "Inside" ht ⟨2, 2⟩ href
  obtain rfl : home = "Hall" := Option.some.inj (hhome.symm.trans hhall)
  exact ⟨c, hc, nodes, n, hn, hgate, hwritten, ht, hlink, hhall, htitled⟩

/-- The link that led to the entry `Inside` before the second batch leads to another entry after
it. -/
theorem exists_titleLink?_renumbered :
    ∃ c ∈ (Database.empty.importAll renumbering).conversations, ∃ nodes,
      LastBuilt renumbering c.title [] ⟨.standard, linkedScripts⟩ (renumbering.drop 1) nodes ∧
        ∃ n ∈ nodes, "Inside" ∈ n.titleLinks ∧
          (Database.empty.importAll (renumbering.take 1)).titleLink? c n "Inside" =
            some ⟨2, 2⟩ ∧
          (∃ e ∈ c.entries, e.id = n.id ∧ ⟨⟨c.id, n.id⟩, ⟨2, 2⟩⟩ ∈ e.links) ∧
          ((Database.empty.importAll renumbering).entryAt? ⟨2, 2⟩).map (·.title) ≠
            some "Inside" := by
  obtain ⟨c, hc, nodes, hgate, n, hn, ht, href⟩ := exists_titleLink?_renumbering
  obtain ⟨before, last, after, nodes', hbuilt, -, hwritten⟩ :=
    exists_lastBuilt idsLast_renumbering hc
  obtain ⟨rfl, rfl, rfl, rfl⟩ := hbuilt.unique hgate
  exact ⟨c, hc, nodes', hgate, n, hn, ht, href, hwritten.exists_link hn ht href, by decide +kernel⟩

end Dialogue
