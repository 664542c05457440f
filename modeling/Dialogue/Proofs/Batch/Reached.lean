import Mathlib.Logic.Relation
import Dialogue.Proofs.Batch.Frame

/-!
# What holds of every database that importing reaches

Starting from nothing, sources are imported and batches finished in any order and number
(`Batch.Step`, `Batch.Reaches`). As long as they last, the ids of such a database are never in
disorder (`Database.Registered`): actors are numbered in the order in which they came, the first one
is the player and the only one, and conversations have the first ids, one for each title. Nor does a
later state take back what an earlier one has given out (`Database.Keeps`).

Actors are only ever added at the end of the list (`staff`), so their numbers are those of
`List.range'`. Conversations are taken out and put in again, so for them only the set of ids is
fixed: putting a title in again restores its id, and a new title takes the next one.
-/

namespace Dialogue

/-- One call on a batch. A batch that is finished, or left as it is, makes way for another one over
the same database with options of its own. -/
inductive Batch.Step : Batch → Batch → Prop
  | source (b : Batch) (s : Source) : Step b (b.importSource s).2
  | finish (b : Batch) (options : ImportOptions) : Step b (.start b.finish.2 options)
  | leave (b : Batch) (options : ImportOptions) : Step b (.start b.db options)

/-- The second batch comes after the first one. -/
def Batch.Reaches : Batch → Batch → Prop := Relation.ReflTransGen Batch.Step

namespace Database

/-- The actors are numbered from 1 and have names of their own, and the first one is the player. -/
structure Rostered (db : Database) : Prop where
  ids : db.actors.map (·.id) = List.range' 1 db.actors.length
  names : (db.actors.map (·.name)).Nodup
  player : db.actors ≠ [] → db.player = some 1
  isPlayer : ∀ a ∈ db.actors, a.isPlayer = true ↔ a.id = 1

/-- The conversations have the ids from 1 on, in some order, and titles of their own. -/
structure Catalogued (db : Database) : Prop where
  ids : (db.conversations.map (·.id)).Perm (List.range' 1 db.conversations.length)
  titles : (db.conversations.map (·.title)).Nodup

/-- The ids of the database are in order. -/
structure Registered (db : Database) : Prop where
  roster : db.Rostered
  catalogue : db.Catalogued

/-- The second database has everything that the first one had, under the old ids, which nothing else
has. -/
structure Keeps (db db' : Database) : Prop where
  actors : db.actors <+: db'.actors
  titles : ∀ c ∈ db.conversations, c.title ∈ db'.conversations.map (·.title)
  ids : ∀ c ∈ db.conversations, ∀ c' ∈ db'.conversations, c'.id = c.id ↔ c'.title = c.title

variable {db db' : Database}

/-- The largest of the ids from 1 on is how many there are. -/
theorem max?_range' (n : Nat) : (List.range' 1 n).max?.getD 0 = n := by
  rcases n with _ | n
  · rfl
  · have hmax : (List.range' 1 (n + 1)).max? = some (n + 1) := by
      refine List.max?_eq_some_iff.2 ⟨?_, fun i hi => ?_⟩
      · rw [List.mem_range'_1]
        omega
      · rw [List.mem_range'_1] at hi
        omega
    rw [hmax, Option.getD_some]

/-! ## Actors -/

theorem rostered_empty : Rostered .empty where
  ids := rfl
  names := List.nodup_nil
  player h := absurd rfl h
  isPlayer a ha := by cases ha

namespace Rostered

theorem nextActorId (h : db.Rostered) (hlast : db.nextActorId ≠ 0) :
    db.nextActorId = db.actors.length + 1 := by
  rw [Database.nextActorId, nextId_eq hlast, h.ids, max?_range']

/-- A roster that has anybody has the player. -/
theorem player?_eq (h : db.Rostered) (hne : db.actors ≠ []) : db.player? = some 1 := by
  have hfirst : 1 ∈ db.actors.map (·.id) := by
    rw [h.ids, List.mem_range'_1]
    have hpos := List.length_pos_iff.2 hne
    omega
  obtain ⟨a, ha, hid⟩ := List.mem_map.1 hfirst
  have hplayer := player?_of_mem ha (by rw [h.player hne, hid])
  rw [hplayer, hid]

/-- One more actor takes the next number, if there is one. Whoever comes first is the player, and
nobody after. -/
theorem addActor (h : db.Rostered) (hlast : db.nextActorId ≠ 0) {a : Actor}
    (hid : a.id = db.nextActorId) (hname : db.actorNamed? a.name = none) (hplayer : a.isPlayer = true ↔ db.actors = []) :
    Rostered { db.addActor a with player := some 1 } where
  ids := by
    show (db.actors ++ [a]).map (·.id) = List.range' 1 (db.actors ++ [a]).length
    rw [List.map_append, h.ids, List.length_append, List.length_singleton, List.range'_1_concat,
      List.map_singleton, hid, h.nextActorId hlast, Nat.add_comm 1]
  names := by
    have hfresh : a.name ∉ db.actors.map (·.name) := by
      intro hmem
      obtain ⟨b, hb, hsame⟩ := List.mem_map.1 hmem
      have hnot := List.find?_eq_none.1 hname b hb
      simp [hsame] at hnot
    show ((db.actors ++ [a]).map (·.name)).Nodup
    rw [List.map_append, List.map_singleton, ← List.concat_eq_append]
    exact h.names.concat hfresh
  player _ := rfl
  isPlayer := by
    intro b hb
    obtain hb | hb := List.mem_append.1 hb
    · exact h.isPlayer b hb
    · rw [List.mem_singleton.1 hb, hplayer, hid, h.nextActorId hlast, ← List.length_eq_zero_iff]
      simp

/-- A name that is given keeps the roster in order. -/
theorem actorId (h : db.Rostered) (hne : db.actors ≠ []) {name : String}
    (hlast : db.ActorIdsLast (db.actorId name false).2) : (db.actorId name false).2.Rostered := by
  unfold Database.actorId
  split
  · exact h
  · next hname =>
    have hmore := h.addActor (hlast.nextActorId_ne_zero hname)
      (a := ⟨db.nextActorId, name, false⟩) rfl hname (by simp [hne])
    rwa [← h.player hne] at hmore

theorem enroll (h : db.Rostered) (hne : db.actors ≠ []) {names : List String}
    (hlast : db.ActorIdsLast (db.enroll names)) : (db.enroll names).Rostered := by
  induction names generalizing db with
  | nil => exact h
  | cons name names ih =>
    have hmore : (db.actorId name false).2.actors ≠ [] := by
      obtain ⟨new, hnew⟩ := actors_actorId db name false
      rw [← hnew]
      simp [hne]
    rw [enroll_cons] at hlast
    exact ih (h.actorId hne (hlast.first (actors_enroll _ names))) hmore
      (hlast.rest (actors_actorId db name false))

/-- Afterwards there is somebody, and the first one is the player. -/
theorem playerId (h : db.Rostered) (fallback : String) :
    (db.playerId fallback).2.Rostered ∧ (db.playerId fallback).2.actors ≠ [] := by
  by_cases hne : db.actors = []
  · have hnone : db.player? = none := by
      rw [player?, Option.filter_eq_none_iff]
      intro id _
      simp [actorById?, hne]
    have hname : db.actorNamed? fallback = none := by
      rw [actorNamed?, hne, List.find?_nil]
    rw [playerId_of_player?_eq_none hnone, Database.actorId, hname]
    have hone : db.nextActorId = 1 := by
      rw [Database.nextActorId, hne]
      rfl
    have hmore := h.addActor (by rw [hone]; exact Nat.one_ne_zero)
      (a := ⟨db.nextActorId, fallback, true⟩) rfl hname (by simp [hne])
    simp only [hone] at hmore ⊢
    exact ⟨hmore, by simp [Database.addActor]⟩
  · rw [playerId_of_player? (h.player?_eq hne)]
    exact ⟨h, hne⟩

theorem staff (h : db.Rostered) {fallback : String} {names : List String}
    (hlast : db.ActorIdsLast (db.staff fallback names)) : (db.staff fallback names).Rostered := by
  obtain ⟨hplayer, hne⟩ := h.playerId fallback
  exact hplayer.enroll hne (hlast.rest (actors_playerId db fallback))

end Rostered

/-! ## Conversations -/

theorem catalogued_empty : Catalogued .empty where
  ids := .refl _
  titles := List.nodup_nil

namespace Catalogued

theorem nodup_ids (h : db.Catalogued) : (db.conversations.map (·.id)).Nodup :=
  h.ids.nodup_iff.2 List.nodup_range'

theorem largestId (h : db.Catalogued) : db.largestId = db.conversations.length := by
  rw [Database.largestId, max?_congr fun _ => h.ids.mem_iff, max?_range']

/-- A conversation that is installed under the id for its title keeps the catalogue in order. -/
theorem install (h : db.Catalogued) {fallback : String} {o : Outline} {c : Conversation}
    (hc : c.title = o.title) (hid : c.id = db.idFor o.title)
    (hlast : db.ConversationIdsLast (db.install fallback o c)) :
    (db.install fallback o c).Catalogued := by
  refine ⟨?_, nodup_titles_install fallback h.titles hc⟩
  rw [conversations_install, List.map_append, List.map_singleton]
  by_cases hmem : o.title ∈ db.conversations.map (·.title)
  · -- the conversation of the title gives up its place and its id
    obtain ⟨id, hold⟩ := Option.isSome_iff_exists.1 (isSome_idTitled?_iff.2 hmem)
    have hsame : [c.id] = (db.conversations.filter (·.title = o.title)).map (·.id) := by
      rw [ids_filter_titled h.titles hold, hid, idFor, hold, Option.getD_some]
    have hperm : ((db.conversations.filter (·.title ≠ o.title)) ++
        db.conversations.filter (·.title = o.title)).Perm db.conversations := by
      have hsplit := List.filter_append_perm (·.title = o.title) db.conversations
      simp only [← decide_not] at hsplit
      exact List.perm_append_comm.trans hsplit
    have hlength : (db.conversations.filter (·.title ≠ o.title) ++ [c]).length =
        db.conversations.length := by
      have hone := congrArg List.length hsame
      have hall := hperm.length_eq
      simp only [List.length_append, List.length_map, List.length_singleton] at hone hall ⊢
      omega
    rw [hlength, hsame, ← List.map_append]
    exact (hperm.map _).trans h.ids
  · have hkept : db.conversations.filter (·.title ≠ o.title) = db.conversations := by
      rw [List.filter_eq_self]
      intro d hd
      simpa using fun ht : d.title = o.title => hmem (ht ▸ List.mem_map_of_mem hd)
    have hnext := (largestId_install_of_notMem fallback hc hid hmem hlast).1
    rw [hkept, List.length_append, List.length_singleton, List.range'_1_concat, hnext,
      h.largestId, Nat.add_comm 1]
    exact h.ids.append_right _

end Catalogued

/-! ## Both together -/

theorem registered_empty : Registered .empty := ⟨rostered_empty, catalogued_empty⟩

/-- The actors are in order whatever the conversations are. -/
theorem Rostered.withConversations (h : db.Rostered) (cs : List Conversation) :
    Rostered { db with conversations := cs } :=
  ⟨h.ids, h.names, h.player, h.isPlayer⟩

/-- The ids of conversations are in order whatever their entries are. -/
theorem Catalogued.congr (h : db.Catalogued) (hshelf : db'.shelf = db.shelf) : db'.Catalogued := by
  have hids := congrArg (List.map Prod.fst) hshelf
  have htitles := congrArg (List.map Prod.snd) hshelf
  have hlength := congrArg List.length hshelf
  simp only [shelf, List.map_map, List.length_map] at hids htitles hlength
  constructor
  · rw [hlength]
    exact (List.Perm.of_eq hids).trans h.ids
  · exact htitles ▸ h.titles

/-- What continues keeps everything, where the ids are in order before and after. -/
theorem Continues.keeps (h : db.Continues db') (hdb : db.Registered) (hdb' : db'.Registered) :
    db.Keeps db' := by
  have hthere : ∀ c ∈ db.conversations, db'.idTitled? c.title = some c.id := fun c hc =>
    h.idTitled? (idTitled?_of_mem hdb.catalogue.titles hc)
  refine ⟨h.actors, ?_, ?_⟩
  · intro c hc
    rw [← isSome_idTitled?_iff, hthere c hc]
    rfl
  · intro c hc c' hc'
    have hid' := idTitled?_of_mem hdb'.catalogue.titles hc'
    constructor
    · intro hid
      rw [hid] at hid'
      exact title_eq_of_idTitled? hdb'.catalogue.nodup_ids hid' (hthere c hc)
    · intro htitle
      rw [htitle, hthere c hc] at hid'
      exact (Option.some.inj hid').symm

end Database

/-! ## One step -/

namespace Batch

variable {b b' : Batch}

/-- A step takes nothing back. -/
theorem Step.continues (h : Step b b') : b.db.Continues b'.db := by
  cases h with
  | source s => exact continues_importSource
  | finish options => exact b.continues_finish
  | leave options => exact .refl _

/-- A step keeps the ids in order, as long as they last. -/
theorem Step.registered (h : Step b b') (hb : b.db.Registered) (hlast : b.db.IdsLast b'.db) :
    b'.db.Registered := by
  cases h with
  | source s =>
    rcases hs : s.outline? with _ | o
    · rw [importSource_of_none hs]
      exact hb
    · obtain ⟨c, hc, hid, hdb, -⟩ := exists_install (b := b) hs
      rw [hdb] at hlast ⊢
      exact ⟨(hb.roster.staff hlast.actors).withConversations _,
        hb.catalogue.install hc hid hlast.conversations⟩
  | finish options =>
    obtain ⟨cs, hcs, hshelf⟩ := b.db.exists_writeLinks (resolve b.db b.pending).links
    show b.finish.2.Registered
    rw [Batch.finish, hcs]
    exact ⟨hb.roster.withConversations cs, hb.catalogue.congr hshelf⟩
  | leave options => exact hb

/-! ## Any number of steps -/

theorem Reaches.continues (h : Reaches b b') : b.db.Continues b'.db := by
  induction h with
  | refl => exact .refl _
  | tail _ hstep ih => exact ih.trans hstep.continues

theorem Reaches.registered (h : Reaches b b') (hb : b.db.Registered)
    (hlast : b.db.IdsLast b'.db) : b'.db.Registered := by
  induction h with
  | refl => exact hb
  | tail hsteps hstep ih =>
    exact hstep.registered (ih (hlast.first hstep.continues)) (hlast.rest (Reaches.continues hsteps))

/-- Whatever is reached from nothing has its ids in order, and whatever is reached from there keeps
them, as long as the ids last. -/
theorem registered_of_reaches {options : ImportOptions} (h : Reaches (.start .empty options) b)
    (h' : Reaches b b') (hlast : Database.empty.IdsLast b'.db) :
    b.db.Registered ∧ b.db.Keeps b'.db := by
  have hb := h.registered Database.registered_empty (hlast.first h'.continues)
  exact ⟨hb, h'.continues.keeps hb (h'.registered hb (hlast.rest h.continues))⟩

/-- A script in one batch, and both in the next one, where the player has another name. -/
theorem registered_of_reaches_linkedScripts :
    let first := (start .empty .standard).importSources (linkedScripts.take 1)
    let second := start first.finish.2 { ImportOptions.standard with playerName := "Bob" }
    Reaches (start .empty .standard) first ∧
      Reaches first (second.importSources linkedScripts) ∧
      first.db.Registered ∧ first.db.Keeps (second.importSources linkedScripts).db := by
  intro first second
  have h : Reaches (start .empty .standard) first := .single (.source _ _)
  have h' : Reaches first (second.importSources linkedScripts) :=
    (Relation.ReflTransGen.single (.finish first _)).tail (.source _ _) |>.tail (.source _ _)
  have hlast : Database.empty.IdsLast (second.importSources linkedScripts).db :=
    ⟨.of_ne_zero (by decide +kernel), .of_ne_zero (by decide +kernel)⟩
  exact ⟨h, h', registered_of_reaches h h' hlast⟩

end Batch

end Dialogue
