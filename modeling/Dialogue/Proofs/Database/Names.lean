import Dialogue.Proofs.Database.Keys

/-!
# What a database calls things

A title goes with the id of the first conversation that has it, a name with the id of the first
actor that has it, and the player with an id if one is set that is an actor's. Importing leaves all
three as they are once they are there: a database `Continues` another when every id that the other
gives out still stands (`Continues.idNamed?`), and that is how a conversation written early in a
run can be compared with the database at its end.

New people come in two ways. `enroll` adds an actor for every name that has none, and `staff` does
so after it has seen to the player. Neither touches a conversation, and where everybody is there
already neither does anything (`staff_eq_self`).

An id is new only as long as there are new ones: behind the last id of all the count starts again at
0. `IdsLast` says that it has not come to that on the way from one database to another, and it is
all that has to be known of a way, since it holds of every part of the way (`IdsLast.first`,
`IdsLast.rest`).
-/

namespace Dialogue.Database

/-- The id that goes with a title. -/
def idTitled? (db : Database) (title : String) : Option ConversationId :=
  (db.conversationTitled? title).map (·.id)

/-- The id that goes with a name. -/
def idNamed? (db : Database) (name : String) : Option ActorId :=
  (db.actorNamed? name).map (·.id)

/-- The id that a conversation of this title gets: the one that the title goes with, or else a new
one. -/
def idFor (db : Database) (title : String) : ConversationId :=
  (db.idTitled? title).getD db.nextConversationId

/-- The id of the player, if one is set that is an actor's. -/
def player? (db : Database) : Option ActorId :=
  db.player.filter fun id => (db.actorById? id).isSome

/-- The database with an actor for each of the names. -/
def enroll (db : Database) (names : List String) : Database :=
  names.foldl (fun db name => (db.actorId name false).2) db

/-- The database with a player, and with an actor for each of the names. -/
def staff (db : Database) (fallback : String) (names : List String) : Database :=
  (db.playerId fallback).2.enroll names

/-- Every id that the first database gives out stands in the second one too. -/
structure Continues (db db' : Database) : Prop where
  idTitled? : ∀ {title id}, db.idTitled? title = some id → db'.idTitled? title = some id
  actors : db.actors <+: db'.actors
  player? : ∀ {id}, db.player? = some id → db'.player? = some id

/-- No actor id has run out on the way to the second database: no name that only that one knows goes
with 0, the id behind the last one. -/
def ActorIdsLast (db db' : Database) : Prop :=
  ∀ name, db.idNamed? name = none → db'.idNamed? name ≠ some 0

/-- No conversation id has run out on the way to the second database: no title that only that one
knows goes with 0, the id behind the last one. -/
def ConversationIdsLast (db db' : Database) : Prop :=
  ∀ title, db.idTitled? title = none → db'.idTitled? title ≠ some 0

/-- No id has run out on the way to the second database. -/
structure IdsLast (db db' : Database) : Prop where
  actors : db.ActorIdsLast db'
  conversations : db.ConversationIdsLast db'

/-! ## The first match stays the first -/

variable {db db' db'' : Database}

/-- Actors that come after the others do not change what a name goes with. -/
theorem idNamed?_of_actors (h : db.actors <+: db'.actors) {name : String} {id : ActorId}
    (hid : db.idNamed? name = some id) : db'.idNamed? name = some id := by
  obtain ⟨new, hnew⟩ := h
  obtain ⟨a, ha, rfl⟩ := Option.map_eq_some_iff.1 hid
  have hfind : db'.actorNamed? name = some a := by
    unfold actorNamed? at ha ⊢
    rw [← hnew, List.find?_append, ha, Option.some_or]
  rw [Database.idNamed?, hfind, Option.map_some]

/-- Actors that come after the others do not change whom an id names. -/
theorem actorById?_of_actors (h : db.actors <+: db'.actors) {id : ActorId} {a : Actor}
    (ha : db.actorById? id = some a) : db'.actorById? id = some a := by
  obtain ⟨new, hnew⟩ := h
  unfold actorById? at ha ⊢
  rw [← hnew, List.find?_append, ha, Option.some_or]

/-- A player that is there stays there if it stays set. -/
theorem player?_of_actors (h : db.actors <+: db'.actors) (hp : db'.player = db.player)
    {id : ActorId} (hid : db.player? = some id) : db'.player? = some id := by
  unfold Database.player? at hid ⊢
  rw [Option.filter_eq_some_iff] at hid ⊢
  obtain ⟨hset, hsome⟩ := hid
  obtain ⟨a, ha⟩ := Option.isSome_iff_exists.1 hsome
  rw [actorById?_of_actors h ha, hp]
  exact ⟨hset, rfl⟩

theorem Continues.idNamed? (h : Continues db db') {name : String} {id : ActorId}
    (hid : db.idNamed? name = some id) : db'.idNamed? name = some id :=
  idNamed?_of_actors h.actors hid

theorem Continues.refl (db : Database) : Continues db db :=
  ⟨id, List.prefix_refl _, id⟩

theorem Continues.trans (h : Continues db db') (h' : Continues db' db'') : Continues db db'' where
  idTitled? ht := h'.idTitled? (h.idTitled? ht)
  actors := h.actors.trans h'.actors
  player? hp := h'.player? (h.player? hp)

/-! ## Ids that last -/

/-- Ids that last on a way last on the first part of it. -/
theorem ActorIdsLast.first (h : db.ActorIdsLast db'') (hp : db'.actors <+: db''.actors) :
    db.ActorIdsLast db' :=
  fun name hnone hzero => h name hnone (idNamed?_of_actors hp hzero)

/-- They last on the rest of it too. -/
theorem ActorIdsLast.rest (h : db.ActorIdsLast db'') (hp : db.actors <+: db'.actors) :
    db'.ActorIdsLast db'' := by
  intro name hnone
  rcases hname : db.idNamed? name with _ | id
  · exact h name hname
  · rw [idNamed?_of_actors hp hname] at hnone
    cases hnone

theorem ConversationIdsLast.refl (db : Database) : db.ConversationIdsLast db := by
  intro title hnone hzero
  rw [hnone] at hzero
  cases hzero

theorem ConversationIdsLast.first (h : db.ConversationIdsLast db'') (hc : db'.Continues db'') :
    db.ConversationIdsLast db' :=
  fun title hnone hzero => h title hnone (hc.idTitled? hzero)

theorem ConversationIdsLast.rest (h : db.ConversationIdsLast db'') (hc : db.Continues db') :
    db'.ConversationIdsLast db'' := by
  intro title hnone
  rcases ht : db.idTitled? title with _ | id
  · exact h title ht
  · rw [hc.idTitled? ht] at hnone
    cases hnone

/-- Ids that last on both parts of a way last on all of it. -/
theorem ConversationIdsLast.trans (h : db.ConversationIdsLast db')
    (h' : db'.ConversationIdsLast db'') (hc : db'.Continues db'') : db.ConversationIdsLast db'' := by
  intro title hnone hzero
  rcases ht : db'.idTitled? title with _ | id
  · exact h' title ht hzero
  · rw [hc.idTitled? ht] at hzero
    exact h title hnone (ht.trans hzero)

theorem IdsLast.first (h : db.IdsLast db'') (hc : db'.Continues db'') : db.IdsLast db' :=
  ⟨h.actors.first hc.actors, h.conversations.first hc⟩

theorem IdsLast.rest (h : db.IdsLast db'') (hc : db.Continues db') : db'.IdsLast db'' :=
  ⟨h.actors.rest hc.actors, h.conversations.rest hc⟩

theorem nextActorId_ne_zero_iff : db.nextActorId ≠ 0 ↔ ∀ a ∈ db.actors, a.id < maxId := by
  rw [nextActorId, ne_eq, nextId_eq_zero_iff]
  simp

theorem nextConversationId_ne_zero_iff :
    db.nextConversationId ≠ 0 ↔ ∀ c ∈ db.conversations, c.id < maxId := by
  rw [nextConversationId, ne_eq, nextId_eq_zero_iff]
  simp

/-- Where nobody has the id 0, no actor id has run out. -/
theorem ActorIdsLast.of_ne_zero (h : ∀ a ∈ db'.actors, a.id ≠ 0) : db.ActorIdsLast db' := by
  intro name _ hzero
  obtain ⟨a, ha, hid⟩ := Option.map_eq_some_iff.1 hzero
  exact h a (List.mem_of_find?_eq_some ha) hid

/-- Where no conversation has the id 0, no conversation id has run out. -/
theorem ConversationIdsLast.of_ne_zero (h : ∀ c ∈ db'.conversations, c.id ≠ 0) :
    db.ConversationIdsLast db' := by
  intro title _ hzero
  obtain ⟨c, hc, hid⟩ := Option.map_eq_some_iff.1 hzero
  exact h c (List.mem_of_find?_eq_some hc) hid

/-! ## Adding an actor -/

/-- A name that goes with an id adds nobody. -/
theorem actorId_of_idNamed? {name : String} {id : ActorId} (h : db.idNamed? name = some id)
    (isPlayer : Bool) : db.actorId name isPlayer = (id, db) := by
  obtain ⟨a, ha, rfl⟩ := Option.map_eq_some_iff.1 h
  rw [actorId, ha]

@[simp] theorem conversations_actorId (db : Database) (name : String) (isPlayer : Bool) :
    (db.actorId name isPlayer).2.conversations = db.conversations := by
  unfold actorId
  split <;> rfl

@[simp] theorem player_actorId (db : Database) (name : String) (isPlayer : Bool) :
    (db.actorId name isPlayer).2.player = db.player := by
  unfold actorId
  split <;> rfl

theorem actors_actorId (db : Database) (name : String) (isPlayer : Bool) :
    db.actors <+: (db.actorId name isPlayer).2.actors := by
  unfold actorId
  split
  · exact List.prefix_refl _
  · exact List.prefix_append _ _

/-- The id given for a name goes with the name from then on. -/
theorem idNamed?_actorId (db : Database) (name : String) (isPlayer : Bool) :
    (db.actorId name isPlayer).2.idNamed? name = some (db.actorId name isPlayer).1 := by
  rcases h : db.actorNamed? name with _ | a
  · rw [actorId, h]
    unfold actorNamed? at h
    simp [Database.idNamed?, actorNamed?, addActor, h]
  · have hid : db.idNamed? name = some a.id := by rw [Database.idNamed?, h, Option.map_some]
    rw [actorId_of_idNamed? hid]
    exact hid

/-- The id given for a name is an actor's. -/
theorem actorById?_isSome_of_idNamed? {name : String} {id : ActorId}
    (h : db.idNamed? name = some id) : (db.actorById? id).isSome := by
  obtain ⟨a, ha, rfl⟩ := Option.map_eq_some_iff.1 h
  rw [actorById?, List.find?_isSome]
  exact ⟨a, List.mem_of_find?_eq_some ha, by simp⟩

/-- The ids last while a name gets one, exactly if it has one or the last id is free. -/
theorem actorIdsLast_actorId_iff {name : String} {isPlayer : Bool} :
    db.ActorIdsLast (db.actorId name isPlayer).2 ↔
      (db.idNamed? name).isSome ∨ ∀ a ∈ db.actors, a.id < maxId := by
  rw [← nextActorId_ne_zero_iff]
  rcases hname : db.idNamed? name with _ | id
  · have hnamed : db.actorNamed? name = none := Option.map_eq_none_iff.1 hname
    have hnew := idNamed?_actorId db name isPlayer
    rw [actorId, hnamed] at hnew ⊢
    simp only [Option.isSome_none, Bool.false_eq_true, false_or]
    refine ⟨fun h hzero => h name hname (hzero ▸ hnew), fun hne other hother hzero => ?_⟩
    obtain ⟨a, ha, hid⟩ := Option.map_eq_some_iff.1 hzero
    rw [actorNamed?, addActor, List.find?_append,
      ← actorNamed?, Option.map_eq_none_iff.1 hother, Option.none_or] at ha
    rw [List.mem_singleton.1 (List.mem_of_find?_eq_some ha)] at hid
    exact hne hid
  · rw [actorId_of_idNamed? hname]
    refine iff_of_true (fun other hnone hzero => ?_) (.inl rfl)
    rw [hnone] at hzero
    cases hzero

/-- Where the ids last while a new name gets one, that is not 0. -/
theorem ActorIdsLast.nextActorId_ne_zero {name : String} {isPlayer : Bool}
    (hlast : db.ActorIdsLast (db.actorId name isPlayer).2) (hnew : db.actorNamed? name = none) :
    db.nextActorId ≠ 0 := by
  have hnone : db.idNamed? name = none := Option.map_eq_none_iff.2 hnew
  rcases actorIdsLast_actorId_iff.1 hlast with hthere | hfree
  · rw [hnone] at hthere
    cases hthere
  · exact nextActorId_ne_zero_iff.2 hfree

/-- Where ids are distinct, they stay so as long as they last. -/
theorem nodup_actorId (h : (db.actors.map (·.id)).Nodup) {name : String} {isPlayer : Bool}
    (hlast : db.ActorIdsLast (db.actorId name isPlayer).2) :
    ((db.actorId name isPlayer).2.actors.map (·.id)).Nodup := by
  unfold actorId
  split
  · exact h
  · next hnew =>
    have hfresh : db.nextActorId ∉ db.actors.map (·.id) :=
      nextId_not_mem (hlast.nextActorId_ne_zero hnew)
    simpa [addActor, List.nodup_append] using
      ⟨h, fun a ha heq => hfresh (heq ▸ List.mem_map_of_mem ha)⟩

/-- Actors are looked up and added without a look at the conversations. -/
theorem actorId_withConversations (db : Database) (cs : List Conversation) (name : String)
    (isPlayer : Bool) :
    ({ db with conversations := cs } : Database).actorId name isPlayer =
      ((db.actorId name isPlayer).1,
        { (db.actorId name isPlayer).2 with conversations := cs }) := by
  have hnamed : ({ db with conversations := cs } : Database).actorNamed? name =
      db.actorNamed? name := rfl
  unfold actorId
  rw [hnamed]
  split <;> rfl

/-! ## Adding all who are named -/

@[simp] theorem enroll_nil (db : Database) : db.enroll [] = db := rfl

theorem enroll_cons (db : Database) (name : String) (names : List String) :
    db.enroll (name :: names) = (db.actorId name false).2.enroll names := rfl

theorem enroll_append (db : Database) (names names' : List String) :
    db.enroll (names ++ names') = (db.enroll names).enroll names' :=
  List.foldl_append

@[simp] theorem conversations_enroll (db : Database) (names : List String) :
    (db.enroll names).conversations = db.conversations := by
  induction names generalizing db with
  | nil => rfl
  | cons name names ih => rw [enroll_cons, ih, conversations_actorId]

@[simp] theorem player_enroll (db : Database) (names : List String) :
    (db.enroll names).player = db.player := by
  induction names generalizing db with
  | nil => rfl
  | cons name names ih => rw [enroll_cons, ih, player_actorId]

theorem actors_enroll (db : Database) (names : List String) :
    db.actors <+: (db.enroll names).actors := by
  induction names generalizing db with
  | nil => exact List.prefix_refl _
  | cons name names ih =>
      rw [enroll_cons]
      exact (actors_actorId db name false).trans (ih _)

/-- Whoever is named has an id afterwards. -/
theorem exists_idNamed?_enroll (db : Database) {names : List String} {name : String}
    (h : name ∈ names) : ∃ id, (db.enroll names).idNamed? name = some id := by
  induction names generalizing db with
  | nil => cases h
  | cons first names ih =>
      rw [enroll_cons]
      rcases List.mem_cons.1 h with rfl | h
      · exact ⟨_, idNamed?_of_actors (actors_enroll _ names) (idNamed?_actorId db name false)⟩
      · exact ih _ h

theorem nodup_enroll (h : (db.actors.map (·.id)).Nodup) {names : List String}
    (hlast : db.ActorIdsLast (db.enroll names)) :
    ((db.enroll names).actors.map (·.id)).Nodup := by
  induction names generalizing db with
  | nil => exact h
  | cons name names ih =>
      rw [enroll_cons] at hlast ⊢
      exact ih (nodup_actorId h (hlast.first (actors_enroll _ names)))
        (hlast.rest (actors_actorId db name false))

theorem enroll_withConversations (db : Database) (cs : List Conversation) (names : List String) :
    ({ db with conversations := cs } : Database).enroll names =
      { db.enroll names with conversations := cs } := by
  induction names generalizing db with
  | nil => rfl
  | cons name names ih => rw [enroll_cons, actorId_withConversations, ih, ← enroll_cons]

/-! ## The player -/

/-- A player that is there is the player. -/
theorem playerId_of_player? {id : ActorId} (h : db.player? = some id) (fallback : String) :
    db.playerId fallback = (id, db) := by
  unfold Database.player? at h
  unfold playerId
  rw [h]

/-- Without one, the player becomes the actor of this name. -/
theorem playerId_of_player?_eq_none (h : db.player? = none) (fallback : String) :
    db.playerId fallback = ((db.actorId fallback true).1,
      { (db.actorId fallback true).2 with player := some (db.actorId fallback true).1 }) := by
  unfold Database.player? at h
  unfold playerId
  rw [h]

/-- A player that is set and is an actor is there. -/
theorem player?_of_mem {a : Actor} (ha : a ∈ db.actors) (h : db.player = some a.id) :
    db.player? = some a.id := by
  refine Option.filter_eq_some_iff.2 ⟨h, ?_⟩
  rw [actorById?, List.find?_isSome]
  exact ⟨a, ha, decide_eq_true rfl⟩

@[simp] theorem conversations_playerId (db : Database) (fallback : String) :
    (db.playerId fallback).2.conversations = db.conversations := by
  rcases h : db.player? with _ | id
  · rw [playerId_of_player?_eq_none h]
    exact conversations_actorId db fallback true
  · rw [playerId_of_player? h]

theorem actors_playerId (db : Database) (fallback : String) :
    db.actors <+: (db.playerId fallback).2.actors := by
  rcases h : db.player? with _ | id
  · rw [playerId_of_player?_eq_none h]
    exact actors_actorId db fallback true
  · exact (playerId_of_player? h fallback).symm ▸ List.prefix_refl _

theorem nodup_playerId (hdb : (db.actors.map (·.id)).Nodup) {fallback : String}
    (hlast : db.ActorIdsLast (db.playerId fallback).2) :
    ((db.playerId fallback).2.actors.map (·.id)).Nodup := by
  rcases h : db.player? with _ | id
  · rw [playerId_of_player?_eq_none h] at hlast ⊢
    exact nodup_actorId hdb hlast
  · rw [playerId_of_player? h]
    exact hdb

/-- The player given is the player from then on. -/
theorem player?_playerId (db : Database) (fallback : String) :
    (db.playerId fallback).2.player? = some (db.playerId fallback).1 := by
  rcases h : db.player? with _ | id
  · rw [playerId_of_player?_eq_none h, Database.player?, Option.filter_eq_some_iff]
    exact ⟨rfl, actorById?_isSome_of_idNamed? (idNamed?_actorId db fallback true)⟩
  · rw [playerId_of_player? h]
    exact h

theorem playerId_withConversations (db : Database) (cs : List Conversation) (fallback : String) :
    ({ db with conversations := cs } : Database).playerId fallback =
      ((db.playerId fallback).1, { (db.playerId fallback).2 with conversations := cs }) := by
  have hplayer : ({ db with conversations := cs } : Database).player? = db.player? := rfl
  rcases h : db.player? with _ | id
  · rw [playerId_of_player?_eq_none (hplayer.trans h), playerId_of_player?_eq_none h,
      actorId_withConversations]
  · rw [playerId_of_player? (hplayer.trans h), playerId_of_player? h]

/-! ## A player and all who are named -/

@[simp] theorem conversations_staff (db : Database) (fallback : String) (names : List String) :
    (db.staff fallback names).conversations = db.conversations := by
  rw [staff, conversations_enroll, conversations_playerId]

theorem actors_staff (db : Database) (fallback : String) (names : List String) :
    db.actors <+: (db.staff fallback names).actors :=
  (actors_playerId db fallback).trans (actors_enroll _ names)

theorem player?_staff (db : Database) (fallback : String) (names : List String) :
    (db.staff fallback names).player? = some (db.playerId fallback).1 :=
  player?_of_actors (actors_enroll _ names) (player_enroll _ names) (player?_playerId db fallback)

theorem nodup_staff (h : (db.actors.map (·.id)).Nodup) {fallback : String} {names : List String}
    (hlast : db.ActorIdsLast (db.staff fallback names)) :
    ((db.staff fallback names).actors.map (·.id)).Nodup :=
  nodup_enroll (nodup_playerId h (hlast.first (actors_enroll _ names)))
    (hlast.rest (actors_playerId db fallback))

/-- The player after an import is the one before, or else the actor of the name that stands in. -/
theorem player?_or_idNamed?_staff (db : Database) (fallback : String) (names : List String) :
    db.player? = some (db.playerId fallback).1 ∨
      db.player? = none ∧
        (db.staff fallback names).idNamed? fallback = some (db.playerId fallback).1 := by
  rcases h : db.player? with _ | id
  · right
    refine ⟨rfl, idNamed?_of_actors (actors_enroll _ names) ?_⟩
    rw [playerId_of_player?_eq_none h]
    exact idNamed?_actorId db fallback true
  · left
    rw [playerId_of_player? h]

/-! ## The conversations of a title -/

/-- The ids and titles of the conversations. -/
def shelf (db : Database) : List (ConversationId × String) :=
  db.conversations.map fun c => (c.id, c.title)

theorem idTitled?_eq_shelf (db : Database) (title : String) :
    db.idTitled? title = (db.shelf.find? (·.2 = title)).map Prod.fst := by
  rw [idTitled?, conversationTitled?, shelf, List.find?_map, Option.map_map]
  rfl

/-- A title goes with an id exactly if the database has it. -/
theorem isSome_idTitled?_iff {title : String} :
    (db.idTitled? title).isSome ↔ title ∈ db.conversations.map (·.title) := by
  rw [Database.idTitled?, Option.isSome_map, conversationTitled?, List.find?_isSome]
  simp only [decide_eq_true_eq, List.mem_map]

/-- The id of a conversation goes with its title. -/
theorem idTitled?_of_mem (h : (db.conversations.map (·.title)).Nodup) {c : Conversation}
    (hc : c ∈ db.conversations) : db.idTitled? c.title = some c.id := by
  rw [Database.idTitled?, conversationTitled?, find?_of_nodup h hc rfl]
  rfl

/-- The conversations of a title are one, with the id that goes with the title. -/
theorem ids_filter_titled (h : (db.conversations.map (·.title)).Nodup) {title : String}
    {id : ConversationId} (hid : db.idTitled? title = some id) :
    (db.conversations.filter (·.title = title)).map (·.id) = [id] := by
  obtain ⟨c, hc, rfl⟩ := Option.map_eq_some_iff.1 hid
  have ht : c.title = title := by simpa using List.find?_some hc
  rw [← ht, filter_of_nodup h (List.mem_of_find?_eq_some hc), List.map_singleton]

/-! ## Storing a conversation under its title -/

/-- A conversation that is stored in place of those of its title takes over the title, and every
other title goes with what it went with before. -/
theorem idTitled?_store (db : Database) (c : Conversation) (title : String) :
    ((db.removeTitled c.title).addConversation c).idTitled? title =
      if title = c.title then some c.id else db.idTitled? title := by
  by_cases h : title = c.title
  · subst h
    have hnone :
        (db.conversations.filter (·.title ≠ c.title)).find? (·.title = c.title) = none := by
      rw [List.find?_eq_none]
      intro d hd
      simpa using (List.mem_filter.1 hd).2
    rw [if_pos rfl, Database.idTitled?, conversationTitled?, addConversation, removeTitled,
      List.find?_append, hnone]
    simp
  · have hsame : (db.conversations.filter (·.title ≠ c.title)).find? (·.title = title) =
        db.conversations.find? (·.title = title) := by
      rw [List.find?_filter]
      congr 1
      funext d
      by_cases hd : d.title = title <;> simp [hd, h]
    have hnot : ¬ c.title = title := fun hc => h hc.symm
    rw [if_neg h, Database.idTitled?, Database.idTitled?, conversationTitled?, addConversation,
      removeTitled, List.find?_append, hsame, conversationTitled?]
    simp [hnot]

end Dialogue.Database
