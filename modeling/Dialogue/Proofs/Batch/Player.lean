import Dialogue.Proofs.Batch.Casting

/-!
# Who becomes the player

The player of a database stays if it is an actor. If not, the actor with the name that stands in
becomes the player, and only if there is none is one added (`Database.Designates`). The one that is
added is marked as a player; one that is there stays as it is, so it becomes the player without the
mark if it had none (`importSource_player`). Everything that nobody is named for is the player's.

From then on nothing changes: a step over a database with a player keeps it and marks nobody else
(`Batch.Step.samePlayer`), whatever name stands in, and so does any number of steps.
-/

namespace Dialogue

open Script

namespace Database

/-- Whoever is the player once one has been asked for. -/
inductive Designates (db : Database) (fallback : String) : Actor → Prop
  /-- The player that is set, if it is an actor. -/
  | kept {id : ActorId} {a : Actor} (hplayer : db.player? = some id)
      (ha : db.actorById? id = some a) : Designates db fallback a
  /-- The actor whose id goes with the name. -/
  | named {id : ActorId} {a : Actor} (hnone : db.player? = none)
      (hid : db.idNamed? fallback = some id) (ha : db.actorById? id = some a) :
      Designates db fallback a
  /-- A new actor. -/
  | added (hnone : db.player? = none) (hid : db.idNamed? fallback = none) :
      Designates db fallback ⟨db.nextActorId, fallback, true⟩

/-- The second database has the player of the first one, and the actors that are marked as
players. -/
structure SamePlayer (db db' : Database) : Prop where
  player : db'.player = db.player
  marked : db'.actors.filter (·.isPlayer) = db.actors.filter (·.isPlayer)

variable {db db' db'' : Database} {fallback : String} {id : ActorId}

/-! ## The player of an import -/

/-- The actor that an id names has the id. -/
theorem id_eq_of_actorById? {a : Actor} (h : db.actorById? id = some a) : a.id = id := by
  simpa using List.find?_some h

/-- Once a player has been asked for, the player is the actor that is designated, as long as the ids
last. -/
theorem exists_designates (hlast : db.ActorIdsLast (db.playerId fallback).2) :
    ∃ a, db.Designates fallback a ∧ (db.playerId fallback).1 = a.id ∧
      (db.playerId fallback).2.actorById? a.id = some a := by
  rcases hplayer : db.player? with _ | id
  · rw [playerId_of_player?_eq_none hplayer] at hlast ⊢
    rcases hid : db.idNamed? fallback with _ | id
    · have hname : db.actorNamed? fallback = none := Option.map_eq_none_iff.1 hid
      have hfresh : db.actors.find? (·.id = db.nextActorId) = none := by
        rw [List.find?_eq_none]
        intro a ha hsame
        have hused : db.nextActorId ∈ db.actors.map (·.id) :=
          of_decide_eq_true hsame ▸ List.mem_map_of_mem ha
        exact nextId_not_mem (hlast.nextActorId_ne_zero hname) hused
      refine ⟨_, .added hplayer hid, ?_⟩
      rw [actorId, hname]
      refine ⟨rfl, ?_⟩
      simp [actorById?, addActor, hfresh]
    · obtain ⟨a, ha⟩ := Option.isSome_iff_exists.1 (actorById?_isSome_of_idNamed? hid)
      obtain rfl := id_eq_of_actorById? ha
      rw [actorId_of_idNamed? hid]
      exact ⟨a, .named hplayer hid ha, rfl, ha⟩
  · obtain ⟨a, ha⟩ := Option.isSome_iff_exists.1 (Option.filter_eq_some_iff.1 hplayer).2
    obtain rfl := id_eq_of_actorById? ha
    rw [playerId_of_player? hplayer]
    exact ⟨a, .kept hplayer ha, rfl, ha⟩

/-- Where the player is marked if it is set, whoever becomes the player is marked, unless it is an
actor of the name that is not. -/
theorem Designates.isPlayer_iff {a : Actor} (h : db.Designates fallback a)
    (hmarked : ∀ id a, db.player? = some id → db.actorById? id = some a → a.isPlayer = true) :
    a.isPlayer = true ↔ ∀ id a', db.player? = none → db.idNamed? fallback = some id →
      db.actorById? id = some a' → a'.isPlayer = true := by
  cases h with
  | kept hplayer ha =>
    refine iff_of_true (hmarked _ _ hplayer ha) fun _ _ hnone => ?_
    rw [hplayer] at hnone
    cases hnone
  | named hnone hid ha =>
    constructor
    · intro hp id' a' _ hid' ha'
      rw [hid] at hid'
      cases hid'
      rw [ha] at ha'
      cases ha'
      exact hp
    · intro h
      exact h _ _ hnone hid ha
  | added hnone hid =>
    refine iff_of_true rfl fun _ _ _ hid' => ?_
    rw [hid] at hid'
    cases hid'

/-! ## The same player -/

theorem SamePlayer.refl (db : Database) : SamePlayer db db := ⟨rfl, rfl⟩

theorem SamePlayer.trans (h : SamePlayer db db') (h' : SamePlayer db' db'') : SamePlayer db db'' :=
  ⟨h'.player.trans h.player, h'.marked.trans h.marked⟩

/-- Whoever is named is not marked. -/
theorem samePlayer_actorId (db : Database) (name : String) :
    db.SamePlayer (db.actorId name false).2 := by
  unfold actorId
  split
  · exact .refl db
  · exact ⟨rfl, by simp [addActor]⟩

theorem samePlayer_enroll (db : Database) (names : List String) :
    db.SamePlayer (db.enroll names) := by
  induction names generalizing db with
  | nil => exact .refl db
  | cons name names ih => exact (db.samePlayer_actorId name).trans (ih _)

/-- Where there is a player nobody becomes one. -/
theorem samePlayer_staff (h : db.player? = some id) (fallback : String) (names : List String) :
    db.SamePlayer (db.staff fallback names) := by
  rw [staff, playerId_of_player? h]
  exact db.samePlayer_enroll names

end Database

namespace Batch

variable {b b' : Batch} {id : ActorId}

/-- A step over a database with a player leaves the player and the marks as they are. -/
theorem Step.samePlayer (h : Step b b') (hplayer : b.db.player? = some id) :
    b.db.SamePlayer b'.db := by
  cases h with
  | source s =>
    rcases hs : s.outline? with _ | o
    · rw [importSource_of_none hs]
      exact .refl _
    · obtain ⟨c, -, -, hdb, -⟩ := exists_install (b := b) hs
      have hstaff := Database.samePlayer_staff hplayer b.options.playerName o.names
      rw [hdb]
      exact ⟨hstaff.player, hstaff.marked⟩
  | finish options =>
    obtain ⟨cs, hcs, -⟩ := b.db.exists_writeLinks (resolve b.db b.pending).links
    show b.db.SamePlayer b.finish.2
    rw [Batch.finish, hcs]
    exact ⟨rfl, rfl⟩
  | leave options => exact .refl _

theorem Reaches.samePlayer (h : Reaches b b') (hplayer : b.db.player? = some id) :
    b.db.SamePlayer b'.db := by
  induction h with
  | refl => exact .refl _
  | tail hfirst hstep ih =>
    exact ih.trans (hstep.samePlayer (Reaches.continues hfirst |>.player? hplayer))

end Batch

/-! ## One import and all after it -/

/-- The entry of a piece that names nobody is the player's. -/
theorem Piece.actor_eq_player {N : Naming} {p : Piece} (h : contentNames p.content = []) :
    p.actor N = N.player := by
  unfold Piece.actor
  split
  · next hcontent =>
    rw [hcontent] at h
    cases h
  all_goals rfl

/-- A source that gives a conversation leaves a player who is an actor. If the player that was set
was marked, so is this one, unless nobody was set and the actor of the name that stands in was not
marked. `START` is the player's, and so is the entry of every node that names nobody. Whatever is
imported later, and with whatever options, the player stays and nobody else is marked. The ids of
actors must not run out while the source is imported. -/
theorem importSource_player {b : Batch} {s : Source} {nodes : Forest} (hs : s.forest? = some nodes)
    (hlast : b.db.ActorIdsLast (b.importSource s).2.db)
    (hmarked : ∀ id a, b.db.player? = some id → b.db.actorById? id = some a → a.isPlayer = true) :
    ∃ (a : Actor) (c : Conversation),
      (b.importSource s).1 = some c.id ∧
      (b.importSource s).2.db.conversations =
        b.db.conversations.filter (·.title ≠ c.title) ++ [c] ∧
      (b.importSource s).2.db.player = some a.id ∧
      (b.importSource s).2.db.actorById? a.id = some a ∧
      (a.isPlayer = true ↔ ∀ id a', b.db.player? = none →
        b.db.idNamed? b.options.playerName = some id → b.db.actorById? id = some a' →
          a'.isPlayer = true) ∧
      c.entries.map (·.id) = startId :: (nodes.filter (!·.kind.isHeader)).map (·.id) ∧
      (∃ e, c.start? = some e ∧ e.actor = a.id) ∧
      (∀ n ∈ nodes, ∀ content fields, n.kind = .entry content fields →
        contentNames content = [] → ∃ e, c.entryById? n.id = some e ∧ e.actor = a.id) ∧
      ∀ b', Batch.Reaches (b.importSource s).2 b' →
        b'.db.player = some a.id ∧
          b'.db.actors.filter (·.isPlayer) =
            (b.importSource s).2.db.actors.filter (·.isPlayer) := by
  have hgrown := Source.grown_of_forest? hs
  obtain ⟨o, ho⟩ := hgrown.exists_outline?
  have hsound := hgrown.sound ho
  obtain ⟨N, hid, hplayer, hnames⟩ := b.db.exists_naming b.options.playerName o
  rw [Batch.importSource_eq (Source.outline?_eq_some_iff.2 ⟨nodes, hs, ho⟩) hid hplayer hnames]
    at hlast ⊢
  obtain ⟨a, hdesignates, haid, ha⟩ :=
    Database.exists_designates (hlast.first (Database.actors_enroll _ o.names))
  have hN : N.player = a.id := hplayer.symm.trans haid
  have hafter : (b.accept N s o).db.player? = some a.id := by
    rw [← haid]
    exact Database.player?_install _ _ _ _
  have hset : (b.accept N s o).db.player = some a.id := (Option.filter_eq_some_iff.1 hafter).1
  refine ⟨a, N.conversation b.options.startSequence o, rfl, Database.conversations_install _ _ _ _,
    hset, ?_, hdesignates.isPlayer_iff hmarked, ?_, ⟨_, rfl, hN⟩, ?_, ?_⟩
  · exact Database.actorById?_of_actors (Database.actors_enroll _ o.names) ha
  · rw [Naming.ids_conversation, ← Forest.map_entryIds ho]
  · intro n hn content fields hk hnobody
    obtain ⟨p, hp, hpid, -, rfl, -⟩ := Forest.exists_piece_of_mem ho hn hk
    refine ⟨_, hpid ▸ Naming.entryById?_of_mem hsound hp _, ?_⟩
    exact (Piece.actor_eq_player hnobody).trans hN
  · intro b' hreaches
    have hsame := hreaches.samePlayer hafter
    exact ⟨hsame.player.trans hset, hsame.marked⟩

/-- A script in which only the player speaks. -/
def replyScript : Source := ⟨none, "title: Gate\nI go. ->"⟩

/-- The player that is set says the reply. -/
theorem importSource_player_gateDatabase :
    (∀ id a, gateDatabase.player? = some id → gateDatabase.actorById? id = some a →
      a.isPlayer = true) ∧
      ∃ nodes, replyScript.forest? = some nodes ∧ ∃ (a : Actor) (c : Conversation),
        ((Batch.start gateDatabase .standard).importSource replyScript).2.db.player = some a.id ∧
          (∃ e, c.start? = some e ∧ e.actor = a.id) ∧
          ∀ n ∈ nodes, ∀ content fields, n.kind = .entry content fields →
            contentNames content = [] → ∃ e, c.entryById? n.id = some e ∧ e.actor = a.id := by
  have hmarked : ∀ id a, gateDatabase.player? = some id → gateDatabase.actorById? id = some a →
      a.isPlayer = true := by
    intro id a hid ha
    have hthree : gateDatabase.player? = some 3 := by decide
    have hfound : gateDatabase.actorById? 3 = some ⟨3, "Alice", true⟩ := by decide
    rw [hthree] at hid
    cases hid
    rw [hfound] at ha
    cases ha
    rfl
  have hread : replyScript.forest?.isSome = true := by decide +kernel
  obtain ⟨nodes, hforest⟩ := Option.isSome_iff_exists.1 hread
  obtain ⟨a, c, -, -, hplayer, -, -, -, hstart, hnodes, -⟩ :=
    importSource_player (b := .start gateDatabase .standard) hforest
      (.of_ne_zero (by decide +kernel)) hmarked
  exact ⟨hmarked, nodes, hforest, a, c, hplayer, hstart, hnodes⟩

/-- An actor with the name of the player, who is not marked, and nobody who is the player. -/
def unmarkedDatabase : Database := ⟨none, [⟨1, "Player", false⟩], []⟩

/-- An actor who is there becomes the player without the mark. -/
theorem importSource_player_unmarked :
    ¬ ∀ (b : Batch) (s : Source), s.forest?.isSome →
      (∀ id a, b.db.player? = some id → b.db.actorById? id = some a → a.isPlayer = true) →
        ∃ a : Actor, (b.importSource s).2.db.player = some a.id ∧
          (b.importSource s).2.db.actorById? a.id = some a ∧ a.isPlayer = true := by
  intro h
  have hread : replyScript.forest?.isSome = true := by decide +kernel
  have hnone : unmarkedDatabase.player? = none := by decide
  have hafter : let db := ((Batch.start unmarkedDatabase .standard).importSource replyScript).2.db
      db.player = some 1 ∧ db.actorById? 1 = some ⟨1, "Player", false⟩ := by decide +kernel
  obtain ⟨a, hplayer, ha, hmark⟩ := h (.start unmarkedDatabase .standard) replyScript hread
    fun id a hid => by
      rw [Batch.start, hnone] at hid
      cases hid
  rw [hafter.1] at hplayer
  rw [← Option.some.inj hplayer, hafter.2] at ha
  cases ha
  cases hmark

end Dialogue
