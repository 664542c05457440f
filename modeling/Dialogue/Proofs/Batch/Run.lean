import Mathlib.Data.List.Induction
import Dialogue.Proofs.Batch.Step

/-!
# What a run of sources does to a batch

`Naming.Wrote` says what a batch holds after a run: the conversations that the database had under
other titles, then those of the outlines that survive; the queues of those; and what was remarked on
the way. One source keeps it (`Naming.Wrote.refuse`, `Naming.Wrote.accept`), so every run has it
(`Naming.Wrote.of_importSources`), for any ids that fit the database at the end of the run. The
database itself gives out such ids (`naming_fits_importSources`).
-/

namespace Dialogue

variable {os : List Outline} {o : Outline}

/-! ## All the people of a run -/

namespace Database

/-- The database with a player, if there are outlines, and with an actor for everybody whom they
name. -/
def staffAll (db : Database) (fallback : String) (os : List Outline) : Database :=
  os.foldl (fun db o => db.staff fallback o.names) db

variable {db : Database} {fallback : String}

theorem staffAll_append (db : Database) (fallback : String) (os os' : List Outline) :
    db.staffAll fallback (os ++ os') = (db.staffAll fallback os).staffAll fallback os' :=
  List.foldl_append

theorem staffAll_append_singleton (db : Database) (fallback : String) (os : List Outline)
    (o : Outline) :
    db.staffAll fallback (os ++ [o]) = (db.staffAll fallback os).staff fallback o.names :=
  staffAll_append db fallback os [o]

theorem actors_staffAll (db : Database) (fallback : String) (os : List Outline) :
    db.actors <+: (db.staffAll fallback os).actors := by
  induction os using List.reverseRecOn with
  | nil => exact List.prefix_refl _
  | append_singleton os o ih =>
      rw [staffAll_append_singleton]
      exact ih.trans (actors_staff _ fallback o.names)

theorem nodup_staffAll (h : (db.actors.map (·.id)).Nodup)
    (hlast : db.ActorIdsLast (db.staffAll fallback os)) :
    ((db.staffAll fallback os).actors.map (·.id)).Nodup := by
  induction os using List.reverseRecOn with
  | nil => exact h
  | append_singleton os o ih =>
      rw [staffAll_append_singleton] at hlast ⊢
      exact nodup_staff (ih (hlast.first (actors_staff _ fallback o.names)))
        (hlast.rest (actors_staffAll db fallback os))

/-- People are looked up and added without a look at the conversations. -/
theorem staff_withConversations (db : Database) (cs : List Conversation) (fallback : String)
    (names : List String) :
    ({ db with conversations := cs } : Database).staff fallback names =
      { db.staff fallback names with conversations := cs } := by
  rw [staff, playerId_withConversations, enroll_withConversations, ← staff]

theorem staffAll_withConversations (db : Database) (cs : List Conversation) (fallback : String)
    (os : List Outline) :
    ({ db with conversations := cs } : Database).staffAll fallback os =
      { db.staffAll fallback os with conversations := cs } := by
  induction os using List.reverseRecOn with
  | nil => rfl
  | append_singleton os o ih =>
      rw [staffAll_append_singleton, staffAll_append_singleton, ih, staff_withConversations]

/-- Installing a conversation after others have been. -/
theorem install_withConversations (db : Database) (cs : List Conversation) (fallback : String)
    (o : Outline) (c : Conversation) :
    ({ db with conversations := cs } : Database).install fallback o c =
      { db.staff fallback o.names with conversations := cs.filter (·.title ≠ o.title) ++ [c] } := by
  rw [install, staff_withConversations]
  rfl

/-- The player after outlines is the one before, or else the actor of the name that stands in. -/
theorem player?_staffAll (db : Database) (fallback : String) (h : os ≠ []) :
    ∃ id, (db.staffAll fallback os).player? = some id ∧
      (db.player? = some id ∨
        db.player? = none ∧ (db.staffAll fallback os).idNamed? fallback = some id) := by
  induction os using List.reverseRecOn with
  | nil => exact absurd rfl h
  | append_singleton os o ih =>
      rw [staffAll_append_singleton]
      refine ⟨_, player?_staff _ fallback o.names, ?_⟩
      rcases hos : os with _ | ⟨first, rest⟩
      · exact player?_or_idNamed?_staff db fallback o.names
      · obtain ⟨id, hid, hfrom⟩ := ih (by simp [hos])
        rw [hos] at hid hfrom
        rw [playerId_of_player? hid]
        refine hfrom.imp_right fun ⟨hnone, hnamed⟩ => ⟨hnone, ?_⟩
        exact idNamed?_of_actors (actors_staff _ fallback o.names) hnamed

end Database

/-! ## What a batch holds -/

/-- What is remarked on sources, one after another, when the conversations of these outlines have
been installed before them. -/
def Naming.remarks (N : Naming) : List Outline → List Source → List Diagnostic
  | _, [] => []
  | seen, s :: sources =>
    match s.outline? with
    | none => s.remarks ++ N.remarks seen sources
    | some o =>
      s.remarks ++
        ((((survivors seen).filter (·.title = o.title)).flatMap N.queue).map
          PendingLink.stale).map (·.inFile s.file) ++
        N.remarks (seen ++ [o]) sources

/-- What is remarked on one more source. -/
theorem Naming.remarks_append_singleton (N : Naming) (seen : List Outline) (sources : List Source)
    (s : Source) :
    N.remarks seen (sources ++ [s]) =
      N.remarks seen sources ++ N.remarks (seen ++ outlines sources) [s] := by
  induction sources generalizing seen with
  | nil => simp [remarks]
  | cons first sources ih =>
      rw [List.cons_append, remarks, remarks]
      rcases h : first.outline? with _ | o
      · simp [ih, outlines, h]
      · simp [ih, outlines, h]

/-- What a batch over this database holds after sources, where the ids are those of the naming. -/
structure Naming.Wrote (N : Naming) (db : Database) (options : ImportOptions)
    (sources : List Source) (b : Batch) : Prop where
  db : b.db =
    { db.staffAll options.playerName (outlines sources) with
      conversations :=
        db.conversations.filter (·.title ∉ (outlines sources).map Outline.title) ++
          (survivors (outlines sources)).map (N.conversation options.startSequence) }
  pending : b.pending = (survivors (outlines sources)).flatMap N.queue
  diagnostics : b.diagnostics = N.remarks [] sources
  imported : b.imported.map Imported.title = (outlines sources).map Outline.title
  options : b.options = options

/-! ## One source more -/

namespace Naming.Wrote

variable {N : Naming} {db : Database} {options : ImportOptions} {sources : List Source} {b : Batch}

theorem start (N : Naming) (db : Database) (options : ImportOptions) :
    N.Wrote db options [] (.start db options) where
  db := by simp [Batch.start, Database.staffAll, survivors]
  pending := rfl
  diagnostics := rfl
  imported := rfl
  options := rfl

/-- A source that is refused keeps it. -/
theorem refuse (h : N.Wrote db options sources b) {s : Source} (hs : s.outline? = none) :
    N.Wrote db options (sources ++ [s]) (b.refuse s) := by
  have hout : outlines (sources ++ [s]) = outlines sources := by
    simp [outlines, hs]
  constructor
  case db => rw [hout]; exact h.db
  case pending => rw [hout]; exact h.pending
  case diagnostics =>
    rw [Naming.remarks_append_singleton, ← h.diagnostics, Naming.remarks, hs]
    simp [Batch.refuse, Naming.remarks]
  case imported => rw [hout]; exact h.imported
  case options => exact h.options

/-- Which waiting links a conversation drops that is installed: those of the outline of its title,
where conversations have distinct ids. -/
theorem dropsLink_queue (hnodup : (b.db.conversations.map (·.id)).Nodup) {o o' : Outline}
    (ho' : N.Fits b.db o') {p : PendingLink} (hp : p ∈ N.queue o') :
    b.db.dropsLink o.title p = decide (o'.title = o.title) := by
  obtain ⟨w, -, rfl⟩ := List.mem_map.1 hp
  rw [Database.dropsLink, decide_eq_decide]
  constructor
  · intro hid
    exact Database.title_eq_of_idTitled? hnodup ho'.title hid
  · intro ht
    rw [← ht]
    exact ho'.title

/-- One more outline drops the conversations of its title from those that were kept so far. -/
theorem kept_append_singleton (conversations : List Conversation) (os : List Outline)
    (o : Outline) :
    conversations.filter (·.title ∉ (os ++ [o]).map Outline.title) =
      (conversations.filter (·.title ∉ os.map Outline.title)).filter (·.title ≠ o.title) := by
  rw [List.filter_filter]
  congr 1
  funext c
  simp only [List.map_append, List.mem_append, List.map_singleton, List.mem_singleton, not_or,
    Bool.decide_and, Bool.and_comm]

/-- A source that is not refused keeps it. -/
theorem accept (h : N.Wrote db options sources b)
    (hnodup : (b.db.conversations.map (·.id)).Nodup)
    (hfits : ∀ o ∈ outlines sources, N.Fits b.db o) {s : Source} {o : Outline}
    (hs : s.outline? = some o) : N.Wrote db options (sources ++ [s]) (b.accept N s o) := by
  have hout : outlines (sources ++ [s]) = outlines sources ++ [o] := by
    simp [outlines, hs]
  have hdrops : ∀ o' ∈ survivors (outlines sources), ∀ p ∈ N.queue o',
      b.db.dropsLink o.title p = decide (o'.title = o.title) := fun o' ho' p hp =>
    dropsLink_queue hnodup (hfits o' (mem_of_mem_survivors ho')) hp
  constructor
  case db =>
    rw [Batch.accept, h.db, h.options, Database.install_withConversations, hout,
      kept_append_singleton, survivors_append_singleton, Database.staffAll_append_singleton,
      List.filter_append, List.filter_map, List.map_append, List.append_assoc]
    rfl
  case pending =>
    have hkept : b.pending.filter (!b.db.dropsLink o.title ·) =
        ((survivors (outlines sources)).filter (·.title ≠ o.title)).flatMap N.queue := by
      rw [h.pending]
      refine filter_flatMap_eq fun o' ho' p hp => ?_
      rw [hdrops o' ho' p hp, decide_not]
    rw [hout, survivors_append_singleton, List.flatMap_append, List.flatMap_singleton, ← hkept]
    rfl
  case diagnostics =>
    rw [Naming.remarks_append_singleton, ← h.diagnostics, Naming.remarks, hs, Batch.accept,
      h.pending, filter_flatMap_eq hdrops]
    simp [Naming.remarks]
  case imported =>
    rw [hout, List.map_append, ← h.imported, Batch.accept, List.map_append]
    rfl
  case options => exact h.options

end Naming.Wrote

/-! ## A whole run -/

namespace Batch

variable {b : Batch} {N : Naming}

theorem importSources_append (b : Batch) (sources sources' : List Source) :
    b.importSources (sources ++ sources') = (b.importSources sources).importSources sources' :=
  List.foldl_append

theorem importSources_append_singleton (b : Batch) (sources : List Source) (s : Source) :
    b.importSources (sources ++ [s]) = ((b.importSources sources).importSource s).2 :=
  importSources_append b sources [s]

@[simp] theorem options_importSources (b : Batch) (sources : List Source) :
    (b.importSources sources).options = b.options := by
  induction sources using List.reverseRecOn with
  | nil => rfl
  | append_singleton sources s ih =>
      rw [importSources_append_singleton, options_importSource, ih]

/-- A run is a continuation. -/
theorem continues_importSources (b : Batch) (sources : List Source) :
    b.db.Continues (b.importSources sources).db := by
  induction sources using List.reverseRecOn with
  | nil => exact .refl _
  | append_singleton sources s ih =>
      rw [importSources_append_singleton]
      exact ih.trans continues_importSource

/-- Conversations keep distinct ids, as long as these last. -/
theorem nodup_importSources (hb : (b.db.conversations.map (·.id)).Nodup) {sources : List Source}
    (hlast : b.db.ConversationIdsLast (b.importSources sources).db) :
    ((b.importSources sources).db.conversations.map (·.id)).Nodup := by
  induction sources using List.reverseRecOn with
  | nil => exact hb
  | append_singleton sources s ih =>
      rw [importSources_append_singleton] at hlast ⊢
      exact nodup_importSource (ih (hlast.first continues_importSource))
        (hlast.rest (continues_importSources b sources))

/-- The ids that the database gives out after a run fit the outlines of the run. -/
theorem naming_fits_importSources (b : Batch) {sources : List Source} {o : Outline}
    (ho : o ∈ outlines sources) :
    (b.importSources sources).db.naming.Fits (b.importSources sources).db o := by
  induction sources using List.reverseRecOn with
  | nil => cases ho
  | append_singleton sources s ih =>
      rw [importSources_append_singleton]
      rw [outlines_append] at ho
      rcases List.mem_append.1 ho with ho | ho
      · exact Database.naming_fits ((ih ho).continues continues_importSource)
      · obtain ⟨s', hs', hout⟩ := List.mem_filterMap.1 ho
        rw [List.mem_singleton.1 hs'] at hout
        obtain ⟨-, -, -, -, M, hM⟩ := exists_install (b := b.importSources sources) hout
        exact Database.naming_fits hM

end Batch

/-- A batch is a continuation. -/
theorem Database.continues_importSources (db : Database) (sources : List Source)
    (options : ImportOptions) : db.Continues (importSources db sources options).2 :=
  (Batch.continues_importSources (.start db options) sources).trans (Batch.continues_finish _)

/-- A run writes what it should, with any ids that fit the database at its end, as long as the ids
of conversations last. -/
theorem Naming.Wrote.of_importSources {db : Database} (hdb : (db.conversations.map (·.id)).Nodup)
    {options : ImportOptions} {sources : List Source}
    (hlast : db.ConversationIdsLast ((Batch.start db options).importSources sources).db)
    {N : Naming}
    (hN : ∀ o ∈ outlines sources, N.Fits ((Batch.start db options).importSources sources).db o) :
    N.Wrote db options sources ((Batch.start db options).importSources sources) := by
  induction sources using List.reverseRecOn with
  | nil => exact .start N db options
  | append_singleton sources s ih =>
      rw [Batch.importSources_append_singleton] at hN hlast ⊢
      have hsofar := hlast.first Batch.continues_importSource
      obtain ⟨b, hb⟩ : ∃ b, b = (Batch.start db options).importSources sources := ⟨_, rfl⟩
      have hbefore : ∀ o ∈ outlines sources, N.Fits b.db o := by
        intro o ho
        rw [hb]
        refine Naming.Fits.of_continues (hN o ?_) Batch.continues_importSource
          (Batch.naming_fits_importSources _ ho)
        rw [outlines_append]
        exact List.mem_append_left _ ho
      have hnodup : (b.db.conversations.map (·.id)).Nodup := by
        rw [hb]
        exact Batch.nodup_importSources (b := .start db options) hdb hsofar
      rw [← hb] at ih hN hsofar ⊢
      have hwrote := ih hsofar hbefore
      rcases hs : s.outline? with _ | o
      · rw [Batch.importSource_of_none hs]
        exact hwrote.refuse hs
      · have ho : o ∈ outlines (sources ++ [s]) := by simp [outlines, hs]
        rw [Batch.importSource_of_some hs (hN o ho)]
        exact hwrote.accept hnodup hbefore hs

end Dialogue
