import Dialogue.Proofs.Batch.Casting
import Dialogue.Proofs.Script.Speakers

/-!
# Whom a batch adds

After a batch there are the actors that were there, everybody whom a source names that gives a
conversation, and the player if there was none (`mem_names_importSources`). Since the names are those
of the elements as they stand (`Source.names_outline?`), an actor without a name comes from a line
that nobody speaks and from nothing else (`importSources_named`).
-/

namespace Dialogue

open Script Text

namespace Database

variable {db : Database} {n : String}

/-- The names of all actors. -/
def names (db : Database) : List String := db.actors.map (·.name)

/-- A name that goes with an id is an actor's. -/
theorem mem_names_of_actorNamed? {a : Actor} (h : db.actorNamed? n = some a) : n ∈ db.names := by
  have hname : a.name = n := by simpa using List.find?_some h
  exact hname ▸ List.mem_map_of_mem (List.mem_of_find?_eq_some h)

/-- A name that is asked for is there afterwards, and no other is new. -/
theorem mem_names_actorId {name : String} {isPlayer : Bool} :
    n ∈ (db.actorId name isPlayer).2.names ↔ n ∈ db.names ∨ n = name := by
  unfold actorId
  split
  · next a ha =>
    have hthere := mem_names_of_actorNamed? ha
    refine ⟨.inl, ?_⟩
    rintro (h | rfl)
    · exact h
    · exact hthere
  · simp [names, addActor]

theorem mem_names_enroll {names : List String} :
    n ∈ (db.enroll names).names ↔ n ∈ db.names ∨ n ∈ names := by
  induction names generalizing db with
  | nil => simp
  | cons name names ih => rw [enroll_cons, ih, mem_names_actorId, List.mem_cons, or_assoc]

theorem mem_names_playerId {fallback : String} :
    n ∈ (db.playerId fallback).2.names ↔
      n ∈ db.names ∨ db.player? = none ∧ n = fallback := by
  rcases h : db.player? with _ | id
  · rw [playerId_of_player?_eq_none h]
    simp only [true_and]
    exact mem_names_actorId
  · rw [playerId_of_player? h]
    simp

theorem mem_names_staff {fallback : String} {names : List String} :
    n ∈ (db.staff fallback names).names ↔
      n ∈ db.names ∨ db.player? = none ∧ n = fallback ∨ n ∈ names := by
  rw [staff, mem_names_enroll, mem_names_playerId, or_assoc]

/-- Once somebody has been asked for a player there is one. -/
theorem mem_names_staffAll {fallback : String} {os : List Outline} :
    n ∈ (db.staffAll fallback os).names ↔
      n ∈ db.names ∨ (∃ o ∈ os, n ∈ o.names) ∨ os ≠ [] ∧ db.player? = none ∧ n = fallback := by
  induction os generalizing db with
  | nil => simp [staffAll]
  | cons o os ih =>
    have hplayer : (db.staff fallback o.names).player? ≠ none := by
      rw [player?_staff]
      exact Option.some_ne_none _
    rw [staffAll, List.foldl_cons, ← staffAll, ih, mem_names_staff]
    simp only [hplayer, List.mem_cons, or_and_right, exists_or, exists_eq_left, ne_eq,
      List.cons_ne_nil, not_false_eq_true, false_and, and_false, or_false, true_and, or_assoc]
    rw [or_left_comm (a := db.player? = none ∧ n = fallback), or_comm (a := db.player? = none ∧ _)]

end Database

/-! ## Names of a source -/

/-- Whom a node names. -/
def Script.NodeKind.names : NodeKind → List String
  | .conversant name => [name]
  | .entry content _ => contentNames content
  | .title _ => []

theorem Script.ElementKind.names_content (content : Content) :
    (ElementKind.content content).names = contentNames content := by
  cases content <;> rfl

/-- An element names in its node whom it names itself. -/
theorem Script.Growth.names_step (g : Growth) (e : Element) :
    (g.step e).nodes.flatMap (·.kind.names) = g.nodes.flatMap (·.kind.names) ++ e.kind.names := by
  unfold Growth.step
  split
  · next hk => simp [hk, ElementKind.names]
  · next hk => simp [hk, ElementKind.names]
  · next hk => simp [hk, Forest.grow, NodeKind.names, ElementKind.names]
  · next hk => simp [hk, Forest.grow, NodeKind.names, ElementKind.names_content]

theorem Script.Growth.names_foldl_step (g : Growth) (elements : List Element) :
    (elements.foldl Growth.step g).nodes.flatMap (·.kind.names) =
      g.nodes.flatMap (·.kind.names) ++ elements.flatMap (·.kind.names) := by
  induction elements generalizing g with
  | nil => simp
  | cons e elements ih =>
    rw [List.foldl_cons, ih, Growth.names_step, List.append_assoc, List.flatMap_cons]

/-- An outline has the names of its nodes. -/
theorem Outline.names_foldl_add (o : Outline) (nodes : Forest) :
    (nodes.foldl Outline.add o).names = o.names ++ nodes.flatMap (·.kind.names) := by
  induction nodes generalizing o with
  | nil => simp
  | cons n nodes ih =>
    have hadd : (o.add n).names = o.names ++ n.kind.names := by
      unfold Outline.add
      split
      · next hk => simp [hk, NodeKind.names]
      · next hk => simp [hk, NodeKind.names]
      · next hk => simp [hk, NodeKind.names]
    rw [List.foldl_cons, ih, hadd, List.append_assoc, List.flatMap_cons]

/-- The outline of a source names whom its elements name, in order. -/
theorem Source.names_outline? {s : Source} {o : Outline} (h : s.outline? = some o) :
    o.names = (elementsOf (lex s.text)).flatMap (·.kind.names) := by
  obtain ⟨nodes, hforest, ho⟩ := outline?_eq_some_iff.1 h
  obtain ⟨line, depth, text, rest, helements, rfl⟩ :=
    exists_of_buildForest (forest?_eq_some_iff.1 hforest)
  have hnodes := Growth.names_foldl_step (.start line depth text) rest
  unfold Forest.outline? at ho
  split at ho
  · next hfirst =>
    cases ho
    rw [hfirst] at hnodes
    rw [Outline.names_foldl_add, helements]
    simpa [Growth.start, NodeKind.names, ElementKind.names, Outline.blank] using hnodes
  · cases ho

/-! ## A batch -/

/-- A source changes the actors as its outline asks, and else nothing but conversations. -/
theorem Batch.exists_db_importSource (b : Batch) (s : Source) :
    ∃ cs, (b.importSource s).2.db =
      { b.db.staffAll b.options.playerName (outlines [s]) with conversations := cs } := by
  rcases h : s.outline? with _ | o
  · rw [importSource_of_none h, outlines_cons_of_none h]
    exact ⟨b.db.conversations, rfl⟩
  · obtain ⟨c, -, -, hdb, -⟩ := exists_install (b := b) h
    rw [hdb, outlines_cons_of_some h]
    exact ⟨_, rfl⟩

/-- A run changes the actors as its outlines ask, and else nothing but conversations. -/
theorem Batch.exists_db_importSources (b : Batch) (sources : List Source) :
    ∃ cs, (b.importSources sources).db =
      { b.db.staffAll b.options.playerName (outlines sources) with conversations := cs } := by
  induction sources using List.reverseRecOn with
  | nil => exact ⟨b.db.conversations, rfl⟩
  | append_singleton sources s ih =>
    obtain ⟨cs, hcs⟩ := ih
    obtain ⟨cs', hcs'⟩ := (b.importSources sources).exists_db_importSource s
    rw [hcs, options_importSources, Database.staffAll_withConversations,
      ← Database.staffAll_append, ← outlines_append] at hcs'
    exact ⟨cs', by rw [importSources_append_singleton, hcs']⟩

/-- A batch adds the actors that its outlines ask for. -/
theorem actors_importSources (db : Database) (sources : List Source) (options : ImportOptions) :
    (importSources db sources options).2.actors =
      (db.staffAll options.playerName (outlines sources)).actors := by
  obtain ⟨b, hb⟩ : ∃ b, b = (Batch.start db options).importSources sources := ⟨_, rfl⟩
  obtain ⟨cs, hcs⟩ := (Batch.start db options).exists_db_importSources sources
  obtain ⟨cs', hcs', -⟩ := b.db.exists_writeLinks (resolve b.db b.pending).links
  have hfinish : (importSources db sources options).2 = b.finish.2 := by rw [hb]; rfl
  rw [hfinish, Batch.finish, hcs', hb, hcs]
  rfl

/-- Who is there after a batch: whoever was there, whom a source names that gives a conversation,
and the player if there was none and a source gives a conversation. -/
theorem mem_names_importSources {db : Database} {sources : List Source} {options : ImportOptions}
    {name : String} :
    name ∈ (importSources db sources options).2.names ↔
      name ∈ db.names ∨
        (∃ s ∈ sources, s.forest?.isSome ∧ ∃ e ∈ elementsOf (lex s.text), name ∈ e.kind.names) ∨
        (∃ s ∈ sources, s.forest?.isSome) ∧ db.player? = none ∧ name = options.playerName := by
  have hsome : ∀ s : Source, s.forest?.isSome ↔ ∃ o, s.outline? = some o := by
    intro s
    constructor
    · intro hforest
      obtain ⟨nodes, hnodes⟩ := Option.isSome_iff_exists.1 hforest
      obtain ⟨o, ho⟩ := (Source.grown_of_forest? hnodes).exists_outline?
      exact ⟨o, Source.outline?_eq_some_iff.2 ⟨nodes, hnodes, ho⟩⟩
    · rintro ⟨o, ho⟩
      obtain ⟨nodes, hnodes, -⟩ := Source.outline?_eq_some_iff.1 ho
      rw [hnodes]
      rfl
  have hnames : (∃ o ∈ outlines sources, name ∈ o.names) ↔
      ∃ s ∈ sources, s.forest?.isSome ∧ ∃ e ∈ elementsOf (lex s.text), name ∈ e.kind.names := by
    constructor
    · rintro ⟨o, ho, hname⟩
      obtain ⟨s, hs, hout⟩ := List.mem_filterMap.1 ho
      rw [Source.names_outline? hout, List.mem_flatMap] at hname
      exact ⟨s, hs, (hsome s).2 ⟨o, hout⟩, hname⟩
    · rintro ⟨s, hs, hforest, hname⟩
      obtain ⟨o, hout⟩ := (hsome s).1 hforest
      refine ⟨o, List.mem_filterMap.2 ⟨s, hs, hout⟩, ?_⟩
      rwa [Source.names_outline? hout, List.mem_flatMap]
  have hne : outlines sources ≠ [] ↔ ∃ s ∈ sources, s.forest?.isSome := by
    rw [outlines, Ne, List.filterMap_eq_nil_iff]
    simp only [hsome, ← Option.isSome_iff_exists, Option.isSome_iff_ne_none, not_forall,
      exists_prop]
  rw [Database.names, actors_importSources, ← Database.names, Database.mem_names_staffAll, hnames,
    hne]

/-- A batch over actors with names leaves actors with names exactly if no source that gives a
conversation has an element on a row that names nobody. Header lines have their values, and the
speaker of a line is missing on such a row and nowhere else. -/
theorem importSources_named {db : Database} {options : ImportOptions}
    (hdb : ∀ a ∈ db.actors, isAllBlank a.name.toList = false)
    (hplayer : isAllBlank options.playerName.toList = false) (sources : List Source) :
    ((∀ a ∈ (importSources db sources options).2.actors, isAllBlank a.name.toList = false) ↔
      ∀ s ∈ sources, s.forest?.isSome → ∀ e ∈ elementsOf (lex s.text), ∀ row,
        e.row? s.text = some row → ¬ NamesNobody row) ∧
    ∀ s ∈ sources, ∀ e ∈ elementsOf (lex s.text), e.kind.Filled ∧
      ∀ actor said, e.kind = .content (.speak actor said) →
        (actor = "" ↔ ∃ row, e.row? s.text = some row ∧ NamesNobody row) := by
  have hnames : ∀ db : Database, (∀ a ∈ db.actors, isAllBlank a.name.toList = false) ↔
      ∀ name ∈ db.names, isAllBlank name.toList = false := by
    intro db
    rw [Database.names, List.forall_mem_map]
  rw [hnames] at hdb
  refine ⟨?_, fun s _ e he => ⟨filled_of_mem_elementsOf he, fun _ _ => speaker_eq_empty_iff he⟩⟩
  rw [hnames]
  constructor
  · intro hnamed s hs hforest e he row hrow hnobody
    obtain ⟨said, hspeak⟩ := exists_speak_of_row? he hrow hnobody
    have hname : "" ∈ e.kind.names := by
      rw [hspeak]
      exact List.mem_singleton.2 rfl
    have hfinal := hnamed "" (mem_names_importSources.2 (.inr (.inl ⟨s, hs, hforest, e, he, hname⟩)))
    cases hfinal
  · intro hrows name hname
    obtain hold | ⟨s, hs, hforest, e, he, hin⟩ | ⟨-, -, rfl⟩ := mem_names_importSources.1 hname
    · exact hdb name hold
    · by_contra hblank
      rw [Bool.not_eq_false] at hblank
      obtain ⟨row, hrow, hnobody⟩ := exists_row_of_mem_names he hin hblank
      exact hrows s hs hforest e he row hrow hnobody
    · exact hplayer

/-- Over two actors with names. -/
theorem importSources_named_gateDatabase :
    (∀ a ∈ gateDatabase.actors, isAllBlank a.name.toList = false) ∧
      isAllBlank ImportOptions.standard.playerName.toList = false ∧
      ((∀ a ∈ (importSources gateDatabase linkedScripts .standard).2.actors,
          isAllBlank a.name.toList = false) ↔
        ∀ s ∈ linkedScripts, s.forest?.isSome → ∀ e ∈ elementsOf (lex s.text), ∀ row,
          e.row? s.text = some row → ¬ NamesNobody row) := by
  have hdb : ∀ a ∈ gateDatabase.actors, isAllBlank a.name.toList = false := by decide
  have hplayer : isAllBlank ImportOptions.standard.playerName.toList = false := by decide
  exact ⟨hdb, hplayer, (importSources_named hdb hplayer linkedScripts).1⟩

/-- A line that is set in and starts with a colon. -/
def unnamedScript : Source := ⟨none, "title: Hall\n : Who goes there?"⟩

/-- Actors with names and a player with a name are not enough: a line that nobody speaks adds an
actor without a name. -/
theorem importSources_nameless :
    ¬ ∀ (db : Database) (options : ImportOptions) (sources : List Source),
      (∀ a ∈ db.actors, isAllBlank a.name.toList = false) →
        isAllBlank options.playerName.toList = false →
          ∀ a ∈ (importSources db sources options).2.actors, isAllBlank a.name.toList = false := by
  intro h
  have hadded : ⟨2, "", false⟩ ∈ (importSources .empty [unnamedScript] .standard).2.actors := by
    decide +kernel
  have hnamed := h .empty .standard [unnamedScript] (List.forall_mem_nil _) (by decide) _ hadded
  cases hnamed

end Dialogue
