import Dialogue.Proofs.Batch.Run

/-!
# Sources that are refused

A source is refused exactly if its first element is no title, whatever batch it comes to
(`Batch.isSome_importSource`). What is said of a batch apart, a refused source leaves it as it was
(`Batch.SameWork.refuse`), and a source that is not refused does the same to two batches that are
the same apart from that (`Batch.SameWork.accept`). So a run and the run without the refused sources
go side by side, and what is said in them differs by one passage for each refused source (`Told`),
which ends with the reason.
-/

namespace Dialogue

open Script

/-! ## Which sources are refused -/

/-- Whether the first element of the source is a title. -/
def Source.opensWithTitle (s : Source) : Bool :=
  match elementsOf (lex s.text) with
  | ⟨_, _, .title _⟩ :: _ => true
  | _ => false

/-- Whether the diagnostic says that a source gives no conversation. -/
def Diagnostic.isStructureError (d : Diagnostic) : Bool :=
  match d.cause with
  | .malformedSource _ => true
  | _ => false

/-- What is said of a source that is refused: it is all about the file of the source, and it ends
with the reason, which is given once. -/
structure Source.RefusedWith (s : Source) (said : List Diagnostic) : Prop where
  file : ∀ d ∈ said, d.file = s.file
  reason : ∃ before e, said = before ++ [⟨s.file, none, .malformedSource e⟩] ∧
    ∀ d ∈ before, d.isStructureError = false

namespace Source

variable {s : Source}

/-- A source opens with a title exactly if it gives a forest. -/
theorem opensWithTitle_iff_forest? : s.opensWithTitle = true ↔ ∃ nodes, s.forest? = some nodes := by
  have hforest : (Script.parse s.text).forest = (buildForest (elementsOf (lex s.text))).forest :=
    rfl
  unfold opensWithTitle forest?
  rw [hforest]
  rcases elementsOf (lex s.text) with _ | ⟨⟨line, depth, kind⟩, rest⟩
  · simp [buildForest, Except.toOption]
  · cases kind <;> simp [buildForest, Except.toOption]

/-- A source opens with a title exactly if it has an outline. -/
theorem opensWithTitle_iff : s.opensWithTitle = true ↔ ∃ o, s.outline? = some o := by
  rw [opensWithTitle_iff_forest?]
  constructor
  · rintro ⟨nodes, hnodes⟩
    obtain ⟨o, ho⟩ := (grown_of_forest? hnodes).exists_outline?
    exact ⟨o, outline?_eq_some_iff.2 ⟨nodes, hnodes, ho⟩⟩
  · rintro ⟨o, ho⟩
    obtain ⟨nodes, hnodes, -⟩ := outline?_eq_some_iff.1 ho
    exact ⟨nodes, hnodes⟩

/-- Without an outline there is no title in front. -/
theorem opensWithTitle_eq_false (h : s.outline? = none) : s.opensWithTitle = false := by
  rw [Bool.eq_false_iff]
  intro htitle
  obtain ⟨o, ho⟩ := opensWithTitle_iff.1 htitle
  rw [ho] at h
  cases h

/-- All that there is to say about a source on its own is about its file. -/
theorem file_of_mem_remarks {d : Diagnostic} (h : d ∈ s.remarks) : d.file = s.file := by
  obtain ⟨d', -, rfl⟩ := List.mem_map.1 h
  rfl

/-- Where the elements make no forest, nothing is remarked on them but the reason. -/
theorem diagnostics_buildForest {elements : List Element} {e : StructureError}
    (h : (buildForest elements).forest = .error e) : (buildForest elements).diagnostics = [] := by
  unfold buildForest at h ⊢
  split
  · rfl
  · split
    · next hkind => simp [hkind] at h
    · rfl

/-- What there is to say about a source that is refused ends with the reason. -/
theorem refusedWith_remarks (h : s.outline? = none) : s.RefusedWith s.remarks := by
  refine ⟨fun d hd => file_of_mem_remarks hd, ?_⟩
  rcases hparse : (Script.parse s.text).forest with e | nodes
  · have hbuild : (buildForest (elementsOf (lex s.text))).diagnostics = [] :=
      diagnostics_buildForest hparse
    have hlex : (Script.parse s.text).diagnostics =
        (errorsOf (lex s.text)).map LexError.diagnostic := by
      rw [Script.parse, hbuild, List.append_nil]
    refine ⟨(Script.parse s.text).diagnostics.map (·.inFile s.file), e, ?_, ?_⟩
    · rw [remarks, hparse, List.map_append]
      rfl
    · intro d hd
      rw [hlex, List.map_map] at hd
      obtain ⟨error, -, rfl⟩ := List.mem_map.1 hd
      cases error <;> rfl
  · have hforest := forest?_eq_none h
    rw [forest?_eq_some_iff.2 hparse] at hforest
    cases hforest

end Source

namespace Batch

variable {b b' : Batch} {s : Source} {o : Outline}

/-- A source that is not refused is accepted with the same ids by all batches over one database. -/
theorem exists_accept (h : s.outline? = some o) (db : Database) (options : ImportOptions) :
    ∃ N : Naming, ∀ b : Batch, b.db = db → b.options = options →
      b.importSource s = (some (N.idOf o.title), b.accept N s o) := by
  obtain ⟨N, hid, hplayer, hnames⟩ := db.exists_naming options.playerName o
  refine ⟨N, ?_⟩
  rintro b rfl rfl
  exact importSource_eq h hid hplayer hnames

/-- A source gives a conversation exactly if it opens with a title. -/
theorem isSome_importSource (b : Batch) (s : Source) :
    (b.importSource s).1.isSome = s.opensWithTitle := by
  rcases h : s.outline? with _ | o
  · rw [importSource_of_none h, Source.opensWithTitle_eq_false h]
    rfl
  · obtain ⟨N, hN⟩ := exists_accept h b.db b.options
    rw [hN b rfl rfl, Source.opensWithTitle_iff.2 ⟨o, h⟩]
    rfl

/-! ## Two batches side by side -/

/-- The two batches are the same, apart from what was said and what was skipped. -/
structure SameWork (b b' : Batch) : Prop where
  options : b.options = b'.options
  db : b.db = b'.db
  pending : b.pending = b'.pending
  imported : b.imported = b'.imported

theorem SameWork.refl (b : Batch) : b.SameWork b := ⟨rfl, rfl, rfl, rfl⟩

/-- A refused source does nothing. -/
theorem SameWork.refuse (h : b.SameWork b') (s : Source) : (b.refuse s).SameWork b' :=
  ⟨h.options, h.db, h.pending, h.imported⟩

/-- A source that is not refused does the same to both. -/
theorem SameWork.accept (h : b.SameWork b') (N : Naming) (s : Source) (o : Outline) :
    (b.accept N s o).SameWork (b'.accept N s o) := by
  obtain ⟨hoptions, hdb, hpending, himported⟩ := h
  unfold Batch.accept
  rw [hoptions, hdb, hpending, himported]
  exact ⟨rfl, rfl, rfl, rfl⟩

/-- What is said while a source that is not refused is imported. -/
def saidOf (b : Batch) (s : Source) (o : Outline) : List Diagnostic :=
  s.remarks ++
    ((b.pending.filter (b.db.dropsLink o.title)).map PendingLink.stale).map (·.inFile s.file)

theorem diagnostics_accept (b : Batch) (N : Naming) (s : Source) (o : Outline) :
    (b.accept N s o).diagnostics = b.diagnostics ++ b.saidOf s o := by
  rw [saidOf, ← List.append_assoc]
  rfl

theorem SameWork.saidOf_eq (h : b.SameWork b') (s : Source) (o : Outline) :
    b.saidOf s o = b'.saidOf s o := by
  unfold saidOf
  rw [h.db, h.pending]

/-- It is all about the file of the source. -/
theorem file_of_mem_saidOf {d : Diagnostic} (h : d ∈ b.saidOf s o) : d.file = s.file := by
  rcases List.mem_append.1 h with h | h
  · exact Source.file_of_mem_remarks h
  · obtain ⟨d', -, rfl⟩ := List.mem_map.1 h
    rfl

end Batch

/-! ## What is said in two runs -/

/-- What was said in a run of these sources, and what was said in the run without the refused ones.
There is a passage for each source, and the second run lacks those of the refused sources. -/
structure Told (sources : List Source) (passages : List (Source × List Diagnostic))
    (all kept : List Diagnostic) : Prop where
  sources : passages.map Prod.fst = sources
  all : all = passages.flatMap Prod.snd
  kept : kept = (passages.filter (·.1.opensWithTitle)).flatMap Prod.snd
  file : ∀ p ∈ passages, ∀ d ∈ p.2, d.file = p.1.file
  refused : ∀ p ∈ passages, p.1.opensWithTitle = false → p.1.RefusedWith p.2

namespace Told

variable {sources : List Source} {passages : List (Source × List Diagnostic)}
  {all kept said : List Diagnostic} {s : Source}

theorem nil : Told [] [] [] [] := by
  constructor <;> simp

/-- One more source that is refused is told of in the first run only. -/
theorem refuse (h : Told sources passages all kept) (hs : s.opensWithTitle = false)
    (hsaid : s.RefusedWith said) :
    Told (sources ++ [s]) (passages ++ [(s, said)]) (all ++ said) kept where
  sources := by simp [h.sources]
  all := by simp [h.all]
  kept := by simp [h.kept, hs]
  file p hp := by
    rcases List.mem_append.1 hp with hp | hp
    · exact h.file p hp
    · rw [List.mem_singleton.1 hp]
      exact hsaid.file
  refused p hp hrefused := by
    rcases List.mem_append.1 hp with hp | hp
    · exact h.refused p hp hrefused
    · rw [List.mem_singleton.1 hp]
      exact hsaid

/-- One more source that is not refused is told of in both. -/
theorem accept (h : Told sources passages all kept) (hs : s.opensWithTitle = true)
    (hsaid : ∀ d ∈ said, d.file = s.file) :
    Told (sources ++ [s]) (passages ++ [(s, said)]) (all ++ said) (kept ++ said) where
  sources := by simp [h.sources]
  all := by simp [h.all]
  kept := by simp [h.kept, hs]
  file p hp := by
    rcases List.mem_append.1 hp with hp | hp
    · exact h.file p hp
    · rw [List.mem_singleton.1 hp]
      exact hsaid
  refused p hp hrefused := by
    rcases List.mem_append.1 hp with hp | hp
    · exact h.refused p hp hrefused
    · rw [List.mem_singleton.1 hp, hs] at hrefused
      cases hrefused

end Told

/-- A run and the run without the refused sources do the same work, and differ in what is said by
the passages of the refused sources. -/
theorem Batch.sameWork_importSources (db : Database) (options : ImportOptions)
    (sources : List Source) :
    ((Batch.start db options).importSources sources).SameWork
        ((Batch.start db options).importSources (sources.filter Source.opensWithTitle)) ∧
      ∃ passages, Told sources passages
        ((Batch.start db options).importSources sources).diagnostics
        ((Batch.start db options).importSources
          (sources.filter Source.opensWithTitle)).diagnostics := by
  induction sources using List.reverseRecOn with
  | nil => exact ⟨.refl _, [], .nil⟩
  | append_singleton sources s ih =>
      rw [List.filter_append, importSources_append_singleton]
      obtain ⟨b, hb⟩ : ∃ b, b = (Batch.start db options).importSources sources := ⟨_, rfl⟩
      obtain ⟨b', hb'⟩ : ∃ b', b' = (Batch.start db options).importSources
        (sources.filter Source.opensWithTitle) := ⟨_, rfl⟩
      rw [← hb, ← hb'] at ih
      obtain ⟨hwork, passages, htold⟩ := ih
      rcases hs : s.outline? with _ | o
      · have hrefused := Source.opensWithTitle_eq_false hs
        have hfilter : [s].filter Source.opensWithTitle = [] := by simp [hrefused]
        rw [hfilter, List.append_nil, ← hb, ← hb', importSource_of_none hs]
        exact ⟨hwork.refuse s, _, htold.refuse hrefused (Source.refusedWith_remarks hs)⟩
      · have htitle := Source.opensWithTitle_iff.2 ⟨o, hs⟩
        have hfilter : [s].filter Source.opensWithTitle = [s] := by simp [htitle]
        obtain ⟨N, hN⟩ := exists_accept hs b.db b.options
        rw [hfilter, importSources_append_singleton, ← hb, ← hb', hN b rfl rfl,
          hN b' hwork.db.symm hwork.options.symm]
        refine ⟨hwork.accept N s o, passages ++ [(s, b.saidOf s o)], ?_⟩
        rw [diagnostics_accept, diagnostics_accept, ← hwork.saidOf_eq s o]
        exact htold.accept htitle fun d hd => file_of_mem_saidOf hd

/-- Sources that are refused fail alone. Without them a batch gives the same database, imports the
same, leaves the same waiting and writes as many links. Only what is said differs, by one passage
for each of them. A source is refused exactly if the first of its elements is no title. -/
theorem importSources_filter_opensWithTitle (db : Database) (options : ImportOptions)
    (sources : List Source) :
    let kept := sources.filter Source.opensWithTitle
    let report := (importSources db sources options).1
    let report' := (importSources db kept options).1
    (∀ (b : Batch) (s : Source), (b.importSource s).1.isSome = s.opensWithTitle) ∧
      ((Batch.start db options).importSources sources).pending =
        ((Batch.start db options).importSources kept).pending ∧
      (importSources db sources options).2 = (importSources db kept options).2 ∧
      report.imported = report'.imported ∧
      report.linksResolved = report'.linksResolved ∧
      ∃ passages before before' after, Told sources passages before before' ∧
        report.diagnostics = before ++ after ∧ report'.diagnostics = before' ++ after := by
  obtain ⟨hwork, passages, htold⟩ := Batch.sameWork_importSources db options sources
  refine ⟨Batch.isSome_importSource, hwork.pending, ?_, hwork.imported, ?_, passages, _, _, _,
    htold, rfl, ?_⟩
  · unfold importSources Batch.finish
    rw [hwork.db, hwork.pending]
  · unfold importSources Batch.finish
    rw [hwork.db, hwork.pending]
  · rw [hwork.db, hwork.pending]
    rfl

end Dialogue
