import Dialogue.Proofs.Batch.Reached
import Dialogue.Proofs.Batch.Refusal
import Dialogue.Proofs.Resolution.Delivery

/-!
# What becomes of every input

A path that is imported stands for itself or, if it names a directory, for everything that the walk
through it comes to: the script files, and what cannot be walked. So a batch is a list of errands,
one path each (`errandsOf`, `foldl_importPathBy`). An errand gives a conversation or is skipped, and
what is said on it carries its path; `Batch.Did` is what a batch has to show for the errands that
it has done, and each errand adds its own share (`Did.perform`).

How a directory is walked is left open: all of this holds for whatever a walk finds, also where it
finds a file twice or names no path for what it passed over. Whatever the errands are, the database
only goes on from what it was (`Database.continues_importPathsBy`).
-/

namespace Dialogue

open Script

/-! ## Errands -/

/-- A source that does not open with a title has no outline. -/
theorem Source.outline?_eq_none {s : Source} (h : s.opensWithTitle = false) :
    s.outline? = none := by
  rw [Option.eq_none_iff_forall_ne_some]
  intro o ho
  rw [Source.opensWithTitle_iff.2 ⟨o, ho⟩] at h
  cases h

/-- What a batch has to do with one path. -/
inductive Errand
  /-- The walk through a directory passed over something. -/
  | passOver (directory : Path) (error : WalkError)
  | read (file : Path)
  /-- The path names neither a directory nor a file. -/
  | miss (path : Path)

namespace Errand

/-- The path that an errand is about. -/
def path : Errand → Path
  | passOver directory error => error.path directory
  | read file => file
  | miss path => path

/-- Whether the path of an errand is that of a script. -/
def gives (files : FileTree) : Errand → Bool
  | read file =>
    match files.readText file with
    | .ok text => (Source.mk (some file) text).opensWithTitle
    | .error _ => false
  | passOver _ _ | miss _ => false

/-- What may be said on an errand. Beside the remarks about a script, these are the links that lose
the entry they start from. -/
inductive Says (files : FileTree) : Errand → List Diagnostic → Prop
  | passOver (directory : Path) (error : WalkError) :
    Says files (.passOver directory error)
      [⟨some (error.path directory), none, .unwalkedPath error⟩]
  | miss (path : Path) : Says files (.miss path) [⟨some path, none, .missingInput⟩]
  | unread {file : Path} {error : FileError} (h : files.readText file = .error error) :
    Says files (.read file) [⟨some file, none, .unreadFile error⟩]
  | source {file : Path} {text : String} (h : files.readText file = .ok text)
    (stale : List PendingLink) :
    Says files (.read file) ((Source.mk (some file) text).remarks ++
      stale.map fun p => p.stale.inFile (some file))

variable {files : FileTree} {errand : Errand} {said : List Diagnostic}

/-- All of it carries the path. -/
theorem Says.file (h : errand.Says files said) : ∀ d ∈ said, d.file = some errand.path := by
  intro d hd
  cases h with
  | passOver | miss | unread =>
    rw [List.mem_singleton.1 hd]
    rfl
  | source h stale =>
    rcases List.mem_append.1 hd with hd | hd
    · exact Source.file_of_mem_remarks hd
    · obtain ⟨p, -, rfl⟩ := List.mem_map.1 hd
      rfl

/-- Where an errand gives no conversation, an error is among it. -/
theorem Says.exists_isError (h : errand.Says files said) (hgives : errand.gives files = false) :
    ∃ d ∈ said, d.isError = true := by
  cases h with
  | passOver | miss | unread => exact ⟨_, List.mem_singleton_self _, rfl⟩
  | source h stale =>
    rw [gives, h] at hgives
    obtain ⟨before, e, hsaid, -⟩ :=
      (Source.refusedWith_remarks (Source.outline?_eq_none hgives)).reason
    rw [hsaid]
    exact ⟨_, List.mem_append_left _ (List.mem_append_right _ List.mem_cons_self), rfl⟩

end Errand

/-- The errands of a batch with a path that it is given. -/
def errandsOf (walk : Path → String → Scan) (files : FileTree) (extension : String)
    (input : Path) : List Errand :=
  if files.holdsDirectory input then
    (walk input extension).errors.map (.passOver input) ++
      (walk input extension).files.map .read
  else if files.holdsFile input then [.read input]
  else [.miss input]

namespace Batch

/-- The batch after an errand. -/
def perform (files : FileTree) (b : Batch) : Errand → Batch
  | .passOver directory error => b.skipUnwalked directory error
  | .read file => b.importFile files file
  | .miss path => b.skip path .missingInput

variable {files : FileTree} {b : Batch} {done : List Errand} {errand : Errand}

@[simp] theorem options_importFile (b : Batch) (file : Path) :
    (b.importFile files file).options = b.options := by
  unfold importFile
  split
  · exact options_importSource b _
  · rfl

@[simp] theorem options_perform (b : Batch) (errand : Errand) :
    (b.perform files errand).options = b.options := by
  cases errand with
  | passOver | miss => rfl
  | read file => exact options_importFile b file

@[simp] theorem options_foldl_perform (b : Batch) (errands : List Errand) :
    (errands.foldl (perform files) b).options = b.options := by
  induction errands generalizing b with
  | nil => rfl
  | cons errand errands ih => rw [List.foldl_cons, ih, options_perform]

/-- A path is imported errand by errand. -/
theorem importPathBy_eq (walk : Path → String → Scan) (b : Batch) (input : Path) :
    b.importPathBy walk files input =
      (errandsOf walk files b.options.extension input).foldl (perform files) b := by
  unfold importPathBy errandsOf
  split
  · rw [List.foldl_append, List.foldl_map, List.foldl_map]
    rfl
  · split
    · rfl
    · rfl

/-- All paths are imported errand by errand. -/
theorem foldl_importPathBy (walk : Path → String → Scan) (b : Batch) (inputs : List Path) :
    inputs.foldl (importPathBy walk files) b =
      (inputs.flatMap (errandsOf walk files b.options.extension)).foldl (perform files) b := by
  induction inputs generalizing b with
  | nil => rfl
  | cons input inputs ih =>
    rw [List.foldl_cons, ih, importPathBy_eq, options_foldl_perform, List.flatMap_cons,
      List.foldl_append]

end Batch

/-! ## What errands leave behind -/

/-- The last of these conversations that has the title. -/
def lastImported? (imported : List Imported) (title : String) : Option Imported :=
  (imported.filter (·.title = title)).getLast?

/-- What a batch has to show for its errands. -/
structure Batch.Did (files : FileTree) (b : Batch) (done : List Errand) : Prop where
  imported : b.imported.map Imported.file =
    (done.filter (·.gives files)).map fun errand => some errand.path
  skipped : b.skipped = (done.filter (!·.gives files)).map Errand.path
  /-- There is a passage for every errand, in order. -/
  said : ∃ passages : List (Errand × List Diagnostic), passages.map Prod.fst = done ∧
    (∀ p ∈ passages, p.1.Says files p.2) ∧ b.diagnostics = passages.flatMap Prod.snd
  /-- The conversation of a title is the one that was imported last. -/
  stored : ∀ title item, lastImported? b.imported title = some item →
    (b.db.conversations.filter (·.title = title)).map (fun c => (c.id, c.entries.length)) =
      [(item.id, item.entries)]

/-- The conversations of a title when one is installed under its own. -/
theorem Database.filter_titled_install (db : Database) (fallback : String) {o : Outline}
    {c : Conversation} (hc : c.title = o.title) (title : String) :
    (db.install fallback o c).conversations.filter (·.title = title) =
      if o.title = title then [c] else db.conversations.filter (·.title = title) := by
  rw [conversations_install, List.filter_append, List.filter_filter]
  by_cases ht : o.title = title
  · rw [if_pos ht, List.filter_cons_of_pos (by simpa [hc] using ht), List.filter_nil]
    have hnone : db.conversations.filter
        (fun d => decide (d.title = title) && decide (d.title ≠ o.title)) = [] := by
      rw [List.filter_eq_nil_iff]
      intro d _
      simp [ht]
    rw [hnone, List.nil_append]
  · rw [if_neg ht, List.filter_cons_of_neg (by simpa [hc] using ht), List.filter_nil,
      List.append_nil]
    refine List.filter_congr fun d _ => ?_
    by_cases hd : d.title = title
    · simp [hd, Ne.symm ht]
    · simp [hd]

theorem lastImported?_append_singleton (imported : List Imported) (new : Imported)
    (title : String) :
    lastImported? (imported ++ [new]) title =
      if new.title = title then some new else lastImported? imported title := by
  unfold lastImported?
  rw [List.filter_append]
  by_cases h : new.title = title
  · rw [if_pos h, List.filter_cons_of_pos (by simpa using h), List.filter_nil,
      List.getLast?_concat]
  · rw [if_neg h, List.filter_cons_of_neg (by simpa using h), List.filter_nil, List.append_nil]

namespace Batch

variable {files : FileTree} {b : Batch} {done : List Errand} {errand : Errand}

namespace Did

/-- Before any errand there is nothing to show. -/
theorem start (files : FileTree) (db : Database) (options : ImportOptions) :
    (Batch.start db options).Did files [] where
  imported := rfl
  skipped := rfl
  said := ⟨[], rfl, by simp, rfl⟩
  stored title item h := by cases h

/-- One more passage. -/
theorem said_append (h : b.Did files done) {b' : Batch} {said : List Diagnostic}
    (hsaid : errand.Says files said) (hdiagnostics : b'.diagnostics = b.diagnostics ++ said) :
    ∃ passages : List (Errand × List Diagnostic), passages.map Prod.fst = done ++ [errand] ∧
      (∀ p ∈ passages, p.1.Says files p.2) ∧ b'.diagnostics = passages.flatMap Prod.snd := by
  obtain ⟨passages, herrands, hpassages, hall⟩ := h.said
  refine ⟨passages ++ [(errand, said)], by simp [herrands], ?_, by simp [hdiagnostics, hall]⟩
  intro p hp
  rcases List.mem_append.1 hp with hp | hp
  · exact hpassages p hp
  · rw [List.mem_singleton.1 hp]
    exact hsaid

/-- One more errand that gives nothing. -/
theorem refuse (h : b.Did files done) (hgives : errand.gives files = false) {b' : Batch}
    {said : List Diagnostic} (hsaid : errand.Says files said) (hdb : b'.db = b.db)
    (himported : b'.imported = b.imported) (hskipped : b'.skipped = b.skipped ++ [errand.path])
    (hdiagnostics : b'.diagnostics = b.diagnostics ++ said) :
    b'.Did files (done ++ [errand]) where
  imported := by simp [himported, h.imported, hgives]
  skipped := by simp [hskipped, h.skipped, hgives]
  said := h.said_append hsaid hdiagnostics
  stored := by rw [hdb, himported]; exact h.stored

/-- One more script. -/
theorem accept (h : b.Did files done) {file : Path} {text : String}
    (htext : files.readText file = .ok text) {o : Outline}
    (ho : (Source.mk (some file) text).outline? = some o) (N : Naming) :
    (b.accept N ⟨some file, text⟩ o).Did files (done ++ [.read file]) := by
  have hgives : (Errand.read file).gives files = true := by
    rw [Errand.gives, htext]
    exact Source.opensWithTitle_iff.2 ⟨o, ho⟩
  constructor
  case imported => simp [Batch.accept, h.imported, hgives, Errand.path]
  case skipped => simp [Batch.accept, h.skipped, hgives]
  case said =>
    refine h.said_append (.source htext (b.pending.filter (b.db.dropsLink o.title))) ?_
    rw [diagnostics_accept, saidOf, List.map_map]
    rfl
  case stored =>
    intro title item hitem
    simp only [Batch.accept, lastImported?_append_singleton] at hitem
    simp only [Batch.accept, Database.filter_titled_install b.db b.options.playerName
      (c := N.conversation b.options.startSequence o) rfl title]
    split at hitem
    · next ht =>
      cases hitem
      simp [ht, Naming.conversation]
    · next ht =>
      rw [if_neg ht]
      exact h.stored title item hitem

/-- One more errand. -/
theorem perform (h : b.Did files done) (errand : Errand) :
    (b.perform files errand).Did files (done ++ [errand]) := by
  cases errand with
  | passOver directory error => exact h.refuse rfl (.passOver directory error) rfl rfl rfl rfl
  | miss path => exact h.refuse rfl (.miss path) rfl rfl rfl rfl
  | read file =>
    show (b.importFile files file).Did files _
    unfold importFile
    split
    · next text htext =>
      rcases ho : (Source.mk (some file) text).outline? with _ | o
      · have hgives : (Errand.read file).gives files = false := by
          rw [Errand.gives, htext]
          exact Source.opensWithTitle_eq_false ho
        rw [importSource_of_none ho]
        exact h.refuse hgives (.source htext []) rfl rfl rfl (by simp [Batch.refuse])
      · obtain ⟨N, hN⟩ := exists_accept ho b.db b.options
        rw [hN b rfl rfl]
        exact h.accept htext ho N
    · next error htext =>
      have hgives : (Errand.read file).gives files = false := by rw [Errand.gives, htext]
      exact h.refuse hgives (.unread htext) rfl rfl rfl rfl

/-- Any number of errands more. -/
theorem foldl_perform (h : b.Did files done) (errands : List Errand) :
    (errands.foldl (Batch.perform files) b).Did files (done ++ errands) := by
  induction errands generalizing b done with
  | nil => simpa using h
  | cons errand errands ih =>
    rw [List.foldl_cons, List.append_cons]
    exact ih (h.perform errand)

end Did

end Batch

/-! ## What the report accounts for -/

/-- The conversations of a title keep their ids and as many entries when links are handed out. -/
theorem Database.filter_titled_deliver (db : Database) (links : List Link) (title : String) :
    ((db.deliver links).conversations.filter (·.title = title)).map
        (fun c => (c.id, c.entries.length)) =
      (db.conversations.filter (·.title = title)).map fun c => (c.id, c.entries.length) := by
  have hcards : ∀ cs : List Conversation, (cs.filter (·.title = title)).map
      (fun c => (c.id, c.entries.length)) =
        ((cs.map fun c => (c.title, c.id, c.entries.length)).filter (·.1 = title)).map
          Prod.snd := by
    intro cs
    rw [List.filter_map, List.map_map]
    rfl
  have hcard : ∀ c : Conversation, ((c.deliver links).title, (c.deliver links).id,
      (c.deliver links).entries.length) = (c.title, c.id, c.entries.length) := by
    intro c
    simp [Conversation.deliver, mapFirsts]
  rw [hcards, hcards, deliver]
  simp only
  rw [map_mapFirsts hcard]

/-- A report, with the database that goes with it, accounts for these errands: each path is among
the imported or the skipped files once for each errand with it, and what was said carries the path
of the errand that it was said on, up to these issues of the links that waited until the end. -/
structure Report.AccountsFor (files : FileTree) (errands : List Errand)
    (issues : List ResolveIssue) (report : Report) (db : Database) : Prop where
  paths : (report.imported.map Imported.file ++ report.skipped.map some).Perm
    (errands.map fun errand => some errand.path)
  /-- No path is skipped in silence. -/
  skipped : ∀ path ∈ report.skipped,
    ∃ d ∈ report.diagnostics, d.file = some path ∧ d.isError = true
  /-- The conversation of a title is the one that was imported last, and there is no other. -/
  stored : ∀ title item, lastImported? report.imported title = some item →
    (db.conversations.filter (·.title = title)).map (fun c => (c.id, c.entries.length)) =
      [(item.id, item.entries)]
  said : ∃ passages : List (Errand × List Diagnostic), passages.map Prod.fst = errands ∧
    (∀ p ∈ passages, p.1.Says files p.2 ∧ ∀ d ∈ p.2, d.file = some p.1.path) ∧
    report.diagnostics = passages.flatMap Prod.snd ++ issues.map ResolveIssue.diagnostic
  issues : ∀ issue ∈ issues, issue.diagnostic.file = none

/-- The end of a batch leaves nothing of it unaccounted for. -/
theorem Batch.Did.accountsFor {files : FileTree} {b : Batch} {done : List Errand}
    (h : b.Did files done) :
    b.finish.1.AccountsFor files done (resolve b.db b.pending).issues b.finish.2 := by
  obtain ⟨passages, herrands, hpassages, hall⟩ := h.said
  constructor
  case paths =>
    show (b.imported.map Imported.file ++ b.skipped.map some).Perm _
    rw [h.imported, h.skipped, List.map_map]
    have hsplit := (List.filter_append_perm (·.gives files) done).map fun e => some e.path
    rwa [List.map_append] at hsplit
  case skipped =>
    intro path hpath
    rw [finish, h.skipped] at hpath
    obtain ⟨errand, herrand, rfl⟩ := List.mem_map.1 hpath
    obtain ⟨herrand, hgives⟩ := List.mem_filter.1 herrand
    rw [← herrands] at herrand
    obtain ⟨p, hp, rfl⟩ := List.mem_map.1 herrand
    obtain ⟨d, hd, herror⟩ := (hpassages p hp).exists_isError (by simpa using hgives)
    refine ⟨d, List.mem_append_left _ ?_, (hpassages p hp).file d hd, herror⟩
    rw [hall]
    exact List.mem_flatMap_of_mem hp hd
  case stored =>
    intro title item hitem
    have hdb : b.finish.2 = b.db.deliver (resolve b.db b.pending).links :=
      b.db.foldl_writeLink_eq_deliver _
    rw [hdb, Database.filter_titled_deliver]
    exact h.stored title item hitem
  case said =>
    refine ⟨passages, herrands, fun p hp => ⟨hpassages p hp, (hpassages p hp).file⟩, ?_⟩
    rw [← hall]
    rfl
  case issues =>
    intro issue _
    cases issue <;> rfl

/-- An import of paths accounts for every path that it is given, and for everything that the walks
through directories come to, whatever they do. -/
theorem importPathsBy_accountsFor (walk : Path → String → Scan) (files : FileTree) (db : Database)
    (inputs : List Path) (options : ImportOptions) :
    let b := inputs.foldl (Batch.importPathBy walk files) (.start db options)
    let (report, after) := importPathsBy walk files db inputs options
    report.AccountsFor files (inputs.flatMap (errandsOf walk files options.extension))
      (resolve b.db b.pending).issues after := by
  intro b
  have hdid := (Batch.Did.start files db options).foldl_perform
    (inputs.flatMap (errandsOf walk files options.extension))
  rw [List.nil_append] at hdid
  have hb : b = (inputs.flatMap (errandsOf walk files options.extension)).foldl
    (Batch.perform files) (.start db options) := Batch.foldl_importPathBy walk _ inputs
  rw [← hb] at hdid
  exact hdid.accountsFor

/-- A directory with a script. -/
def scriptFolder : FileTree where
  workingDirectory := []
  nodes := [(["d"], .directory), (["d", "a.dstext"], .file "title: Gate\nBob: Halt!".toUTF8)]

/-- A walk that finds the script and then cannot read on. -/
def brokenWalk (p : Path) (_ : String) : Scan :=
  ⟨[p.join ⟨"a.dstext"⟩], [.unlisted .notADirectory]⟩

example :
    let report := (importPathsBy brokenWalk scriptFolder .empty [⟨"d"⟩, ⟨"e"⟩, ⟨"d/a.dstext"⟩]
      .standard).1
    report.imported.map Imported.file = [some ⟨"d/a.dstext"⟩, some ⟨"d/a.dstext"⟩] ∧
      report.skipped = [⟨"d"⟩, ⟨"e"⟩] := by
  decide +kernel

/-! ## What paths do to a database -/

/-- An errand is a continuation. -/
theorem Batch.continues_perform (files : FileTree) (b : Batch) (errand : Errand) :
    b.db.Continues (b.perform files errand).db := by
  cases errand with
  | passOver | miss => exact .refl _
  | read file =>
    show b.db.Continues (b.importFile files file).db
    unfold importFile
    split
    · exact continues_importSource
    · exact .refl _

theorem Batch.continues_foldl_perform (files : FileTree) (b : Batch) (errands : List Errand) :
    b.db.Continues (errands.foldl (perform files) b).db := by
  induction errands generalizing b with
  | nil => exact .refl _
  | cons errand errands ih => exact (b.continues_perform files errand).trans (ih _)

/-- An import of paths is a continuation. -/
theorem Database.continues_importPathsBy (walk : Path → String → Scan) (files : FileTree)
    (db : Database) (inputs : List Path) (options : ImportOptions) :
    db.Continues (importPathsBy walk files db inputs options).2 := by
  unfold importPathsBy
  rw [Batch.foldl_importPathBy]
  exact (Batch.continues_foldl_perform files (.start db options) _).trans
    (Batch.continues_finish _)

end Dialogue
