import Dialogue.Command.Run
import Dialogue.Proofs.Batch.Inputs
import Dialogue.Proofs.Files.Creating
import Dialogue.Proofs.Saved.RoundTrip

/-!
# What an import leaves of a database

An import reads a database, goes on from it and writes it again. Whether there is a database is
looked up before the directories above it are created, and it is written after that. For a path
that led somewhere, and for one that does not go up, both times the same file is meant
(`FileTree.find_of_makeDirectories`), so the import loses nothing (`ImportRequest.run_keeps`).

A path that goes up through a directory that is still missing leads nowhere at first. Once the
directory is there, it leads to another one, and a database that is found there is replaced
(`ImportRequest.run_replaces`).
-/

namespace Dialogue

namespace Database

/-- The database that the file at a place holds. -/
def heldAt? (files : FileTree) (l : Location) : Option Database :=
  match files.node? l with
  | some (.file content) => (String.fromUTF8? content).bind ofText?
  | _ => none

variable {files files' : FileTree} {path : Path} {db : Database} {l : Location}

/-- A file that holds the text of a database holds the database. -/
theorem heldAt?_of_saved (h : db.Storable)
    (hfile : files.node? l = some (.file db.saved.toUTF8)) : heldAt? files l = some db := by
  rw [heldAt?, hfile]
  simp only [FileTree.fromUTF8?_toUTF8, Option.bind_some, ofText?_saved h]

/-- Only a file holds a database. -/
theorem exists_of_heldAt? (h : heldAt? files l = some db) :
    ∃ content text, files.node? l = some (.file content) ∧
      String.fromUTF8? content = some text ∧ ofText? text = some db := by
  unfold heldAt? at h
  split at h
  · next content hfile =>
    obtain ⟨text, htext, hdb⟩ := Option.bind_eq_some_iff.1 h
    exact ⟨content, text, hfile, htext, hdb⟩
  · cases h

/-- A path that names the file of a database loads it. -/
theorem load_of_find {n : FileNode} (hfind : files.find .follow path = .ok (l, n))
    (hheld : heldAt? files l = some db) : loadOrNew files path = .ok db := by
  obtain ⟨content, text, hfile, htext, hdb⟩ := exists_of_heldAt? hheld
  obtain ⟨place, -, -, hn⟩ := FileTree.exists_of_find hfind
  rw [hfile] at hn
  cases hn
  have hread : files.readText path = .ok text := by
    simp [FileTree.readText, FileTree.read, hfind, htext, bind, Except.bind]
  have hholds : files.holds path = true := by simp [FileTree.holds, hfind]
  rw [loadOrNew, if_pos hholds, load, hread]
  simp only [hdb]

/-- A database is saved where its path leads once the directories above it are there. -/
theorem exists_of_save (h : db.save files path = (.ok (), files')) :
    ∃ place, (files.makeDirectories path.directory).2.resolve .followToFile path = .ok place ∧
      (files.makeDirectories path.directory).2.node? place.location ≠ some .directory ∧
      files' = (files.makeDirectories path.directory).2.put place.location
        (.file db.saved.toUTF8) := by
  unfold save at h
  split at h
  · cases h
  · next made hmade =>
    rw [hmade]
    split at h
    · cases h
    · next written hwrite =>
      cases h
      exact FileTree.exists_of_write hwrite

end Database

namespace ImportRequest

variable {r : ImportRequest} {settings : Settings} {files : FileTree}

/-- What an import makes of a database. -/
def imported (r : ImportRequest) (settings : Settings) (files : FileTree) (db : Database) :
    Database :=
  (importPaths files db (r.inputs settings) (r.options settings)).2

theorem continues_imported (r : ImportRequest) (settings : Settings) (files : FileTree)
    (db : Database) : db.Continues (r.imported settings files db) :=
  db.continues_importPathsBy _ _ _ _

/-- An import that is not tried out and does not fail loads a database and saves what it makes of
it. -/
theorem exists_of_run (hdry : r.dryRun = false)
    (hdone : ∀ failure, (r.run settings files).ending ≠ .failed failure) :
    ∃ db, Database.loadOrNew files (r.databasePath settings) = .ok db ∧
      (r.imported settings files db).save files (r.databasePath settings) =
        (.ok (), (r.run settings files).files) := by
  unfold run at hdone ⊢
  split at hdone
  · exact absurd rfl (hdone _)
  · next hinputs =>
    rw [if_neg hinputs]
    rcases hload : Database.loadOrNew files (r.databasePath settings) with e | db
    · rw [hload] at hdone
      exact absurd rfl (hdone _)
    · refine ⟨db, rfl, ?_⟩
      simp only [hload, hdry, Bool.false_eq_true, if_false] at hdone ⊢
      split at hdone
      · exact absurd rfl (hdone _)
      · next hsave => exact hsave

/-- An import that loads a database and saves what it makes of it does not fail. -/
theorem ending_run {db : Database} (hinputs : (r.inputs settings).isEmpty = false)
    (hload : Database.loadOrNew files (r.databasePath settings) = .ok db)
    (hsave : ((r.imported settings files db).save files (r.databasePath settings)).1 = .ok ())
    (failure : Failure) : (r.run settings files).ending ≠ .failed failure := by
  have hreported : ∀ b : Bool, (if b then Ending.unsound else .done) ≠ .failed failure := by
    intro b
    cases b <;> simp
  unfold run
  rw [if_neg (by simp [hinputs])]
  simp only [hload]
  split
  · exact hreported _
  · split
    · next hfailed =>
      unfold imported at hsave
      rw [hfailed] at hsave
      cases hsave
    · exact hreported _

/-- An import keeps what the file held that it writes. Where the path of the database led somewhere
or does not go up, the database that is saved still has every actor of the one that was there, and a
conversation under every title of it. -/
theorem run_keeps (hfiles : files.Sound) (hdry : r.dryRun = false)
    (hdone : ∀ failure, (r.run settings files).ending ≠ .failed failure)
    (hway : files.holds (r.databasePath settings) = true ∨
      .up ∉ (r.databasePath settings).steps) {l : Location} {n : FileNode}
    (hl : (r.run settings files).files.find .follow (r.databasePath settings) = .ok (l, n))
    {old : Database} (hold : Database.heldAt? files l = some old) :
    ∃ db : Database, n = .file db.saved.toUTF8 ∧
      (db.Storable → Database.heldAt? (r.run settings files).files l = some db) ∧
      old.actors <+: db.actors ∧
      ∀ c ∈ old.conversations, ∃ c' ∈ db.conversations, c'.title = c.title := by
  obtain ⟨db, hload, hsave⟩ := exists_of_run hdry hdone
  have hcontinues := r.continues_imported settings files db
  obtain ⟨place, hplace, hdirectory, hafter⟩ := Database.exists_of_save hsave
  rw [hafter, FileTree.find_put (hfiles.makeDirectories _) hdirectory hplace] at hl
  cases hl
  obtain ⟨content, text, hfile, -, -⟩ := Database.exists_of_heldAt? hold
  have hfind := FileTree.find_of_makeDirectories hfiles hway hplace hfile
  rw [Database.load_of_find hfind hold] at hload
  cases hload
  refine ⟨r.imported settings files old, rfl, ?_, hcontinues.actors, ?_⟩
  · intro hstorable
    refine Database.heldAt?_of_saved hstorable ?_
    rw [hafter, FileTree.node?_put_self]
    intro hroot
    rw [hroot] at hdirectory
    exact hdirectory rfl
  · intro c hc
    have hthere := Database.isSome_idTitled?_iff.2 (List.mem_map_of_mem hc)
    obtain ⟨id, hid⟩ := Option.isSome_iff_exists.1 hthere
    have hkept : ((r.imported settings files old).idTitled? c.title).isSome := by
      rw [hcontinues.idTitled? hid]
      rfl
    obtain ⟨c', hc', htitle⟩ := List.mem_map.1 (Database.isSome_idTitled?_iff.1 hkept)
    exact ⟨c', hc', htitle⟩

/-- A database with one actor and one conversation. -/
def keptDatabase : Database where
  player := none
  actors := [⟨1, "Mira", false⟩]
  conversations := [⟨1, "Hall", some 1, []⟩]

/-- The file of the database, and a script. -/
def keptTree : FileTree where
  workingDirectory := []
  nodes := [(["x.ron"], .file keptDatabase.saved.toUTF8),
    (["s.dstext"], .file "title: Gate\nBob: Halt!".toUTF8)]

/-- The import of the script into the database of a path. -/
def importInto (path : Path) : ImportRequest :=
  ⟨[⟨"s.dstext"⟩], some path, none, false, false⟩

theorem sound_keptTree : keptTree.Sound := by
  refine .of_nodes rfl ?_
  simp only [keptTree, List.forall_mem_cons]
  exact ⟨rfl, rfl, fun _ h => nomatch h⟩

theorem heldAt?_keptTree : Database.heldAt? keptTree ["x.ron"] = some keptDatabase :=
  Database.heldAt?_of_saved (by decide) rfl

/-- What is saved in the tree of the file stands where the path leads. -/
theorem find_keptTree {path : Path} {db : Database} {after : FileTree}
    (hsave : db.save keptTree path = (.ok (), after))
    (hresolve : (keptTree.makeDirectories path.directory).2.resolve .followToFile path =
      .ok ⟨["x.ron"], false⟩) :
    after.find .follow path = .ok (["x.ron"], .file db.saved.toUTF8) := by
  obtain ⟨place, hplace, hdirectory, rfl⟩ := Database.exists_of_save hsave
  rw [hresolve] at hplace
  cases hplace
  exact FileTree.find_put (sound_keptTree.makeDirectories _) hdirectory hresolve _

theorem run_keeps_keptTree :
    let after := ((importInto ⟨"x.ron"⟩).run .standard keptTree).files
    keptTree.Sound ∧ Database.heldAt? keptTree ["x.ron"] = some keptDatabase ∧
      ∃ n, after.find .follow ⟨"x.ron"⟩ = .ok (["x.ron"], n) ∧
        ∃ db : Database, n = .file db.saved.toUTF8 ∧
          (db.Storable → Database.heldAt? after ["x.ron"] = some db) ∧
          keptDatabase.actors <+: db.actors ∧
          ∀ c ∈ keptDatabase.conversations, ∃ c' ∈ db.conversations, c'.title = c.title := by
  intro after
  have hload : Database.loadOrNew keptTree ⟨"x.ron"⟩ = .ok keptDatabase :=
    Database.load_of_find rfl heldAt?_keptTree
  have hdone : ∀ failure, ((importInto ⟨"x.ron"⟩).run .standard keptTree).ending ≠
      .failed failure := ending_run rfl hload rfl
  obtain ⟨db, -, hsave⟩ := exists_of_run rfl hdone
  have hfind := find_keptTree hsave rfl
  exact ⟨sound_keptTree, heldAt?_keptTree, _, hfind,
    run_keeps sound_keptTree rfl hdone (.inl rfl) hfind heldAt?_keptTree⟩

/-- A path that goes up through a directory that is still missing leads to the file only after the
database has been looked up, and what the file held is lost. -/
theorem run_replaces :
    let run := (importInto ⟨"a/../x.ron"⟩).run .standard keptTree
    keptTree.Sound ∧ run.ending = .done ∧
      Database.heldAt? keptTree ["x.ron"] = some keptDatabase ∧
      ∃ db : Database, run.files.find .follow ⟨"a/../x.ron"⟩ =
          .ok (["x.ron"], .file db.saved.toUTF8) ∧
        (∀ a ∈ db.actors, a.name ≠ "Mira") ∧ ∀ c ∈ db.conversations, c.title ≠ "Hall" := by
  intro run
  have hending : run.ending = .done := by decide +kernel
  have hdone : ∀ failure, run.ending ≠ .failed failure := by
    rw [hending]
    simp
  obtain ⟨db, hload, hsave⟩ := exists_of_run rfl hdone
  have hnew : Database.loadOrNew keptTree ⟨"a/../x.ron"⟩ = .ok .empty := rfl
  rw [show (importInto ⟨"a/../x.ron"⟩).databasePath .standard = ⟨"a/../x.ron"⟩ from rfl, hnew]
    at hload
  cases hload
  refine ⟨sound_keptTree, hending, heldAt?_keptTree, _, find_keptTree hsave rfl, ?_, ?_⟩
  · decide +kernel
  · decide +kernel

end ImportRequest

end Dialogue
