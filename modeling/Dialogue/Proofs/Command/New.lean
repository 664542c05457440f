import Dialogue.Command.Run
import Dialogue.Proofs.Files.Creating

/-!
# What a new script leaves of the files

A new script is written only where its path names nothing. Nothing but the directories above it and
the file itself changes (`runNew_cases`), so a file that is there can only be lost if the path leads
to it once the directories are there. That takes a path that goes up again behind a directory that
was missing (`run_newScript_keeps`), and such a path does replace a file
(`run_newScript_replaces`).
-/

namespace Dialogue

variable {files : FileTree} {path : Path} {title conversant : String}

/-- A run leaves the files as they are, or creates directories, or creates them and then writes the
script where its path leads, which named nothing before. -/
theorem runNew_cases (path : Path) (title conversant : String) (files : FileTree) :
    (runNew path title conversant files).files = files ∨
      files.holds path = false ∧
        ((runNew path title conversant files).files = (files.makeDirectories path.directory).2 ∨
          (runNew path title conversant files).ending = .done ∧
            ∃ place, (files.makeDirectories path.directory).2.resolve .followToFile path =
                .ok place ∧
              (files.makeDirectories path.directory).2.node? place.location ≠ some .directory ∧
              (runNew path title conversant files).files =
                (files.makeDirectories path.directory).2.put place.location
                  (.file (Script.starter title conversant).toUTF8)) := by
  unfold runNew
  split
  · exact .inl rfl
  · next hfree =>
    refine .inr ⟨by simpa using hfree, ?_⟩
    split
    · next hmade =>
      rw [hmade]
      exact .inl rfl
    · next hmade =>
      rw [hmade]
      split
      · exact .inl rfl
      · next hwrite =>
        obtain ⟨place, hplace, hdirectory, rfl⟩ := FileTree.exists_of_write hwrite
        exact .inr ⟨rfl, place, hplace, hdirectory, rfl⟩

/-- A new script leaves every file as it was, whatever the settings are. The only exception is the
file that its path leads to in the end, if the path goes up again behind a piece of it that named
nothing. -/
theorem run_newScript_keeps (hfiles : files.Sound) (settingsFile : Option Path) (path : Path)
    (title conversant : String) {l : Location} {content : ByteArray}
    (hl : files.node? l = some (.file content)) :
    let after := Invocation.run ⟨settingsFile, .newScript path title conversant⟩ files
    after.files.node? l = some (.file content) ∨
      path.ClimbsBack files ∧ after.ending = .done ∧
        after.files.find .follow path =
          .ok (l, .file (Script.starter title conversant).toUTF8) := by
  intro after
  rcases hsettings : Settings.load files settingsFile with e | settings
  · have hafter : after = .failure files (.settings e) := by
      simp only [after, Invocation.run, hsettings]
    rw [hafter]
    exact .inl hl
  · have hafter : after = runNew path title conversant files := by
      simp only [after, Invocation.run, hsettings, Command.run]
    have hkept := (files.growsInto_makeDirectories path.directory).node?_of_some hl
    rw [hafter]
    obtain hsame | ⟨hfree, hmade | ⟨hdone, place, hplace, hdirectory, hwritten⟩⟩ :=
      runNew_cases path title conversant files
    · rw [hsame]
      exact .inl hl
    · rw [hmade]
      exact .inl hkept
    · rw [hwritten]
      by_cases hplaced : l = place.location
      · subst hplaced
        refine .inr ⟨?_, hdone, ?_⟩
        · by_contra hclimbs
          have hfind := FileTree.find_of_not_climbsBack hfiles (.inr hclimbs) hplace hl
          simp [FileTree.holds, hfind] at hfree
        · exact FileTree.find_put (hfiles.makeDirectories _) hdirectory hplace _
      · rw [FileTree.node?_put_of_ne _ hplaced]
        exact .inl hkept

/-- One script. -/
def scriptTree : FileTree where
  workingDirectory := []
  nodes := [(["x.dstext"], .file "title: Hall\nBob: Come in.".toUTF8)]

theorem sound_scriptTree : scriptTree.Sound := by
  refine .of_nodes rfl ?_
  simp only [scriptTree, List.forall_mem_singleton]
  rfl

/-- A directory is created for the new script, and the old one stays. -/
theorem run_newScript_keeps_scriptTree :
    scriptTree.Sound ∧
      scriptTree.node? ["x.dstext"] = some (.file "title: Hall\nBob: Come in.".toUTF8) ∧
      let after := Invocation.run ⟨none, .newScript ⟨"a/x.dstext"⟩ "Gate" "Bob"⟩ scriptTree
      after.ending = .done ∧
        after.files.node? ["x.dstext"] = some (.file "title: Hall\nBob: Come in.".toUTF8) := by
  refine ⟨sound_scriptTree, rfl, rfl, ?_⟩
  refine (run_newScript_keeps sound_scriptTree none ⟨"a/x.dstext"⟩ "Gate" "Bob"
    (l := ["x.dstext"]) rfl).resolve_right ?_
  rintro ⟨-, -, hfind⟩
  have hnew : (Invocation.run ⟨none, .newScript ⟨"a/x.dstext"⟩ "Gate" "Bob"⟩
      scriptTree).files.find .follow ⟨"a/x.dstext"⟩ =
        .ok (["a", "x.dstext"], .file (Script.starter "Gate" "Bob").toUTF8) := rfl
  simp [hnew] at hfind

/-- A path that goes up through a directory that is still missing names nothing when it is looked
up, and leads to the old script when the new one is written. -/
theorem run_newScript_replaces :
    ¬ ∀ (files : FileTree) (settingsFile : Option Path) (path : Path) (title conversant : String)
      (l : Location) (content : ByteArray), files.Sound → files.node? l = some (.file content) →
        (Invocation.run ⟨settingsFile, .newScript path title conversant⟩ files).files.node? l =
          some (.file content) := by
  intro h
  have hkept := h scriptTree none ⟨"a/../x.dstext"⟩ "Gate" "Bob" ["x.dstext"] _ sound_scriptTree rfl
  have hreplaced : (Invocation.run ⟨none, .newScript ⟨"a/../x.dstext"⟩ "Gate" "Bob"⟩
      scriptTree).files.node? ["x.dstext"] =
        some (.file (Script.starter "Gate" "Bob").toUTF8) := rfl
  rw [hreplaced] at hkept
  have hsize := congrArg ByteArray.size (FileNode.file.inj (Option.some.inj hkept))
  revert hsize
  decide +kernel

end Dialogue
