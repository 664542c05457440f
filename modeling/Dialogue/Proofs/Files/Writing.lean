import Mathlib.Data.List.Basic
import Dialogue.Files.Tree

/-!
# What is written is read

A path leads where its parts lead one after another, through directories and links. Writing a file
changes one place, at which no directory and no link stands, and a path to a file ends at the first
such place. So the way to it is the same afterwards, and reading the path gives the content
(`readText_write`).

This holds in a tree in which every place stands in a directory (`FileTree.Sound`), and creating
directories keeps it so (`Sound.makeDirectories`).
-/

namespace Dialogue.FileTree

/-- Every place stands in a directory, and relative paths start from one. -/
structure Sound (t : FileTree) : Prop where
  workingDirectory : t.node? t.workingDirectory = some .directory
  parent : ∀ {l n}, t.node? l = some n → t.node? l.dropLast = some .directory

variable {t t' : FileTree} {here : Location} {name : String} {rest steps : List Step}
  {place : Place} {last : LastPart}
  {followLink followLink' : Location → List Step → Except FileError Place}

/-- It is enough to look at the places that hold something. -/
theorem Sound.of_nodes (hworking : t.node? t.workingDirectory = some .directory)
    (hnodes : ∀ e ∈ t.nodes, t.node? e.1.dropLast = some .directory) : t.Sound := by
  refine ⟨hworking, ?_⟩
  intro l n hl
  unfold node? at hl
  split at hl
  · next hroot =>
    rw [hroot]
    rfl
  · obtain ⟨before, after, hsplit, -⟩ := List.lookup_eq_some_iff.1 hl
    exact hnodes (l, n) (by rw [hsplit]; simp)

/-! ## One part of a path -/

/-- What a part that names something does, if it leads anywhere: the path ends there, or it goes on
in the directory, or it goes on along the link. -/
inductive Enters (t : FileTree) (last : LastPart)
    (followLink : Location → List Step → Except FileError Place) (here there : Location)
    (rest : List Step) (place : Place) : Prop
  | ends (hplace : place = ⟨there, !rest.isEmpty⟩) (hslash : rest.all (· = .slash) = true)
      (hnone : t.node? there = none ∨ ∃ content, t.node? there = some (.file content))
  | keeps (hplace : place = ⟨there, !rest.isEmpty⟩) (hkeeps : last.keeps rest = true)
      {target : Path} (hlink : t.node? there = some (.link target))
  | goesOn (hdirectory : t.node? there = some .directory)
      (h : t.walkSteps last followLink there rest = .ok place)
  | follows (hkeeps : last.keeps rest = false) {target : Path}
      (hlink : t.node? there = some (.link target))
      (h : followLink (if target.isAbsolute then [] else here) (target.steps ++ rest) = .ok place)

theorem enters_of_walkSteps
    (h : t.walkSteps last followLink here (.enter name :: rest) = .ok place) :
    last.refuses rest = false ∧ name.utf8ByteSize ≤ maxNameSize ∧
      t.Enters last followLink here (here ++ [name]) rest place := by
  have hrefuses : last.refuses rest = false := by
    by_contra hrefuses
    rw [Bool.not_eq_false] at hrefuses
    rw [walkSteps, if_pos hrefuses] at h
    cases h
  have hshort : name.utf8ByteSize ≤ maxNameSize := by
    by_contra hlong
    rw [walkSteps, if_neg (by simp [hrefuses]), if_pos (Nat.lt_of_not_le hlong)] at h
    cases h
  rw [walkSteps, if_neg (by simp [hrefuses]), if_neg (Nat.not_lt.2 hshort)] at h
  refine ⟨hrefuses, hshort, ?_⟩
  simp only at h
  split at h
  · next hnone =>
    split_ifs at h with hslash
    exact .ends (Except.ok.inj h).symm hslash (.inl hnone)
  · next hdirectory => exact .goesOn hdirectory h
  · next content hfile =>
    split_ifs at h with hslash
    exact .ends (Except.ok.inj h).symm hslash (.inr ⟨content, hfile⟩)
  · next target hlink =>
    split at h
    · next hkeeps => exact .keeps (Except.ok.inj h).symm hkeeps hlink
    · next hkeeps => exact .follows (by simpa using hkeeps) hlink h

theorem walkSteps_of_enters (hrefuses : last.refuses rest = false)
    (hshort : name.utf8ByteSize ≤ maxNameSize)
    (h : t.Enters last followLink here (here ++ [name]) rest place) :
    t.walkSteps last followLink here (.enter name :: rest) = .ok place := by
  rw [walkSteps, if_neg (by simp [hrefuses]), if_neg (Nat.not_lt.2 hshort)]
  cases h with
  | ends hplace hslash hnone =>
    obtain hnone | ⟨content, hfile⟩ := hnone
    · simp only [hnone, hslash, if_true, hplace]
    · simp only [hfile, hslash, if_true, hplace]
  | keeps hplace hkeeps hlink => simp only [hlink, hkeeps, if_true, hplace]
  | goesOn hdirectory h => simp only [hdirectory, h]
  | follows hkeeps hlink h => simp only [hlink, hkeeps, Bool.false_eq_true, if_false, h]

/-! ## Where paths lead -/

/-- The place is a directory, or a name in one. It is a link only if links may be kept. -/
inductive Stands (t : FileTree) (last : LastPart) (place : Place) : Prop
  | directory (h : t.node? place.location = some .directory)
  | name {here : Location} {name : String} (hplace : place.location = here ++ [name])
      (hhere : t.node? here = some .directory)
      (hlink : ∀ target, t.node? place.location = some (.link target) →
        ∃ rest, last.keeps rest = true)

/-- Steps lead from a directory to what stands in one. -/
theorem stands_walkSteps (ht : t.Sound)
    (hfollow : ∀ {here steps place}, t.node? here = some .directory →
      followLink here steps = .ok place → t.Stands last place)
    (hhere : t.node? here = some .directory)
    (h : t.walkSteps last followLink here steps = .ok place) : t.Stands last place := by
  induction steps generalizing here with
  | nil =>
    cases h
    exact .directory hhere
  | cons step rest ih =>
    cases step with
    | stay => exact ih hhere h
    | up => exact ih (ht.parent hhere) h
    | slash =>
      rw [walkSteps] at h
      split at h
      · cases h
        exact .directory hhere
      · exact ih hhere h
    | enter name =>
      obtain ⟨-, -, henters⟩ := enters_of_walkSteps h
      cases henters with
      | ends hplace hslash hnone =>
        subst hplace
        refine .name rfl hhere fun target hlink => ?_
        obtain hnone | ⟨content, hfile⟩ := hnone
        · exact absurd (hlink.symm.trans hnone) (by simp)
        · exact absurd (hlink.symm.trans hfile) (by simp)
      | keeps hplace hkeeps =>
        subst hplace
        exact .name rfl hhere fun _ _ => ⟨rest, hkeeps⟩
      | goesOn hdirectory h => exact ih hdirectory h
      | follows _ _ h =>
        refine hfollow ?_ h
        split
        · rfl
        · exact hhere

theorem stands_walkFollowing (ht : t.Sound) {links : Nat} (hhere : t.node? here = some .directory)
    (h : t.walkFollowing last links here steps = .ok place) : t.Stands last place := by
  induction links generalizing here steps place with
  | zero =>
    refine stands_walkSteps ht ?_ hhere h
    intro here steps place _ herror
    cases herror
  | succ links ih => exact stands_walkSteps ht ih hhere h

/-- A path starts from a directory. -/
theorem Sound.start (ht : t.Sound) (absolute : Bool) :
    t.node? (if absolute then [] else t.workingDirectory) = some .directory := by
  cases absolute
  · exact ht.workingDirectory
  · rfl

theorem stands_resolve (ht : t.Sound) {p : Path} (h : t.resolve last p = .ok place) :
    t.Stands last place := by
  have hstart := ht.start p.isAbsolute
  unfold resolve at h
  generalize (if p.isAbsolute then [] else t.workingDirectory) = start at h hstart
  split_ifs at h
  exact stands_walkFollowing ht hstart h

/-- A path does not lead to a link that it follows. -/
theorem ne_link_of_resolve (ht : t.Sound) (hkeeps : ∀ rest, last.keeps rest = false) {p : Path}
    (h : t.resolve last p = .ok place) (target : Path) :
    t.node? place.location ≠ some (.link target) := by
  intro htarget
  cases stands_resolve ht h with
  | directory hdirectory =>
    rw [hdirectory] at htarget
    cases htarget
  | name _ _ hkept =>
    obtain ⟨rest, hrest⟩ := hkept target htarget
    rw [hkeeps] at hrest
    cases hrest

/-! ## Creating directories -/

/-- A directory that is put in a directory stands in one. -/
theorem Sound.put (ht : t.Sound) {name : String} (hhere : t.node? here = some .directory) :
    (t.put (here ++ [name]) .directory).Sound := by
  have hkept : ∀ {l}, t.node? l = some .directory →
      (t.put (here ++ [name]) .directory).node? l = some .directory := by
    intro l hl
    by_cases heq : l = here ++ [name]
    · rw [heq, node?_put_self t (by simp)]
    · rw [node?_put_of_ne t heq, hl]
  refine ⟨hkept ht.workingDirectory, ?_⟩
  intro l n hl
  by_cases heq : l = here ++ [name]
  · rw [heq, List.dropLast_concat]
    exact hkept hhere
  · rw [node?_put_of_ne t heq] at hl
    exact hkept (ht.parent hl)

/-- A directory is made where its path leads, and nothing was there. -/
theorem exists_of_makeDirectory {p : Path} (h : t.makeDirectory p = .ok t') :
    ∃ place, t.resolve .keepWithSlash p = .ok place ∧ t.node? place.location = none ∧
      t' = t.put place.location .directory := by
  unfold makeDirectory at h
  rcases hresolve : t.resolve .keepWithSlash p with e | place
  · rw [hresolve] at h
    cases h
  · rw [hresolve] at h
    change (if (t.node? place.location).isSome then Except.error FileError.alreadyExists
      else Except.ok (t.put place.location .directory)) = .ok t' at h
    split at h
    · cases h
    · next hnone =>
      cases h
      exact ⟨place, rfl, by simpa using hnone, rfl⟩

theorem Sound.makeDirectory (ht : t.Sound) {p : Path} (h : t.makeDirectory p = .ok t') :
    t'.Sound := by
  obtain ⟨place, hresolve, hnone, rfl⟩ := exists_of_makeDirectory h
  cases stands_resolve ht hresolve with
  | directory hdirectory =>
    rw [hnone] at hdirectory
    cases hdirectory
  | name hplace hhere =>
    rw [hplace]
    exact ht.put hhere

theorem Sound.makeDirectoriesFrom (ht : t.Sound) (ps : List Path) :
    (makeDirectoriesFrom ps t).2.Sound := by
  induction ps generalizing t with
  | nil => exact ht
  | cons p above ih =>
    rw [FileTree.makeDirectoriesFrom]
    split
    · exact ht
    · split
      · next t' hmade => exact ht.makeDirectory hmade
      · have habove := ih ht
        split
        · next hfailed =>
          rw [hfailed] at habove
          exact habove
        · next hdone =>
          rw [hdone] at habove
          split
          · next hmade => exact habove.makeDirectory hmade
          · exact habove
      · exact ht

theorem Sound.makeDirectories (ht : t.Sound) (p : Path) : (t.makeDirectories p).2.Sound :=
  ht.makeDirectoriesFrom p.ancestors

/-! ## Writing a file -/

section write

variable {l : Location} {content : ByteArray}

/-- Putting a file at the end of a way leaves the way. -/
theorem walkSteps_put (ht : t.Sound) (hdirectory : t.node? l ≠ some .directory)
    (hlink : ∀ target, t.node? l ≠ some (.link target))
    (hfollow : ∀ {here steps}, t.node? here = some .directory →
      followLink here steps = .ok place →
        place.slash = false ∧ followLink' here steps = .ok place)
    (hhere : t.node? here = some .directory)
    (h : t.walkSteps .followToFile followLink here steps = .ok place)
    (hplace : place.location = l) :
    place.slash = false ∧
      (t.put l (.file content)).walkSteps .follow followLink' here steps = .ok place := by
  have hself : (t.put l (.file content)).node? l = some (.file content) := by
    refine node?_put_self t ?_ _
    rintro rfl
    exact hdirectory rfl
  induction steps generalizing here with
  | nil =>
    cases h
    subst hplace
    exact absurd hhere hdirectory
  | cons step rest ih =>
    cases step with
    | stay => exact ih hhere h
    | up => exact ih (ht.parent hhere) h
    | slash =>
      rw [walkSteps] at h ⊢
      split at h
      · cases h
        subst hplace
        exact absurd hhere hdirectory
      · next hrest =>
        rw [if_neg hrest]
        exact ih hhere h
    | enter name =>
      obtain ⟨hrefuses, hshort, henters⟩ := enters_of_walkSteps h
      -- a directory or a link on the way stands elsewhere
      have hkept : ∀ {n}, t.node? (here ++ [name]) = some n → t.node? l ≠ some n →
          (t.put l (.file content)).node? (here ++ [name]) = some n := by
        intro n hn hl
        rw [node?_put_of_ne t ?_, hn]
        rintro rfl
        exact hl hn
      cases henters with
      | ends hends hslash hnone =>
        have hrest : rest = [] := by
          simpa [LastPart.refuses, hslash] using hrefuses
        subst hrest hends hplace
        refine ⟨rfl, walkSteps_of_enters rfl hshort (.ends rfl rfl (.inr ⟨content, hself⟩))⟩
      | keeps _ hkeeps => cases hkeeps
      | goesOn hthere h =>
        obtain ⟨hslash, hput⟩ := ih hthere h
        exact ⟨hslash, walkSteps_of_enters rfl hshort (.goesOn (hkept hthere hdirectory) hput)⟩
      | follows _ hthere h =>
        obtain ⟨hslash, hput⟩ := hfollow (by split; rfl; exact hhere) h
        exact ⟨hslash, walkSteps_of_enters rfl hshort
          (.follows rfl (hkept hthere (hlink _)) hput)⟩

theorem walkFollowing_put (ht : t.Sound) (hdirectory : t.node? place.location ≠ some .directory)
    (hlink : ∀ target, t.node? place.location ≠ some (.link target)) {links : Nat}
    (hhere : t.node? here = some .directory)
    (h : t.walkFollowing .followToFile links here steps = .ok place) :
    place.slash = false ∧
      (t.put place.location (.file content)).walkFollowing .follow links here steps =
        .ok place := by
  induction links generalizing here steps with
  | zero =>
    refine walkSteps_put ht hdirectory hlink ?_ hhere h rfl
    intro here steps _ herror
    cases herror
  | succ links ih => exact walkSteps_put ht hdirectory hlink ih hhere h rfl

/-- A path leads to the file that was put where it led. -/
theorem resolve_put (ht : t.Sound) (hdirectory : t.node? place.location ≠ some .directory)
    {p : Path} (h : t.resolve .followToFile p = .ok place) (content : ByteArray) :
    place.slash = false ∧
      (t.put place.location (.file content)).resolve .follow p = .ok place := by
  have hlink := ne_link_of_resolve ht (fun _ => rfl) h
  have hstart := ht.start p.isAbsolute
  unfold resolve at h ⊢
  rw [workingDirectory_put]
  generalize (if p.isAbsolute then [] else t.workingDirectory) = start at h hstart ⊢
  split_ifs at h ⊢
  exact walkFollowing_put ht hdirectory hlink hstart h

/-- A file is written where its path leads, unless that is a directory. -/
theorem exists_of_write {p : Path} (h : t.write p content = .ok t') :
    ∃ place, t.resolve .followToFile p = .ok place ∧
      t.node? place.location ≠ some .directory ∧ t' = t.put place.location (.file content) := by
  unfold write at h
  rcases hresolve : t.resolve .followToFile p with e | place
  · rw [hresolve] at h
    cases h
  · rw [hresolve] at h
    change (if (t.node? place.location).any FileNode.isDirectory then
      Except.error FileError.isADirectory
      else Except.ok (t.put place.location (.file content))) = .ok t' at h
    split at h
    · cases h
    · next hnone =>
      cases h
      refine ⟨place, rfl, ?_, rfl⟩
      intro hdirectory
      rw [hdirectory] at hnone
      exact hnone rfl

/-- A path that leads to a file names it. -/
theorem find_of_resolve {p : Path} (h : t.resolve last p = .ok place) (hslash : place.slash = false)
    (hfile : t.node? place.location = some (.file content)) :
    t.find last p = .ok (place.location, .file content) := by
  unfold find
  rw [h]
  simp [hfile, hslash, bind, Except.bind]

/-- The path of a file that was written names it. -/
theorem find_put (ht : t.Sound) (hdirectory : t.node? place.location ≠ some .directory) {p : Path}
    (h : t.resolve .followToFile p = .ok place) (content : ByteArray) :
    (t.put place.location (.file content)).find .follow p =
      .ok (place.location, .file content) := by
  have hself : (t.put place.location (.file content)).node? place.location =
      some (.file content) := by
    refine node?_put_self t ?_ _
    intro hroot
    rw [hroot] at hdirectory
    exact hdirectory rfl
  obtain ⟨hslash, hput⟩ := resolve_put ht hdirectory h content
  exact find_of_resolve hput hslash hself

/-- The content that was written is read. -/
theorem read_write (ht : t.Sound) {p : Path} (h : t.write p content = .ok t') :
    t'.read p = .ok content := by
  obtain ⟨place, hresolve, hdirectory, rfl⟩ := exists_of_write h
  unfold read
  rw [find_put ht hdirectory hresolve content]
  rfl

theorem fromUTF8?_toUTF8 (text : String) : String.fromUTF8? text.toUTF8 = some text := by
  unfold String.fromUTF8?
  rw [String.toUTF8_eq_toByteArray, dif_pos text.isValidUTF8]
  rfl

/-- The text that was written is read. -/
theorem readText_write (ht : t.Sound) {p : Path} {text : String}
    (h : t.write p text.toUTF8 = .ok t') : t'.readText p = .ok text := by
  unfold readText
  rw [read_write ht h]
  simp only [bind, Except.bind, fromUTF8?_toUTF8]

end write

end Dialogue.FileTree
