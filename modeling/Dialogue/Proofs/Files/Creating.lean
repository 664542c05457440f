import Mathlib.Data.List.Induction
import Dialogue.Proofs.Files.Ancestors
import Dialogue.Proofs.Files.Writing

/-!
# Creating the directories above a path

Creating directories changes a tree only where nothing was (`GrowsInto`), so a path that led
somewhere leads there afterwards (`resolve_of_growsInto`). A path may lead somewhere else only if
it led nowhere before, and then it goes through a directory that has been created
(`makeDirectories_cases`). If it does not go up again, it ends below that directory, where nothing
was (`prefix_of_walkSteps_append`): only directories stand at and below a directory that has just
been created (`Bare`), so no link leads away from it.

So a file that was there before is found by a path after its directories have been created only if
it was found by the path before, unless the path goes up again behind a directory that was missing
(`find_of_not_climbsBack`).
-/

namespace Dialogue

/-- The path goes up again behind a piece of it that names nothing. -/
def Path.ClimbsBack (p : Path) (t : FileTree) : Prop :=
  ∃ (q : Path) (rest : List Char), q.text.toList ≠ [] ∧
    p.text.toList = q.text.toList ++ '/' :: rest ∧ t.holds q = false ∧
      .up ∈ (Path.mk (String.ofList rest)).steps

namespace FileTree

variable {t t' t'' : FileTree} {here l : Location} {name : String} {steps more : List Step}
  {place d : Place} {last : LastPart} {p : Path}
  {followLink followLink' : Location → List Step → Except FileError Place}

/-! ## Trees with more directories -/

/-- The second tree is the first one with directories where nothing was. -/
structure GrowsInto (t t' : FileTree) : Prop where
  workingDirectory : t'.workingDirectory = t.workingDirectory
  node? : ∀ l, t'.node? l = t.node? l ∨ t.node? l = none ∧ t'.node? l = some .directory

namespace GrowsInto

theorem refl (t : FileTree) : t.GrowsInto t := ⟨rfl, fun _ => .inl rfl⟩

theorem trans (h : t.GrowsInto t') (h' : t'.GrowsInto t'') : t.GrowsInto t'' := by
  refine ⟨h'.workingDirectory.trans h.workingDirectory, fun l => ?_⟩
  rcases h.node? l with hl | ⟨hnone, hl⟩
  · rw [← hl]
    exact h'.node? l
  · rcases h'.node? l with hl' | ⟨hnone', -⟩
    · exact .inr ⟨hnone, hl'.trans hl⟩
    · rw [hl] at hnone'
      cases hnone'

/-- What was there is there. -/
theorem node?_of_some (h : t.GrowsInto t') {n : FileNode} (hl : t.node? l = some n) :
    t'.node? l = some n := by
  rcases h.node? l with hsame | ⟨hnone, -⟩
  · rw [hsame, hl]
  · rw [hl] at hnone
    cases hnone

/-- A directory that is put where nothing was. -/
theorem put (h : t.node? l = none) : t.GrowsInto (t.put l .directory) := by
  refine ⟨rfl, fun m => ?_⟩
  by_cases hm : m = l
  · have hl : l ≠ [] := by
      rintro rfl
      cases h
    rw [hm]
    exact .inr ⟨h, node?_put_self t hl _⟩
  · exact .inl (node?_put_of_ne t hm _)

end GrowsInto

theorem growsInto_of_makeDirectory (h : t.makeDirectory p = .ok t') : t.GrowsInto t' := by
  obtain ⟨place, -, hnone, rfl⟩ := exists_of_makeDirectory h
  exact .put hnone

/-- Where directories are created, one of them is the first. -/
theorem makeDirectoriesFrom_cases (t : FileTree) (ps : List Path) :
    (makeDirectoriesFrom ps t).2 = t ∨
      ∃ q ∈ ps, ∃ made, t.makeDirectory q = .ok made ∧
        made.GrowsInto (makeDirectoriesFrom ps t).2 := by
  induction ps with
  | nil => exact .inl rfl
  | cons p above ih =>
    have hlater : ∀ t', t' = (makeDirectoriesFrom above t).2 → t' = t ∨
        ∃ q ∈ p :: above, ∃ made, t.makeDirectory q = .ok made ∧ made.GrowsInto t' := by
      rintro t' rfl
      refine ih.imp_right ?_
      rintro ⟨q, hq, hmade⟩
      exact ⟨q, List.mem_cons_of_mem p hq, hmade⟩
    rw [makeDirectoriesFrom]
    split
    · exact .inl rfl
    · split
      · next made hmade => exact .inr ⟨p, List.mem_cons_self, made, hmade, .refl _⟩
      · split
        · next habove => exact hlater _ (by rw [habove])
        · next t' habove =>
          have habove' := hlater t' (by rw [habove])
          split
          · next hmade =>
            obtain rfl | ⟨q, hq, first, hfirst, hgrown⟩ := habove'
            · exact .inr ⟨p, List.mem_cons_self, _, hmade, .refl _⟩
            · exact .inr ⟨q, hq, first, hfirst, hgrown.trans (growsInto_of_makeDirectory hmade)⟩
          · exact habove'
      · exact .inl rfl

theorem growsInto_makeDirectories (t : FileTree) (p : Path) :
    t.GrowsInto (t.makeDirectories p).2 := by
  rcases t.makeDirectoriesFrom_cases p.ancestors with hsame | ⟨q, -, made, hmade, hgrown⟩
  · rw [makeDirectories, hsame]
    exact .refl t
  · exact (growsInto_of_makeDirectory hmade).trans hgrown

/-! ## The same way in a tree with more directories -/

theorem walkSteps_slashes (t : FileTree) (last : LastPart) (here : Location)
    (h : steps.all (· = .slash) = true) :
    t.walkSteps last followLink here steps = .ok ⟨here, !steps.isEmpty⟩ := by
  induction steps with
  | nil => rfl
  | cons step rest ih =>
    rw [List.all_cons, Bool.and_eq_true, decide_eq_true_eq] at h
    rw [h.1, walkSteps]
    split
    · rfl
    · next hrest =>
      rw [ih h.2]
      simpa using hrest

/-- A way that does not end at a link stays the same, also for a reader. -/
theorem walkSteps_of_growsInto (hgrown : t.GrowsInto t')
    (hlink : ∀ target, t.node? place.location ≠ some (.link target))
    (hfollow : ∀ {here steps}, followLink here steps = .ok place →
      followLink' here steps = .ok place)
    (h : t.walkSteps last followLink here steps = .ok place) :
    t'.walkSteps .follow followLink' here steps = .ok place := by
  induction steps generalizing here with
  | nil => exact h
  | cons step rest ih =>
    cases step with
    | stay => exact ih h
    | up => exact ih h
    | slash =>
      rw [walkSteps] at h ⊢
      split at h
      · next hrest => rw [if_pos hrest, h]
      · next hrest =>
        rw [if_neg hrest]
        exact ih h
    | enter name =>
      obtain ⟨-, hshort, henters⟩ := enters_of_walkSteps h
      refine walkSteps_of_enters rfl hshort ?_
      cases henters with
      | ends hplace hslash hnone =>
        obtain hnone | ⟨content, hfile⟩ := hnone
        · rcases hgrown.node? (here ++ [name]) with hsame | ⟨-, hdirectory⟩
          · exact .ends hplace hslash (.inl (hsame.trans hnone))
          · refine .goesOn hdirectory ?_
            rw [walkSteps_slashes t' .follow _ hslash, hplace]
        · exact .ends hplace hslash (.inr ⟨content, hgrown.node?_of_some hfile⟩)
      | keeps hplace _ htarget =>
        subst hplace
        exact absurd htarget (hlink _)
      | goesOn hdirectory h => exact .goesOn (hgrown.node?_of_some hdirectory) (ih h)
      | follows _ htarget h => exact .follows rfl (hgrown.node?_of_some htarget) (hfollow h)

theorem walkFollowing_of_growsInto (hgrown : t.GrowsInto t')
    (hlink : ∀ target, t.node? place.location ≠ some (.link target)) {links : Nat}
    (h : t.walkFollowing last links here steps = .ok place) :
    t'.walkFollowing .follow links here steps = .ok place := by
  induction links generalizing here steps with
  | zero =>
    refine walkSteps_of_growsInto hgrown hlink ?_ h
    intro here steps herror
    cases herror
  | succ links ih => exact walkSteps_of_growsInto hgrown hlink ih h

theorem walkFollowing_of_resolve (h : t.resolve last p = .ok place) :
    t.walkFollowing last maxLinks (if p.isAbsolute then [] else t.workingDirectory) p.steps =
      .ok place := by
  unfold resolve at h
  generalize (if p.isAbsolute then [] else t.workingDirectory) = start at h ⊢
  split_ifs at h
  exact h

theorem resolve_of_growsInto (hgrown : t.GrowsInto t')
    (hlink : ∀ target, t.node? place.location ≠ some (.link target))
    (h : t.resolve last p = .ok place) : t'.resolve .follow p = .ok place := by
  unfold resolve at h ⊢
  rw [hgrown.workingDirectory]
  generalize (if p.isAbsolute then [] else t.workingDirectory) = start at h ⊢
  split_ifs at h ⊢
  exact walkFollowing_of_growsInto hgrown hlink h

/-! ## Below a new directory -/

/-- A way ends where there is nothing or a file. -/
theorem false_of_ends {n : FileNode}
    (hends : t.node? l = none ∨ ∃ content, t.node? l = some (.file content))
    (hl : t.node? l = some n) (hn : ∀ content, n ≠ .file content) : False := by
  obtain hnone | ⟨content, hfile⟩ := hends
  · rw [hl] at hnone
    cases hnone
  · rw [hl] at hfile
    exact hn content (Option.some.inj hfile)

theorem Enters.of_directory (h : t.Enters last followLink here l steps place)
    (hl : t.node? l = some .directory) : t.walkSteps last followLink l steps = .ok place := by
  cases h with
  | ends _ _ hends => exact (false_of_ends hends hl (by simp)).elim
  | keeps _ _ hlink => exact absurd (hlink.symm.trans hl) (by simp)
  | goesOn _ h => exact h
  | follows _ hlink => exact absurd (hlink.symm.trans hl) (by simp)

theorem Enters.of_link (h : t.Enters last followLink here l steps place) {target : Path}
    (hl : t.node? l = some (.link target)) (hkeeps : last.keeps steps = false) :
    followLink (if target.isAbsolute then [] else here) (target.steps ++ steps) = .ok place := by
  cases h with
  | ends _ _ hends => exact (false_of_ends hends hl (by simp)).elim
  | keeps _ hkept =>
    rw [hkept] at hkeeps
    cases hkeeps
  | goesOn hdirectory => exact absurd (hdirectory.symm.trans hl) (by simp)
  | follows _ hlink h =>
    rw [hl] at hlink
    cases hlink
    exact h

/-- At and below this place stands nothing but directories. -/
def Bare (t : FileTree) (l : Location) : Prop :=
  ∀ m, l <+: m → t.node? m = none ∨ t.node? m = some .directory

theorem Bare.ne_link (h : t.Bare l) {m : Location} (hm : l <+: m) (target : Path) :
    t.node? m ≠ some (.link target) := by
  intro htarget
  rcases h m hm with hnone | hdirectory
  · rw [htarget] at hnone
    cases hnone
  · rw [htarget] at hdirectory
    cases hdirectory

/-- A way that does not go up stays below a bare place. -/
theorem prefix_of_walkSteps (hbare : t.Bare d.location) (hup : .up ∉ more)
    (hhere : d.location <+: here) (h : t.walkSteps last followLink here more = .ok place) :
    d.location <+: place.location := by
  induction more generalizing here with
  | nil =>
    cases h
    exact hhere
  | cons step rest ih =>
    rw [List.mem_cons, not_or] at hup
    cases step with
    | stay => exact ih hup.2 hhere h
    | up => exact absurd rfl hup.1
    | slash =>
      rw [walkSteps] at h
      split at h
      · cases h
        exact hhere
      · exact ih hup.2 hhere h
    | enter name =>
      have hthere : d.location <+: here ++ [name] := hhere.trans (List.prefix_append _ _)
      obtain ⟨-, -, henters⟩ := enters_of_walkSteps h
      cases henters with
      | ends hplace =>
        rw [hplace]
        exact hthere
      | keeps _ _ htarget => exact absurd htarget (hbare.ne_link hthere _)
      | goesOn _ h => exact ih hup.2 hthere h
      | follows _ htarget => exact absurd htarget (hbare.ne_link hthere _)

/-- A way that leads to a bare directory and goes on, but not up, stays below it. -/
theorem prefix_of_walkSteps_append (hdirectory : t.node? d.location = some .directory)
    (hbare : t.Bare d.location) (hup : .up ∉ more)
    (hfollow : ∀ {here steps}, followLink here steps = .ok d →
      followLink here (steps ++ more) = .ok place → d.location <+: place.location)
    (h : t.walkSteps .follow followLink here steps = .ok d)
    (hmore : t.walkSteps .follow followLink here (steps ++ more) = .ok place) :
    d.location <+: place.location := by
  -- both ways take the same steps until the first one has come to its end
  induction steps generalizing here with
  | nil =>
    cases h
    exact prefix_of_walkSteps hbare hup (List.prefix_refl _) hmore
  | cons step rest ih =>
    rw [List.cons_append] at hmore
    cases step with
    | stay => exact ih h hmore
    | up => exact ih h hmore
    | slash =>
      rw [walkSteps] at h hmore
      split at h
      · next hrest =>
        cases h
        rw [List.isEmpty_iff.1 hrest, List.nil_append] at hmore
        split at hmore
        · cases hmore
          exact List.prefix_refl _
        · exact prefix_of_walkSteps hbare hup (List.prefix_refl _) hmore
      · next hrest =>
        rw [if_neg (by simp_all)] at hmore
        exact ih h hmore
    | enter name =>
      obtain ⟨-, -, henters⟩ := enters_of_walkSteps h
      obtain ⟨-, -, henters'⟩ := enters_of_walkSteps hmore
      cases henters with
      | ends hplace _ hends =>
        rw [hplace] at hdirectory
        exact (false_of_ends hends hdirectory (by simp)).elim
      | keeps _ hkeeps => cases hkeeps
      | goesOn hthere h => exact ih h (henters'.of_directory hthere)
      | follows _ htarget h =>
        have hmore := henters'.of_link htarget rfl
        rw [← List.append_assoc] at hmore
        exact hfollow h hmore

theorem prefix_of_walkFollowing_append (hdirectory : t.node? d.location = some .directory)
    (hbare : t.Bare d.location) (hup : .up ∉ more) {links : Nat}
    (h : t.walkFollowing .follow links here steps = .ok d)
    (hmore : t.walkFollowing .follow links here (steps ++ more) = .ok place) :
    d.location <+: place.location := by
  induction links generalizing here steps with
  | zero =>
    refine prefix_of_walkSteps_append hdirectory hbare hup ?_ h hmore
    intro here steps herror
    cases herror
  | succ links ih => exact prefix_of_walkSteps_append hdirectory hbare hup ih h hmore

/-! ## Files that were there before -/

/-- Nothing stands below a place that holds nothing. -/
theorem Sound.none_of_prefix (ht : t.Sound) {l m : Location} (hl : t.node? l = none)
    (hm : l <+: m) : t.node? m = none := by
  obtain ⟨names, rfl⟩ := hm
  induction names using List.reverseRecOn with
  | nil => rwa [List.append_nil]
  | append_singleton names name ih =>
    rw [← List.append_assoc]
    rcases hnode : t.node? (l ++ names ++ [name]) with _ | n
    · rfl
    · have hparent := ht.parent hnode
      rw [List.dropLast_concat, ih] at hparent
      cases hparent

/-- A path that goes on, and not up, from a directory that has just been created ends where nothing
was. -/
theorem none_of_makeDirectory (ht : t.Sound) {q : Path} (habsolute : p.isAbsolute = q.isAbsolute)
    (hsteps : p.steps = q.steps ++ more) {made : FileTree} (hmade : t.makeDirectory q = .ok made)
    (hgrown : made.GrowsInto t') (hup : .up ∉ more) (hplace : t'.resolve .follow p = .ok place) :
    t.node? place.location = none := by
  obtain ⟨d, hd, hnone, rfl⟩ := exists_of_makeDirectory hmade
  have hwhole := (GrowsInto.put hnone).trans hgrown
  have hlink : ∀ target, t.node? d.location ≠ some (.link target) := by
    intro target htarget
    rw [hnone] at htarget
    cases htarget
  have hroot : d.location ≠ [] := by
    intro hroot
    rw [hroot] at hnone
    cases hnone
  have hdirectory : t'.node? d.location = some .directory :=
    hgrown.node?_of_some (node?_put_self t hroot _)
  have hbare : t'.Bare d.location := by
    intro l hl
    have hl := ht.none_of_prefix hnone hl
    exact (hwhole.node? l).imp (fun hsame => hsame.trans hl) And.right
  have hfirst := walkFollowing_of_resolve (resolve_of_growsInto hwhole hlink hd)
  have hall := walkFollowing_of_resolve hplace
  rw [hsteps, habsolute] at hall
  exact ht.none_of_prefix hnone (prefix_of_walkFollowing_append hdirectory hbare hup hfirst hall)

/-- A path that names something leads there. -/
theorem exists_of_find {n : FileNode} (h : t.find last p = .ok (l, n)) :
    ∃ place, t.resolve last p = .ok place ∧ place.location = l ∧ t.node? l = some n := by
  unfold find at h
  rcases hresolve : t.resolve last p with e | place
  · rw [hresolve] at h
    cases h
  · rw [hresolve] at h
    simp only [bind, Except.bind] at h
    refine ⟨place, rfl, ?_⟩
    split at h
    · cases h
    · next hfile =>
      split_ifs at h
      cases h
      exact ⟨rfl, hfile⟩
    · next _ hnode =>
      cases h
      exact ⟨rfl, hnode⟩

/-- A path to a directory that is made names nothing before. -/
theorem holds_of_makeDirectory {q : Path} {made : FileTree} (hmade : t.makeDirectory q = .ok made) :
    t.holds q = false := by
  obtain ⟨d, hd, hnone, -⟩ := exists_of_makeDirectory hmade
  have hread : t.resolve .follow q = .ok d := resolve_of_growsInto (.refl t) (by simp [hnone]) hd
  simp [holds, find, hread, hnone, bind, Except.bind]

/-- What is written into once the directories above a path are there is a file that the path led to
before, or there was no file. Only a path that goes up again behind a piece that named nothing may
be led into another file. -/
theorem find_of_not_climbsBack (ht : t.Sound) (hway : t.holds p = true ∨ ¬ p.ClimbsBack t)
    (hplace : (t.makeDirectories p.directory).2.resolve .followToFile p = .ok place)
    {content : ByteArray} (hfile : t.node? place.location = some (.file content)) :
    t.find .follow p = .ok (place.location, .file content) := by
  have hgrown := t.growsInto_makeDirectories p.directory
  have ht' := ht.makeDirectories p.directory
  have hfile' := hgrown.node?_of_some hfile
  have hslash : place.slash = false :=
    (resolve_put ht' (by simp [hfile']) hplace content).1
  have hread : (t.makeDirectories p.directory).2.resolve .follow p = .ok place :=
    resolve_of_growsInto (.refl _) (by simp [hfile']) hplace
  rcases hway with hholds | hclimbs
  · unfold holds at hholds
    rcases hfind : t.find .follow p with e | ⟨l, n⟩
    · rw [hfind] at hholds
      cases hholds
    · obtain ⟨old, hold, rfl, hn⟩ := exists_of_find hfind
      have hsame := resolve_of_growsInto hgrown (ne_link_of_resolve ht (fun _ => rfl) hold) hold
      rw [hread] at hsame
      cases hsame
      rw [hfile] at hn
      cases hn
      rfl
  · rcases t.makeDirectoriesFrom_cases p.directory.ancestors with hsame | ⟨q, hq, made, hmade, hq'⟩
    · rw [makeDirectories, hsame] at hread
      exact find_of_resolve hread hslash hfile
    · have hmissing := holds_of_makeDirectory hmade
      have hnone : t.node? place.location = none := by
        cases Path.above_of_mem_ancestors hq with
        | empty => cases hmade
        | root => cases hmissing
        | before hnil hslash htext =>
          obtain ⟨habsolute, more, hsteps, hup⟩ := Path.exists_steps hnil hslash htext
          refine none_of_makeDirectory ht habsolute hsteps hmade hq' (fun hmore => ?_) hread
          exact hclimbs ⟨q, _, hnil, htext, hmissing, hup hmore⟩
      rw [hfile] at hnone
      cases hnone

/-- A path that goes up nowhere does not go up again. -/
theorem find_of_makeDirectories (ht : t.Sound) (hway : t.holds p = true ∨ .up ∉ p.steps)
    (hplace : (t.makeDirectories p.directory).2.resolve .followToFile p = .ok place)
    {content : ByteArray} (hfile : t.node? place.location = some (.file content)) :
    t.find .follow p = .ok (place.location, .file content) := by
  refine find_of_not_climbsBack ht (hway.imp_right ?_) hplace hfile
  rintro hup ⟨q, rest, -, htext, -, hrest⟩
  rw [Path.up_mem_steps_iff, Path.pieces_append htext, List.mem_append,
    ← Path.up_mem_steps_iff] at hup
  exact hup (.inr (Path.up_mem_steps_iff.1 hrest))

end FileTree

end Dialogue
