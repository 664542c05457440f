import Mathlib.Algebra.Order.BigOperators.Group.List
import Mathlib.Algebra.Order.Group.Nat
import Dialogue.Command.Run
import Dialogue.Proofs.Batch.Inputs

/-!
# Two ways to say which files are scripts

The extension of script files can be given on the command line or in the settings. Both come to the
same comparison in the walk through a directory, and nothing else asks for it
(`Batch.importSource_withExtension`). But dots at the start of an extension are dropped on the
command line only, and no extension of a file holds a dot (`Path.dot_notMem_extension?`), so in the
settings such an extension finds nothing (`FileTree.files_collect_of_dot`).

So both ways come to the same as long as the extension starts with no dot or there is nothing to
find (`Invocation.run_extension`), and else the import on the command line finds files of which the
other one says nothing (`Invocation.run_extension_ne`).
-/

namespace Dialogue

/-! ## The comparison -/

/-- No extension of a path holds a dot. -/
theorem Path.dot_notMem_extension? {p : Path} {e : String} (h : p.extension? = some e) :
    '.' ∉ e.toList := by
  unfold Path.extension? at h
  split at h
  · cases h
  · split at h
    · cases h
    · split at h
      · cases h
      · cases h
      · cases h
        rw [String.toList_ofList, List.mem_reverse]
        intro hdot
        simpa using List.mem_takeWhile_imp hdot

theorem eq_dot_of_toLower {c : Char} (h : c.toLower = '.') : c = '.' := by
  unfold Char.toLower at h
  split at h
  · next hupper =>
    have hval : c.val + ('a'.val - 'A'.val) = '.'.val := congrArg Char.val h
    have hnat := congrArg UInt32.toNat hval
    have hlow : 'A'.val.toNat ≤ c.val.toNat := hupper.1
    have hhigh : c.val.toNat ≤ 'Z'.val.toNat := hupper.2
    rw [UInt32.toNat_add] at hnat
    simp at hnat hlow hhigh
    omega
  · exact h

/-- No path has an extension that starts with a dot. -/
theorem Path.hasExtension_of_dot {e : String} (h : e.toList.head? = some '.') (p : Path) :
    p.hasExtension e = false := by
  unfold Path.hasExtension
  split
  · rfl
  · next own hown =>
    obtain ⟨rest, he⟩ := List.head?_eq_some_iff.1 h
    rw [decide_eq_false_iff_not]
    intro hsame
    rw [he, List.map_cons] at hsame
    have hmem : Char.toLower '.' ∈ own.toList.map Char.toLower := by
      rw [hsame]
      exact List.mem_cons_self
    obtain ⟨c, hc, hlower⟩ := List.mem_map.1 hmem
    exact Path.dot_notMem_extension? hown (eq_dot_of_toLower hlower ▸ hc)

/-! ## The walk -/

/-- Scans one after another find what each of them finds, and pass over what each of them passes
over. -/
theorem Scan.foldl_append (s : Scan) (scans : List Scan) :
    scans.foldl Scan.append s =
      ⟨s.files ++ scans.flatMap Scan.files, s.errors ++ scans.flatMap Scan.errors⟩ := by
  induction scans generalizing s with
  | nil => simp
  | cons scan scans ih => simp [ih, Scan.append]

namespace FileTree

variable {files : FileTree} {e : String}

/-- A walk for an extension that no path has finds nothing, and passes over what a walk for any
other extension passes over. -/
theorem collectFrom_eq (h : ∀ p : Path, p.hasExtension e = false) (e' : String) (depth : Nat)
    (within : List (Path × Location)) (p : Path) :
    files.collectFrom e depth within p = ⟨[], (files.collectFrom e' depth within p).errors⟩ := by
  induction depth generalizing within p with
  | zero => rfl
  | succ depth ih =>
    -- the same names are walked, and the induction hypothesis is about each of them
    have henter : ∀ l, ((files.sortedNames l).map fun name =>
        files.collectFrom e depth ((p, l) :: within) (p.join ⟨name⟩)).foldl
          Scan.append Scan.empty =
        ⟨[], (((files.sortedNames l).map fun name =>
          files.collectFrom e' depth ((p, l) :: within) (p.join ⟨name⟩)).foldl
            Scan.append Scan.empty).errors⟩ := by
      intro l
      simp [Scan.foldl_append, Scan.empty, List.flatMap_map, ih]
    simp only [collectFrom, h, Bool.false_eq_true, if_false]
    split
    · rfl
    · exact henter _
    · rfl
    · split
      · rfl
      · split
        · rfl
        · exact henter _
      · rfl

theorem collect_eq_of_dot (h : e.toList.head? = some '.') (p : Path) (e' : String) :
    files.collect p e = ⟨[], (files.collect p e').errors⟩ :=
  collectFrom_eq (Path.hasExtension_of_dot h) e' _ _ p

/-- An extension that starts with a dot finds nothing. -/
theorem files_collect_of_dot (h : e.toList.head? = some '.') (p : Path) :
    (files.collect p e).files = [] := by
  rw [collect_eq_of_dot h p e]

/-- What a walk passes over does not depend on the extension. -/
theorem errors_collect (p : Path) (e e' : String) :
    (files.collect p e).errors = (files.collect p e').errors := by
  have hnone : ∀ e, (files.collect p ".").errors = (files.collect p e).errors := by
    intro e
    rw [collect_eq_of_dot rfl p e]
  exact (hnone e).symm.trans (hnone e')

end FileTree

/-! ## The errands -/

section errands

variable {files : FileTree} {e e' : String} {inputs : List Path}

/-- The errands for an input are the same if the same files are found in it. -/
theorem errandsOf_congr {input : Path}
    (h : files.holdsDirectory input = true →
      (files.collect input e).files = (files.collect input e').files) :
    errandsOf files.collect files e input = errandsOf files.collect files e' input := by
  unfold errandsOf
  split
  · next hdirectory => rw [h hdirectory, FileTree.errors_collect input e e']
  · rfl

/-- As many errands as for an extension that finds nothing are only those about what was passed
over. -/
theorem files_eq_nil_of_length_errands (hnone : ∀ p, (files.collect p e').files = [])
    (h : (inputs.flatMap (errandsOf files.collect files e)).length =
      (inputs.flatMap (errandsOf files.collect files e')).length) :
    ∀ input ∈ inputs, files.holdsDirectory input = true → (files.collect input e).files = [] := by
  have hdirectory : ∀ input, files.holdsDirectory input = true →
      (errandsOf files.collect files e input).length =
        (errandsOf files.collect files e' input).length + (files.collect input e).files.length := by
    intro input hinput
    simp [errandsOf, hinput, hnone, FileTree.errors_collect input e e']
  have hle : ∀ input, (errandsOf files.collect files e' input).length ≤
      (errandsOf files.collect files e input).length := by
    intro input
    by_cases hinput : files.holdsDirectory input = true
    · rw [hdirectory input hinput]
      exact Nat.le_add_right _ _
    · simp [errandsOf, hinput]
  intro input hinput hheld
  by_contra hne
  have hlt : (errandsOf files.collect files e' input).length <
      (errandsOf files.collect files e input).length := by
    rw [hdirectory input hheld]
    have hpos := List.length_pos_iff.2 hne
    omega
  rw [List.length_flatMap, List.length_flatMap] at h
  exact absurd h (Nat.ne_of_gt (List.sum_lt_sum _ _ (fun i _ => hle i) ⟨input, hinput, hlt⟩))

end errands

/-! ## The batch -/

namespace Batch

/-- The batch with another extension in its options. -/
def withExtension (b : Batch) (e : String) : Batch :=
  { b with options := { b.options with extension := e } }

variable {files : FileTree}

/-- A source is imported without a look at the extension. -/
theorem importSource_withExtension (b : Batch) (e : String) (s : Source) :
    ((b.withExtension e).importSource s).2 = (b.importSource s).2.withExtension e := by
  have hassemble : ∀ nodes db pending,
      assemble nodes { b.options with extension := e } db pending =
        assemble nodes b.options db pending := fun _ _ _ => rfl
  unfold importSource
  simp only [withExtension, report, hassemble]
  split
  · rfl
  · split <;> rfl

theorem perform_withExtension (b : Batch) (e : String) (errand : Errand) :
    (b.withExtension e).perform files errand = (b.perform files errand).withExtension e := by
  cases errand with
  | passOver | miss => rfl
  | read file =>
    simp only [perform, importFile]
    split
    · exact importSource_withExtension b e _
    · rfl

theorem foldl_perform_withExtension (b : Batch) (e : String) (errands : List Errand) :
    errands.foldl (perform files) (b.withExtension e) =
      (errands.foldl (perform files) b).withExtension e := by
  induction errands generalizing b with
  | nil => rfl
  | cons errand errands ih => rw [List.foldl_cons, List.foldl_cons, perform_withExtension, ih]

end Batch

/-- An import of paths does its errands one after another. -/
theorem importPaths_eq (files : FileTree) (db : Database) (inputs : List Path)
    (options : ImportOptions) :
    importPaths files db inputs options =
      ((inputs.flatMap (errandsOf files.collect files options.extension)).foldl
        (Batch.perform files) (.start db options)).finish := by
  unfold importPaths importPathsBy
  rw [Batch.foldl_importPathBy]
  rfl

/-- Two extensions for which there are the same errands give the same report and the same
database. -/
theorem importPaths_congr {files : FileTree} {inputs : List Path} {options : ImportOptions}
    {e : String}
    (h : inputs.flatMap (errandsOf files.collect files options.extension) =
      inputs.flatMap (errandsOf files.collect files e)) (db : Database) :
    importPaths files db inputs options =
      importPaths files db inputs { options with extension := e } := by
  have hstart : Batch.start db { options with extension := e } =
      (Batch.start db options).withExtension e := rfl
  rw [importPaths_eq, importPaths_eq, hstart, Batch.foldl_perform_withExtension, h]
  rfl

/-- The report of an import speaks of as many paths as there are errands. -/
theorem length_errands (files : FileTree) (db : Database) (inputs : List Path)
    (options : ImportOptions) :
    (inputs.flatMap (errandsOf files.collect files options.extension)).length =
      (importPaths files db inputs options).1.imported.length +
        (importPaths files db inputs options).1.skipped.length := by
  have hpaths :=
    (importPathsBy_accountsFor files.collect files db inputs options).paths.length_eq
  simp only [List.length_append, List.length_map] at hpaths
  exact hpaths.symm

/-! ## The command -/

namespace Settings

/-- The settings with another extension. -/
def withExtension (s : Settings) (e : String) : Settings :=
  { s with importOptions := { s.importOptions with extension := e } }

end Settings

/-- Whether an extension comes to the same on the command line and in the settings: it starts with
no dot, or the directories among the inputs hold nothing that has it without its dots. -/
def ComesToTheSame (files : FileTree) (inputs : List Path) (e : String) : Prop :=
  e.toList.head? ≠ some '.' ∨
    ∀ input ∈ inputs, files.holdsDirectory input = true →
      (files.collect input (String.ofList (e.toList.dropWhile (· = '.')))).files = []

section command

variable {files : FileTree} {settings : Settings} {r : ImportRequest} {e : String}
  {inputs : List Path}

/-- An extension that starts with no dot has none to drop. -/
theorem dropDots_eq_self (h : e.toList.head? ≠ some '.') :
    String.ofList (e.toList.dropWhile (· = '.')) = e := by
  have hdrop : e.toList.dropWhile (· = '.') = e.toList := by
    rcases he : e.toList with _ | ⟨c, s⟩
    · rfl
    · rw [he, List.head?_cons] at h
      rw [List.dropWhile_cons_of_neg (by simpa using h)]
  rw [hdrop, String.ofList_toList]

/-- Where an extension comes to the same both ways, the same files are found. -/
theorem ComesToTheSame.errandsOf_eq (h : ComesToTheSame files inputs e) {input : Path}
    (hinput : input ∈ inputs) :
    errandsOf files.collect files (String.ofList (e.toList.dropWhile (· = '.'))) input =
      errandsOf files.collect files e input := by
  by_cases hdot : e.toList.head? = some '.'
  · refine errandsOf_congr fun hdirectory => ?_
    obtain hne | hnone := h
    · exact absurd hdot hne
    · rw [hnone input hinput hdirectory, files.files_collect_of_dot hdot]
  · rw [dropDots_eq_self hdot]

/-- The imports are the same exactly if the extension comes to the same both ways. -/
theorem importPaths_extension_iff (files : FileTree) (db : Database) (inputs : List Path)
    (options : ImportOptions) (e : String) :
    importPaths files db inputs
        { options with extension := String.ofList (e.toList.dropWhile (· = '.')) } =
      importPaths files db inputs { options with extension := e } ↔
        ComesToTheSame files inputs e := by
  constructor
  · intro h
    by_cases hdot : e.toList.head? = some '.'
    · have hflag := length_errands files db inputs
        { options with extension := String.ofList (e.toList.dropWhile (· = '.')) }
      have hkey := length_errands files db inputs { options with extension := e }
      rw [h] at hflag
      exact .inr (files_eq_nil_of_length_errands (fun p => files.files_collect_of_dot hdot p)
        (hflag.trans hkey.symm))
    · exact .inl hdot
  · intro h
    refine importPaths_congr ?_ db
    exact List.flatMap_congr fun _ hinput => h.errandsOf_eq hinput

/-- Two requests that read the same inputs, keep the same database and import the same are one
run. -/
theorem ImportRequest.run_congr {r' : ImportRequest} {settings' : Settings}
    (hinputs : r.inputs settings = r'.inputs settings')
    (hdatabase : r.databasePath settings = r'.databasePath settings')
    (hstrict : r.strict = r'.strict) (hdry : r.dryRun = r'.dryRun)
    (himported : ∀ db, importPaths files db (r.inputs settings) (r.options settings) =
      importPaths files db (r'.inputs settings') (r'.options settings')) :
    r.run settings files = r'.run settings' files := by
  rw [hinputs] at himported
  simp only [ImportRequest.run, hinputs, hdatabase, hstrict, hdry, himported]

end command

/-- The extension of script files on the command line, where the settings may say what they like,
and the same extension in the settings. The report and the database are the same exactly if the
extension starts with no dot or there is nothing to find. Then the same files are found, and the
whole run is the same. -/
theorem Invocation.run_extension {files : FileTree} {flagFile keyFile : Option Path}
    {settings : Settings} {e : String} (hflag : Settings.load files flagFile = .ok settings)
    (hkey : Settings.load files keyFile = .ok (settings.withExtension e)) (r : ImportRequest) :
    let flagged : ImportRequest := { r with extension := some e }
    let keyed : ImportRequest := { r with extension := none }
    let keySettings := settings.withExtension e
    (∀ db,
      importPaths files db (flagged.inputs settings) (flagged.options settings) =
        importPaths files db (keyed.inputs keySettings) (keyed.options keySettings) ↔
          ComesToTheSame files (r.inputs settings) e) ∧
    (ComesToTheSame files (r.inputs settings) e →
      (∀ input ∈ r.inputs settings,
        errandsOf files.collect files (flagged.options settings).extension input =
          errandsOf files.collect files (keyed.options keySettings).extension input) ∧
      Invocation.run ⟨flagFile, .importScripts flagged⟩ files =
        Invocation.run ⟨keyFile, .importScripts keyed⟩ files) := by
  intro flagged keyed keySettings
  have hreports : ∀ db,
      importPaths files db (flagged.inputs settings) (flagged.options settings) =
        importPaths files db (keyed.inputs keySettings) (keyed.options keySettings) ↔
          ComesToTheSame files (r.inputs settings) e := fun db =>
    importPaths_extension_iff files db (r.inputs settings) settings.importOptions e
  refine ⟨hreports, fun hsame => ⟨fun _ hinput => hsame.errandsOf_eq hinput, ?_⟩⟩
  have hruns : flagged.run settings files = keyed.run keySettings files :=
    ImportRequest.run_congr rfl rfl rfl rfl fun db => (hreports db).2 hsame
  simp only [Invocation.run, hflag, hkey, Command.run]
  exact hruns

/-- A directory with a script whose extension is not the standard one, and a settings file that
names the extension. -/
def namedFolder (e : String) : FileTree where
  workingDirectory := []
  nodes := [(["s"], .directory), (["s", "a.dlg"], .file "title: Hall\nBob: Hi".toUTF8),
    (["k.toml"], .file ("[import]\nextension = \"" ++ e ++ "\"\n").toUTF8)]

/-- An import of the directory. -/
def namedRequest : ImportRequest := ⟨[⟨"s"⟩], none, none, false, false⟩

theorem Invocation.run_extension_dlg :
    Settings.load (namedFolder "dlg") none = .ok .standard ∧
      Settings.load (namedFolder "dlg") (some ⟨"k.toml"⟩) =
        .ok (Settings.standard.withExtension "dlg") ∧
      Invocation.run ⟨none, .importScripts { namedRequest with extension := some "dlg" }⟩
          (namedFolder "dlg") =
        Invocation.run ⟨some ⟨"k.toml"⟩, .importScripts namedRequest⟩ (namedFolder "dlg") := by
  have hflag : Settings.load (namedFolder "dlg") none = .ok .standard := by decide +kernel
  have hkey : Settings.load (namedFolder "dlg") (some ⟨"k.toml"⟩) =
      .ok (Settings.standard.withExtension "dlg") := by decide +kernel
  exact ⟨hflag, hkey, ((Invocation.run_extension hflag hkey namedRequest).2 (.inl (by decide))).2⟩

/-- With a dot before it the extension finds the script on the command line, and nothing in the
settings. -/
theorem Invocation.run_extension_ne :
    ¬ ∀ (files : FileTree) (flagFile keyFile : Option Path) (settings : Settings) (e : String)
      (r : ImportRequest), Settings.load files flagFile = .ok settings →
        Settings.load files keyFile = .ok (settings.withExtension e) → ∀ db,
          importPaths files db (r.inputs settings)
              (ImportRequest.options { r with extension := some e } settings) =
            importPaths files db (r.inputs settings)
              (ImportRequest.options { r with extension := none } (settings.withExtension e)) := by
  intro h
  have hflag : Settings.load (namedFolder ".dlg") none = .ok .standard := by decide +kernel
  have hkey : Settings.load (namedFolder ".dlg") (some ⟨"k.toml"⟩) =
      .ok (Settings.standard.withExtension ".dlg") := by decide +kernel
  have hsame := congrArg (fun result => result.1.imported.length)
    (h _ none (some ⟨"k.toml"⟩) .standard ".dlg" namedRequest hflag hkey .empty)
  revert hsame
  decide +kernel

end Dialogue
