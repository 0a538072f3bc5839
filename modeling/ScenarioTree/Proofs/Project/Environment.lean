import ScenarioTree.Project.Environment
import ScenarioTree.Proofs.Path.Entries

/-!
# Selecting environments

An environment comes from the one file of the configuration directory whose name, without its
extension, is that of the environment. What else is in the directory does not matter, and neither
does the order of its entries. No file, or more than one, is an error, whatever the files hold.

Results:

* `Environment.mem_filter_iff`: which files are called like an environment.
* `Environment.select_congr`: the order of the entries does not matter.
* `Environment.load_outcome`: what any directory makes of an environment, wherever its values come
  from.
-/

namespace ScenarioTree

namespace Environment

/-! ## Files that are called like an environment -/

section Selection

variable {directory : Path} {name : String} {entries entries' : Entries}

theorem mem_filter_iff {file : EntryName} {tree : FileTree} :
    (file, tree) ∈ entries.filter (isNamed name) ↔
      (file, tree) ∈ entries ∧ tree.isFile = true ∧ file.IsStem name := by
  rw [List.mem_filter, isNamed, Bool.and_eq_true, beq_iff_eq, EntryName.stem?_eq_some_iff]

theorem select_of_nil (hnamed : entries.filter (isNamed name) = []) :
    select directory name entries = .error (.environment name (.noFile directory)) := by
  rw [select, candidates, hnamed]
  rfl

theorem select_of_singleton {entry : EntryName × FileTree}
    (hnamed : entries.filter (isNamed name) = [entry]) :
    select directory name entries = .ok entry.1 := by
  rw [select, candidates, hnamed]
  rfl

theorem select_of_two_le (hnamed : 2 ≤ (entries.filter (isNamed name)).length) :
    select directory name entries =
      .error (.environment name (.severalFiles (entries.filter (isNamed name)).length)) := by
  rw [select, candidates]
  generalize entries.filter (isNamed name) = named at hnamed
  match named, hnamed with
  | first :: second :: others, _ => simp

/-- There is no file that is called like an environment, or one, or more than one. -/
theorem exists_named (name : String) (entries : Entries) :
    entries.filter (isNamed name) = [] ∨
      (∃ file content, entries.filter (isNamed name) = [(file, .file content)]) ∨
      2 ≤ (entries.filter (isNamed name)).length := by
  match hnamed : entries.filter (isNamed name) with
  | [] => exact .inl rfl
  | [(file, tree)] =>
    have hfile : isNamed name (file, tree) = true :=
      (List.mem_filter.1 (hnamed ▸ List.mem_singleton_self (file, tree))).2
    cases tree with
    | file content => exact .inr (.inl ⟨file, content, rfl⟩)
    | directory inner => cases hfile
  | first :: second :: others => exact .inr (.inr (by simp))

theorem mem_of_filter_eq {file : EntryName} {content : ByteArray}
    (h : entries.filter (isNamed name) = [(file, .file content)]) :
    (file, .file content) ∈ entries :=
  (List.mem_filter.1 (h ▸ List.mem_singleton_self _)).1

/-- The order of the entries does not matter, and neither do entries that are not called like the
    environment. -/
theorem select_congr (hperm : (entries'.filter (isNamed name)).Perm (entries.filter (isNamed name))) :
    select directory name entries' = select directory name entries := by
  rcases exists_named name entries with hnone | ⟨file, content, hone⟩ | hseveral
  · rw [hnone] at hperm
    rw [select_of_nil hnone, select_of_nil hperm.eq_nil]
  · rw [hone] at hperm
    rw [select_of_singleton hone, select_of_singleton hperm.eq_singleton]
  · rw [select_of_two_le hseveral, select_of_two_le (hperm.length_eq ▸ hseveral), hperm.length_eq]

end Selection

/-! ## Loading -/

/-- Where the configuration of a project is. -/
abbrev configDirectory (project : Path) : Path := ProjectPart.configDirectory.inDirectory project

section Loading

variable {disk disk' : Disk} {source source' : Source} {project : Path} {name : String}
  {entries entries' : Entries}

/-- Without a directory there is no file. -/
theorem load_of_missing (h : disk.list (configDirectory project) = .error .notFound) :
    load disk source project name =
      .error (.environment name (.noFile (configDirectory project))) := by
  simp only [load, Environment.entries, h]
  rfl

theorem load_of_fault {fault : FileFault} (hfault : fault ≠ .notFound)
    (h : disk.list (configDirectory project) = .error fault) :
    load disk source project name = .error (.file (.io (configDirectory project) fault)) := by
  simp only [load, Environment.entries, h]
  cases fault with
  | notFound => exact absurd rfl hfault
  | _ => rfl

theorem load_of_list (h : disk.list (configDirectory project) = .ok entries) :
    load disk source project name =
      select (configDirectory project) name entries >>= fun file =>
        match source.loadEntry (configDirectory project) file with
        | .ok values => .ok ⟨name, configDirectory project, file, values⟩
        | .error error => .error (.file error) := by
  simp only [load, Environment.entries, h]
  rfl

theorem load_of_select_eq_error {error : LoadError}
    (h : disk.list (configDirectory project) = .ok entries)
    (hselect : select (configDirectory project) name entries = .error error) :
    load disk source project name = .error error := by
  rw [load_of_list h, hselect]
  rfl

theorem load_eq_ok_iff (h : disk.list (configDirectory project) = .ok entries)
    {environment : Environment} :
    load disk source project name = .ok environment ↔
      ∃ file content values, entries.filter (isNamed name) = [(file, .file content)] ∧
        source.loadEntry (configDirectory project) file = .ok values ∧
        environment = ⟨name, configDirectory project, file, values⟩ := by
  rcases exists_named name entries with hnone | ⟨file, content, hone⟩ | hseveral
  · rw [load_of_select_eq_error h (select_of_nil hnone), hnone]
    simp
  · rw [load_of_list h, select_of_singleton hone, hone]
    cases hload : source.loadEntry (configDirectory project) file with
    | error error => simp [hload, bind, Except.bind]
    | ok values => simp [hload, bind, Except.bind, eq_comm]
  · rw [load_of_select_eq_error h (select_of_two_le hseveral)]
    refine iff_of_false nofun ?_
    rintro ⟨file, content, values, hone, -⟩
    rw [hone] at hseveral
    simp at hseveral

theorem load_of_source_eq_error (h : disk.list (configDirectory project) = .ok entries)
    {file : EntryName} {content : ByteArray} {error : FileError}
    (hone : entries.filter (isNamed name) = [(file, .file content)])
    (hload : source.loadEntry (configDirectory project) file = .error error) :
    load disk source project name = .error (.file error) := by
  rw [load_of_list h, select_of_singleton hone]
  simp only [bind, Except.bind, hload]

/-- What one disk and another one list does not matter beyond the files that are called like the
    environment, and what their sources hold does not matter beyond the document of the one file. -/
theorem load_congr (h : disk.list (configDirectory project) = .ok entries)
    (h' : disk'.list (configDirectory project) = .ok entries')
    (hperm : (entries'.filter (isNamed name)).Perm (entries.filter (isNamed name)))
    (hsource : ∀ file content, entries.filter (isNamed name) = [(file, .file content)] →
      source'.loadEntry (configDirectory project) file =
        source.loadEntry (configDirectory project) file) :
    load disk' source' project name = load disk source project name := by
  rw [load_of_list h, load_of_list h', select_congr hperm]
  rcases exists_named name entries with hnone | ⟨file, content, hone⟩ | hseveral
  · rw [select_of_nil hnone]
    rfl
  · rw [select_of_singleton hone]
    simp only [bind, Except.bind, hsource file content hone]
  · rw [select_of_two_le hseveral]
    rfl

end Loading

/-! ## The files of a disk -/

section Files

variable {disk disk' : Disk} {directory : Path} {entries entries' : Entries}

/-- What has been read from a file that is there. -/
theorem document_readText (disk : Disk) (format : Format) (path : Path) (content : ByteArray) :
    disk.document format path (FileTree.file content).readText =
      match String.fromUTF8? content with
      | some text => format.parse disk.process text path
      | none => .error (.io path .invalidText) := by
  rw [FileTree.readText]
  cases String.fromUTF8? content with
  | some text => rfl
  | none => rfl

/-- A file of a directory is read in the format of its name. -/
theorem source_loadEntry_of_mem (h : disk.list directory = .ok entries)
    (hlisting : Entries.IsListing entries) {file : EntryName} {content : ByteArray}
    (hfile : (file, .file content) ∈ entries) :
    disk.source.loadEntry directory file =
      Format.ofEntry directory file >>= fun format =>
        match String.fromUTF8? content with
        | some text => format.parse disk.process text (directory.entry file)
        | none => .error (.io (directory.entry file) .invalidText) := by
  cases file with
  | text name =>
    have hread : disk.readText (directory.child name) = (FileTree.file content).readText := by
      rw [Disk.readText, Disk.tree?_child_of_mem h hlisting hfile]
      rfl
    simp only [Source.loadEntry, Disk.source, hread, document_readText]
    rfl
  | broken name =>
    have hread : disk.readEntry directory (.broken name) = (FileTree.file content).readText := by
      rw [Disk.readEntry, h]
      simp only [bind, Except.bind, hlisting.lookup_eq_some_iff.2 hfile]
    simp only [Source.loadEntry, Disk.source, hread, document_readText]

/-- Processes with the same variables read a file alike. -/
theorem source_loadEntry_congr (h : disk.list directory = .ok entries)
    (h' : disk'.list directory = .ok entries') (hlisting : Entries.IsListing entries)
    (hlisting' : Entries.IsListing entries') (hprocess : disk'.process = disk.process)
    {file : EntryName} {content : ByteArray} (hfile : (file, .file content) ∈ entries)
    (hfile' : (file, .file content) ∈ entries') :
    disk'.source.loadEntry directory file = disk.source.loadEntry directory file := by
  rw [source_loadEntry_of_mem h hlisting hfile, source_loadEntry_of_mem h' hlisting' hfile',
    hprocess]

end Files

/-- What any configuration directory makes of an environment, wherever the values come from. There is
    an environment if one file is called like it and has a document, and then it has the values of
    that document. No such file, or several, are an error that does not depend on what is in them.
    Everything else in the directory can change, and so can the order of its entries. A directory that
    is missing has no files, one that cannot be listed is reported. If the values come from the disk
    itself, then the file is read in the format of its name, with the variables of the process. -/
theorem load_outcome (disk : Disk) (source : Source) (project : Path) (name : String) :
    let directory := ProjectPart.configDirectory.inDirectory project
    let outcome := load disk source project name
    (disk.list directory = .error .notFound →
      outcome = .error (.environment name (.noFile directory))) ∧
    (∀ fault, disk.list directory = .error fault → fault ≠ .notFound →
      outcome = .error (.file (.io directory fault))) ∧
    (disk.isFile directory = true → outcome = .error (.file (.io directory .notADirectory))) ∧
    ∀ entries, disk.list directory = .ok entries →
      let named := entries.filter (isNamed name)
      (∀ file tree, (file, tree) ∈ named ↔
        (file, tree) ∈ entries ∧ tree.isFile = true ∧ file.IsStem name) ∧
      (∀ environment, outcome = .ok environment ↔
        ∃ file content values, named = [(file, .file content)] ∧
          source.loadEntry directory file = .ok values ∧
          environment = ⟨name, directory, file, values⟩) ∧
      (∀ file content error, named = [(file, .file content)] →
        source.loadEntry directory file = .error error → outcome = .error (.file error)) ∧
      (named = [] → outcome = .error (.environment name (.noFile directory))) ∧
      (2 ≤ named.length → outcome = .error (.environment name (.severalFiles named.length))) ∧
      (∀ disk' source' entries', disk'.list directory = .ok entries' →
        (entries'.filter (isNamed name)).Perm named →
        (∀ file content, named = [(file, .file content)] →
          source'.loadEntry directory file = source.loadEntry directory file) →
        load disk' source' project name = outcome) ∧
      (Entries.IsListing entries →
        (∀ file content, (file, .file content) ∈ entries →
          disk.source.loadEntry directory file =
            Format.ofEntry directory file >>= fun format =>
              match String.fromUTF8? content with
              | some text => format.parse disk.process text (directory.entry file)
              | none => .error (.io (directory.entry file) .invalidText)) ∧
        ∀ disk' entries', disk'.list directory = .ok entries' → Entries.IsListing entries' →
          disk'.process = disk.process → (entries'.filter (isNamed name)).Perm named →
          load disk' disk'.source project name = load disk disk.source project name) := by
  intro directory outcome
  refine ⟨load_of_missing, fun fault h hfault => load_of_fault hfault h,
    fun hfile => load_of_fault nofun (Disk.list_of_isFile hfile), ?_⟩
  intro entries h named
  refine ⟨fun file tree => mem_filter_iff, fun environment => load_eq_ok_iff h,
    fun file content error => load_of_source_eq_error h,
    fun hnone => load_of_select_eq_error h (select_of_nil hnone),
    fun hseveral => load_of_select_eq_error h (select_of_two_le hseveral),
    fun disk' source' entries' h' hperm hsource => load_congr h h' hperm hsource, ?_⟩
  intro hlisting
  refine ⟨fun file content => source_loadEntry_of_mem h hlisting, ?_⟩
  intro disk' entries' h' hlisting' hprocess hperm
  refine load_congr h h' hperm fun file content hone => ?_
  have hone' : entries'.filter (isNamed name) = [(file, .file content)] :=
    (hperm.trans (.of_eq hone)).eq_singleton
  exact source_loadEntry_congr h h' hlisting hlisting' hprocess (mem_of_filter_eq hone)
    (mem_of_filter_eq hone')

/-- A configuration with a directory, a file for `prod`, one whose name is no text, and one for `qa`
    that takes its value from the process. -/
def configEntries : Entries :=
  [("qa", .directory []), ("prod.json", .file .empty),
    (.broken ⟨[0xFF, 0x2E, 0x65, 0x6E, 0x76], by decide⟩, .file .empty),
    ("qa.env", .file "Y=$HOME".toUTF8)]

/-- The project with some configuration, in a process whose home directory is known. -/
def configured (entries : Entries) : Disk where
  tree := .directory [("config", .directory entries)]
  current := []
  process key := if key = "HOME" then some "/root" else none

theorem load_outcome_qa :
    load (configured configEntries) (configured configEntries).source ⟨"/"⟩ "qa" =
        .ok ⟨"qa", ⟨"/config"⟩, "qa.env", .object [("Y", .string "/root")]⟩ ∧
      load (configured configEntries.reverse) (configured configEntries.reverse).source ⟨"/"⟩ "qa" =
        load (configured configEntries) (configured configEntries).source ⟨"/"⟩ "qa" := by
  have hlisting : Entries.IsListing configEntries := ⟨by decide, by decide⟩
  have hlisting' : Entries.IsListing configEntries.reverse := ⟨by decide, by decide⟩
  obtain ⟨-, hok, -, -, -, -, hdisk⟩ :=
    (load_outcome (configured configEntries) (configured configEntries).source ⟨"/"⟩ "qa").2.2.2
      configEntries rfl
  obtain ⟨hfiles, horder⟩ := hdisk hlisting
  refine ⟨(hok _).2 ⟨"qa.env", "Y=$HOME".toUTF8, _, rfl, ?_, rfl⟩, ?_⟩
  · rw [hfiles "qa.env" "Y=$HOME".toUTF8 (by simp [configEntries])]
    rfl
  · exact horder _ _ rfl hlisting' rfl ((List.reverse_perm configEntries).filter _)

end Environment

end ScenarioTree
