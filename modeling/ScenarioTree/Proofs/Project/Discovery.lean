import ScenarioTree.Project.Discovery
import ScenarioTree.Proofs.Path.Entries

/-!
# Finding routes

The routes of a directory are the directories in it whose name is a text that ends in `_route` and
that have the file of a route. They are found in the ascending order of their names, each of them
once, in whatever order the directory lists them. A directory whose name is no text is passed over,
whatever its last bytes are.

Results:

* `Discovery.routeName?_eq_some_iff`: which entries are routes.
* `Discovery.pairwise_routeNames`, `Discovery.routeNames_congr`: the names of the routes ascend, whatever
  order the directory has.
* `Discovery.ofDisk_outcome`: which routes any directory has.
-/

namespace ScenarioTree

namespace Discovery

variable {entries entries' : Entries} {disk disk' : Disk} {directory : Path} {name : String}

/-- The file of a route is a file in a directory of its own. -/
theorem any_isFile_iff {tree : FileTree} {file : String} :
    (tree.below? file).any FileTree.isFile = true ↔
      ∃ inner content, tree = .directory inner ∧ inner.lookup (.text file) = some (.file content) := by
  cases tree with
  | file content => simp [FileTree.below?]
  | directory inner =>
    rw [FileTree.below?]
    cases hlookup : inner.lookup (.text file) with
    | none => simp [hlookup]
    | some found =>
      cases found with
      | file content => simp [FileTree.isFile, hlookup]
      | directory others => simp [FileTree.isFile, hlookup]

theorem routeName?_eq_some_iff {entry : EntryName × FileTree} : routeName? entry = some name ↔
    ∃ inner content, entry = (.text name, .directory inner) ∧
      routeSuffix.toList <:+ name.toList ∧
      inner.lookup (.text ProjectPart.routeFile.name) = some (.file content) := by
  obtain ⟨entryName, tree⟩ := entry
  cases entryName with
  | broken other => simp [routeName?, EntryName.text?]
  | text other =>
    rw [routeName?, EntryName.text?, Option.filter_eq_some_iff, Bool.and_eq_true,
      List.isSuffixOf_iff_suffix, any_isFile_iff]
    constructor
    · rintro ⟨hname, hsuffix, inner, content, rfl, hlookup⟩
      cases hname
      exact ⟨inner, content, rfl, hsuffix, hlookup⟩
    · rintro ⟨inner, content, heq, hsuffix, hlookup⟩
      cases heq
      exact ⟨rfl, hsuffix, inner, content, rfl, hlookup⟩

theorem mem_routeNames_iff : name ∈ routeNames entries ↔
    ∃ inner content, (.text name, .directory inner) ∈ entries ∧
      routeSuffix.toList <:+ name.toList ∧
      inner.lookup (.text ProjectPart.routeFile.name) = some (.file content) := by
  rw [routeNames, List.mem_mergeSort, List.mem_filterMap]
  simp only [routeName?_eq_some_iff]
  constructor
  · rintro ⟨_, hmem, inner, content, rfl, hroute⟩
    exact ⟨inner, content, hmem, hroute⟩
  · rintro ⟨inner, content, hmem, hroute⟩
    exact ⟨_, hmem, inner, content, rfl, hroute⟩

theorem pairwise_mergeSort (names : List String) :
    (names.mergeSort (· ≤ ·)).Pairwise (· ≤ ·) := by
  have htrans (a b c : String) (hab : decide (a ≤ b) = true) (hbc : decide (b ≤ c) = true) :
      decide (a ≤ c) = true :=
    decide_eq_true (String.le_trans (of_decide_eq_true hab) (of_decide_eq_true hbc))
  have htotal (a b : String) : (decide (a ≤ b) || decide (b ≤ a)) = true := by
    simpa using String.le_total a b
  exact (List.pairwise_mergeSort htrans htotal names).imp of_decide_eq_true

/-- Each route is found once. -/
theorem pairwise_routeNames (h : Entries.IsListing entries) :
    (routeNames entries).Pairwise (· < ·) := by
  have hnodup : (routeNames entries).Nodup := by
    rw [routeNames, (List.mergeSort_perm _ _).nodup_iff]
    refine (List.pairwise_map.1 h.nodup_names).filterMap _ fun entry other hne name hname => ?_
    rintro _ hother rfl
    obtain ⟨_, _, rfl, -⟩ := routeName?_eq_some_iff.1 hname
    obtain ⟨_, _, rfl, -⟩ := routeName?_eq_some_iff.1 hother
    exact hne rfl
  refine (hnodup.and (pairwise_mergeSort _)).imp fun {a b} hab => ?_
  have hne : a ≠ b := hab.1
  by_contra hnot
  exact hne (String.le_antisymm hab.2 (String.not_lt.1 hnot))

/-- The order of the entries does not matter. -/
theorem routeNames_congr (h : entries'.Perm entries) : routeNames entries' = routeNames entries := by
  have hperm : (routeNames entries').Perm (routeNames entries) :=
    (List.mergeSort_perm _ _).trans
      ((h.filterMap routeName?).trans (List.mergeSort_perm _ _).symm)
  exact hperm.eq_of_pairwise (fun a b _ _ hab hba => String.le_antisymm hab hba)
    (pairwise_mergeSort _) (pairwise_mergeSort _)

/-! ## Disks -/

theorem ofDisk_eq (h : disk.list directory = .ok entries) :
    ofDisk disk directory = .ok ((routeNames entries).map (manifest directory)) := by
  rw [ofDisk, h]

/-- Routes of different names have different documents. -/
theorem eq_of_manifest_eq {other : String} (hname : IsEntryName name) (hother : IsEntryName other)
    (h : manifest directory name = manifest directory other) : name = other := by
  have hfile : IsEntryName ProjectPart.routeFile.name := by decide
  have hsteps := congrArg Path.steps h
  rw [manifest, manifest, (Path.origin_steps_child _ hfile).2, (Path.origin_steps_child _ hfile).2,
    (Path.origin_steps_child _ hname).2, (Path.origin_steps_child _ hother).2] at hsteps
  simpa using hsteps

theorem isFile_manifest (h : disk.list directory = .ok entries) (hlisting : Entries.IsListing entries)
    (hname : name ∈ routeNames entries) :
    disk.isDirectory (directory.child name) = true ∧
      disk.isFile (manifest directory name) = true := by
  obtain ⟨inner, content, hmem, -, hlookup⟩ := mem_routeNames_iff.1 hname
  have htree := Disk.tree?_child_of_mem h hlisting hmem
  have hfile : disk.tree? (manifest directory name) = .ok (.file content) := by
    rw [manifest, Disk.tree?_child (by decide) htree, hlookup]
    rfl
  rw [Disk.isDirectory, Disk.isFile, htree, hfile]
  exact ⟨rfl, rfl⟩

/-- Which routes any directory has: the directories in it whose name is a text that ends as that of a
    route and that have a file of a route, once each, in the ascending order of their names. What is
    not a directory has none. The order in which the directory lists its entries does not matter. -/
theorem ofDisk_outcome (disk : Disk) (directory : Path) :
    (disk.isDirectory directory = false → ofDisk disk directory = .ok []) ∧
    ∀ entries, disk.list directory = .ok entries → Entries.IsListing entries →
      ∃ names : List String,
        ofDisk disk directory =
          .ok (names.map fun name => (directory.child name).child "route.yaml") ∧
        names.Pairwise (· < ·) ∧
        (names.map fun name => (directory.child name).child "route.yaml").Nodup ∧
        (∀ name, name ∈ names ↔ ∃ inner content, (.text name, .directory inner) ∈ entries ∧
          "_route".toList <:+ name.toList ∧
          inner.lookup (.text "route.yaml") = some (.file content)) ∧
        (∀ name ∈ names, disk.isDirectory (directory.child name) = true ∧
          disk.isFile ((directory.child name).child "route.yaml") = true) ∧
        ∀ disk' entries', disk'.list directory = .ok entries' → entries'.Perm entries →
          ofDisk disk' directory = ofDisk disk directory := by
  constructor
  · intro hnot
    cases hlist : disk.list directory with
    | ok entries => rw [Disk.isDirectory_iff.2 ⟨entries, hlist⟩] at hnot; cases hnot
    | error fault => rw [ofDisk, hlist]
  · intro entries h hlisting
    have hpairwise := pairwise_routeNames hlisting
    refine ⟨routeNames entries, ofDisk_eq h, hpairwise, ?_, fun name => mem_routeNames_iff,
      fun name hname => isFile_manifest h hlisting hname, ?_⟩
    · refine List.Nodup.map_on (fun name hname other hother heq => ?_)
        (hpairwise.imp fun hlt => String.ne_of_lt hlt)
      obtain ⟨_, _, hentry, -⟩ := mem_routeNames_iff.1 hname
      obtain ⟨_, _, hentry', -⟩ := mem_routeNames_iff.1 hother
      exact eq_of_manifest_eq (hlisting.isEntryName hentry) (hlisting.isEntryName hentry') heq
    · intro disk' entries' h' hperm
      rw [ofDisk_eq h, ofDisk_eq h', routeNames_congr hperm]

/-- A name that is no text, though its last bytes are those of `_route`. -/
def brokenRoute : BrokenName := ⟨[0xFF, 0x5F, 0x72, 0x6F, 0x75, 0x74, 0x65], by decide⟩

/-- The disk with some directory of routes. -/
def routed (entries : Entries) : Disk where
  tree := .directory [("routes", .directory entries)]
  current := []

/-- Two routes, a directory without the file of a route, a file that is called like a route, and a
    directory whose name is no text. -/
def shopEntries : Entries :=
  [("pets_route", .directory [("route.yaml", .file .empty)]), ("empty_route", .directory []),
    ("orders_route", .directory [("route.yaml", .file .empty)]), ("stray_route", .file .empty),
    (.broken brokenRoute, .directory [("route.yaml", .file .empty)])]

theorem ofDisk_outcome_shop :
    ofDisk (routed shopEntries) ⟨"/routes"⟩ =
        .ok [⟨"/routes/orders_route/route.yaml"⟩, ⟨"/routes/pets_route/route.yaml"⟩] ∧
      ofDisk (routed shopEntries.reverse) ⟨"/routes"⟩ = ofDisk (routed shopEntries) ⟨"/routes"⟩ := by
  obtain ⟨names, houtcome, hpairwise, -, hnames, -, horder⟩ :=
    (ofDisk_outcome (routed shopEntries) ⟨"/routes"⟩).2 shopEntries rfl ⟨by decide, by decide⟩
  refine ⟨?_, horder _ _ rfl (List.reverse_perm shopEntries)⟩
  have hperm : names.Perm ["orders_route", "pets_route"] := by
    refine (List.perm_ext_iff_of_nodup (hpairwise.imp String.ne_of_lt) (by decide)).2 fun name => ?_
    rw [hnames]
    simp only [shopEntries, List.mem_cons, List.not_mem_nil, or_false, Prod.mk.injEq,
      EntryName.text.injEq, reduceCtorEq, false_and, and_false]
    constructor
    · rintro ⟨inner, content, ⟨rfl, -⟩ | ⟨-, htree⟩ | ⟨rfl, -⟩, -, hfile⟩
      · exact .inr rfl
      · cases htree
        cases hfile
      · exact .inl rfl
    · rintro (rfl | rfl)
      · exact ⟨_, .empty, .inr (.inr ⟨rfl, rfl⟩), by decide, rfl⟩
      · exact ⟨_, .empty, .inl ⟨rfl, rfl⟩, by decide, rfl⟩
  have hsorted : ["orders_route", "pets_route"].Pairwise (· < ·) := by decide
  obtain rfl := hperm.eq_of_pairwise
    (fun a b _ _ hab hba => absurd hab (String.lt_asymm hba)) hpairwise hsorted
  exact houtcome

/-- A directory whose name is no text is not found as a route. Its last bytes are those of `_route`,
    and it has the file of a route. -/
theorem ofDisk_brokenRoute :
    let entries : Entries := [(.broken brokenRoute, .directory [("route.yaml", .file .empty)])]
    (routed entries).list ⟨"/routes"⟩ = .ok entries ∧ Entries.IsListing entries ∧
      "_route".toUTF8.data.toList <:+ (EntryName.broken brokenRoute).bytes ∧
      ofDisk (routed entries) ⟨"/routes"⟩ = .ok [] := by
  intro entries
  have hnames : routeNames entries = [] := by
    have hnone : entries.filterMap routeName? = [] := rfl
    rw [routeNames, hnone, List.mergeSort_nil]
  refine ⟨rfl, ⟨by decide, by decide⟩, by decide, ?_⟩
  rw [ofDisk_eq rfl, hnames]
  rfl

end Discovery

end ScenarioTree
