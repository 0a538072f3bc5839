import ScenarioTree.Proofs.Path.Parts

/-!
# The steps of a path

A path has an origin, which is the root or wherever it is seen from, and steps behind it: names, and
`..` for steps up. How the steps are spelled does not matter: joining, taking the directory and
normalizing act on the origin and on the steps.

Results:

* `Path.normalComponents_eq`: the normal form depends on the origin and on the steps.
* `Path.origin_steps_join`: a relative path adds its steps to those of a directory.
* `Path.origin_steps_directory`: the directory of a path lacks its last step.
* `Path.same_child_iff`: two entries of a directory have the same path if they have the same name.
-/

namespace ScenarioTree

/-- A step is up, or down to an entry. -/
def Component.IsStep : Component → Prop
  | .parent => True
  | .name text => IsEntryName text
  | _ => False

theorem isStep_of_ofPart? {part : List Char} {c : Component} (hpart : '/' ∉ part)
    (h : Component.ofPart? part = some c) : c.IsStep := by
  have hname := h
  unfold Component.ofPart? at h
  split_ifs at h
  · cases h
    trivial
  · cases h
    refine ⟨by rwa [String.toList_ofList], ?_⟩
    rwa [String.toList_ofList]

theorem ofPart?_text {c : Component} (h : c.IsStep) : Component.ofPart? c.text.toList = some c := by
  cases c with
  | root => exact h.elim
  | current => exact h.elim
  | parent => rfl
  | name text => exact h.2

theorem Component.IsStep.not_mem_text {c : Component} (h : c.IsStep) : '/' ∉ c.text.toList := by
  cases c with
  | root => exact h.elim
  | current => exact h.elim
  | parent => decide
  | name text => exact h.1

namespace Path

/-! ## Origin and steps -/

/-- The components of a path behind its start. -/
def steps (p : Path) : List Component := p.parts.filterMap Component.ofPart?

/-- Where a path starts: at the root, or nowhere in particular. -/
def origin (p : Path) : List Component := if p.isAbsolute then [.root] else []

theorem origin_of_isAbsolute {p : Path} (h : p.isAbsolute = true) : p.origin = [.root] := if_pos h

theorem origin_of_not_isAbsolute {p : Path} (h : p.isAbsolute = false) : p.origin = [] :=
  if_neg (by rw [h]; exact Bool.false_ne_true)

theorem isStep_of_mem_steps {p : Path} {c : Component} (h : c ∈ p.steps) : c.IsStep := by
  obtain ⟨part, hpart, hc⟩ := List.mem_filterMap.1 h
  exact isStep_of_ofPart? (not_mem_of_mem_splitSlashes hpart) hc

/-- Only a `.` that begins the path is a component beside the origin and the steps. -/
theorem components_eq (p : Path) : p.components =
    (if p.isAbsolute = false ∧ p.parts.head? = some ['.'] then [.current] else p.origin) ++
      p.steps := by
  unfold components origin steps
  simp only [beq_iff_eq]
  split_ifs <;> simp_all

/-- The normal form of a path depends on its origin and its steps. -/
theorem normalComponents_eq (p : Path) :
    p.normalComponents = (p.steps.foldl stepNormal p.origin).reverse := by
  rw [normalComponents, components_eq, List.foldl_append]
  unfold origin
  split_ifs <;> simp_all [stepNormal]

/-- Paths with the same components have the same normal form. -/
theorem normalize_of_same {p q : Path} (h : p.same q = true) : p.normalize = q.normalize := by
  rw [normalize, normalize, normalComponents, normalComponents, beq_iff_eq.1 h]

theorem origin_of_head?_ne {p : Path} (h : p.parts.head? ≠ some []) : p.origin = [] := by
  refine if_neg fun habsolute => ?_
  obtain ⟨others, -, hparts⟩ := isAbsolute_iff_parts.1 habsolute
  exact h (by rw [hparts]; rfl)

/-- A part that means nothing is no step. -/
theorem steps_of_parts_eq {p : Path} {first : List Char} {others : List (List Char)}
    (h : p.parts = first :: others) (hfirst : isIdle first = true) :
    p.steps = others.filterMap Component.ofPart? := by
  rw [steps, h, List.filterMap_cons_none (ofPart?_eq_none_iff.2 hfirst)]

/-! ## Texts of parts -/

theorem steps_ofParts {parts : List (List Char)} (h : ∀ part ∈ parts, '/' ∉ part) :
    (ofParts parts).steps = parts.filterMap Component.ofPart? := by
  by_cases hne : parts = []
  · subst hne
    rfl
  · rw [steps, parts_ofParts hne h]

theorem origin_ofParts {parts : List (List Char)} (h : ∀ part ∈ parts, '/' ∉ part)
    (hfirst : parts.head? ≠ some []) : (ofParts parts).origin = [] := by
  by_cases hne : parts = []
  · subst hne
    rfl
  · exact origin_of_head?_ne (by rwa [parts_ofParts hne h])

/-- Parts with slashes between them, and one before them. -/
def ofRootParts (parts : List (List Char)) : Path := ⟨"/" ++ (ofParts parts).text⟩

theorem parts_ofRootParts (parts : List (List Char)) :
    (ofRootParts parts).parts = [] :: (ofParts parts).parts := by
  rw [Path.parts, ofRootParts, String.toList_append]
  rfl

theorem origin_ofRootParts (parts : List (List Char)) : (ofRootParts parts).origin = [.root] :=
  origin_of_isAbsolute
    (isAbsolute_iff_parts.2 ⟨_, splitSlashes_ne_nil _, parts_ofRootParts parts⟩)

theorem steps_ofRootParts {parts : List (List Char)} (h : ∀ part ∈ parts, '/' ∉ part) :
    (ofRootParts parts).steps = parts.filterMap Component.ofPart? := by
  rw [← steps_ofParts h, steps, parts_ofRootParts]
  rfl

/-! ## Joining -/

/-- The empty text is the directory that every path is seen from already. -/
theorem empty_join (p : Path) : join ⟨""⟩ p = p := by
  rw [join]
  split_ifs with habsolute hend
  · rfl
  · rw [String.empty_append]
  · exact absurd rfl hend

/-- A relative path that is seen from a directory has the parts of the directory before its own, but
    for the empty part behind a slash that ends the directory. -/
theorem parts_join {base p : Path} (hbase : base.text.toList ≠ []) (h : p.isAbsolute = false) :
    (base.join p).isAbsolute = base.isAbsolute ∧
      ∃ front, (base.parts = front ∨ base.parts = front ++ [[]]) ∧
        (base.join p).parts = front ++ p.parts := by
  rw [join, if_neg (by rw [h]; exact Bool.false_ne_true)]
  split_ifs with hend
  · -- A slash ends the directory already.
    obtain ⟨last, hlast⟩ := List.getLast?_isSome.2 hbase |> Option.isSome_iff_exists.1
    rw [hlast] at hend
    obtain rfl : last = '/' := by simpa using hend
    obtain ⟨front, hfront⟩ := List.getLast?_eq_some_iff.1 hlast
    refine ⟨?_, splitSlashes front, .inr ?_, ?_⟩
    · rw [isAbsolute, isAbsolute, String.toList_append, List.head?_append_of_ne_nil _ hbase]
    · rw [parts, hfront, splitSlashes_append_slash]
      rfl
    · rw [parts, String.toList_append, hfront, List.append_assoc, List.singleton_append,
        splitSlashes_append_slash]
      rfl
  · have hjoined : (base.text ++ "/" ++ p.text).toList =
        base.text.toList ++ '/' :: p.text.toList := by
      rw [String.toList_append, String.toList_append, List.append_assoc]
      rfl
    refine ⟨?_, base.parts, .inl rfl, ?_⟩
    · rw [isAbsolute, isAbsolute, hjoined, List.head?_append_of_ne_nil _ hbase]
    · rw [parts, hjoined, splitSlashes_append_slash]
      rfl

/-- A relative path that is seen from a directory starts where the directory does, and its steps come
    behind those of the directory. -/
theorem origin_steps_join (base : Path) {p : Path} (h : p.isAbsolute = false) :
    (base.join p).origin = base.origin ∧ (base.join p).steps = base.steps ++ p.steps := by
  by_cases hbase : base.text.toList = []
  · obtain rfl : base = ⟨""⟩ := congrArg Path.mk (String.toList_eq_nil_iff.1 hbase)
    rw [empty_join, origin_of_not_isAbsolute h]
    exact ⟨rfl, rfl⟩
  · obtain ⟨habsolute, front, hfront, hparts⟩ := parts_join hbase h
    have hsteps : base.steps = front.filterMap Component.ofPart? := by
      rcases hfront with hfront | hfront
      · rw [steps, hfront]
      · rw [steps, hfront, List.filterMap_append]
        exact List.append_nil _
    refine ⟨by rw [origin, origin, habsolute], ?_⟩
    rw [hsteps, steps, hparts, List.filterMap_append]
    rfl

theorem join_of_isAbsolute (base : Path) {p : Path} (h : p.isAbsolute = true) : base.join p = p := by
  rw [join, if_pos h]

/-! ## Directories -/

/-- The parts up to the last one that means something. -/
def front (parts : List (List Char)) : List (List Char) :=
  (((parts.reverse.dropWhile isIdle).drop 1).dropWhile isIdle).reverse

theorem filterMap_dropWhile_isIdle (parts : List (List Char)) :
    (parts.dropWhile isIdle).filterMap Component.ofPart? = parts.filterMap Component.ofPart? := by
  induction parts with
  | nil => rfl
  | cons first others ih =>
    rw [List.dropWhile_cons]
    split_ifs with hidle
    · rw [ih, List.filterMap_cons_none (ofPart?_eq_none_iff.2 hidle)]
    · rfl

theorem filterMap_drop_one {parts : List (List Char)} :
    ((parts.dropWhile isIdle).drop 1).filterMap Component.ofPart? =
      (parts.filterMap Component.ofPart?).drop 1 := by
  rw [← filterMap_dropWhile_isIdle parts]
  cases hparts : parts.dropWhile isIdle with
  | nil => rfl
  | cons first others =>
    have hfirst : isIdle first = false := by
      have hhead := List.head?_dropWhile_not isIdle parts
      rwa [hparts] at hhead
    cases hc : Component.ofPart? first with
    | none => rw [ofPart?_eq_none_iff, hfirst] at hc; cases hc
    | some c => rw [List.filterMap_cons_some hc]; rfl

theorem front_prefix_self (parts : List (List Char)) : front parts <+: parts := by
  rw [front, ← List.reverse_suffix, List.reverse_reverse]
  exact ((List.dropWhile_suffix _).trans (List.drop_suffix _ _)).trans (List.dropWhile_suffix _)

theorem not_mem_of_mem_front {parts : List (List Char)} (h : ∀ part ∈ parts, '/' ∉ part) :
    ∀ part ∈ front parts, '/' ∉ part :=
  fun part hpart => h part ((front_prefix_self parts).subset hpart)

theorem filterMap_front (parts : List (List Char)) :
    (front parts).filterMap Component.ofPart? = (parts.filterMap Component.ofPart?).dropLast := by
  rw [front, List.filterMap_reverse, filterMap_dropWhile_isIdle, filterMap_drop_one,
    List.filterMap_reverse, List.drop_one, List.tail_reverse, List.reverse_reverse]

theorem components_ne_of_steps_ne_nil {p : Path} (h : p.steps ≠ []) :
    p.components ≠ [] ∧ p.components ≠ [.root] := by
  rw [components_eq]
  refine ⟨List.append_ne_nil_of_right_ne_nil _ h, fun heq => ?_⟩
  obtain hstart | ⟨-, hsteps⟩ := List.append_eq_singleton_iff.1 heq
  · exact isStep_of_mem_steps (p := p) (c := .root) (by simp [hstart.2])
  · exact h hsteps

/-- The directory of a path with steps, by the parts of the path. -/
theorem parent?_eq {p : Path} (h : p.steps ≠ []) : p.parent? = match p.parts with
    | [] :: others => some (ofRootParts (front others))
    | ['.'] :: others =>
      if others.all isIdle then some ⟨""⟩ else some (ofParts (['.'] :: front others))
    | parts => some (ofParts (front parts)) := by
  obtain ⟨hempty, hroot⟩ := components_ne_of_steps_ne_nil h
  rw [parent?]
  split
  · contradiction
  · contradiction
  · rfl

theorem parent?_eq_some_directory {p : Path} (h : p.steps ≠ []) : p.parent? = some p.directory := by
  have hsome : p.parent?.isSome = true := by
    rw [parent?_eq h]
    split
    · rfl
    · split_ifs <;> rfl
    · rfl
  obtain ⟨directory, hdirectory⟩ := Option.isSome_iff_exists.1 hsome
  rw [Path.directory, hdirectory, Option.getD_some]

/-- The directory of a path starts where the path does and lacks its last step. -/
theorem origin_steps_directory {p : Path} (h : p.steps ≠ []) :
    p.directory.origin = p.origin ∧ p.directory.steps = p.steps.dropLast := by
  have hslash : ∀ part ∈ p.parts, '/' ∉ part := fun _ hpart => not_mem_of_mem_splitSlashes hpart
  rw [directory, parent?_eq h]
  split
  next others hparts =>
    rw [hparts, List.forall_mem_cons] at hslash
    have hsteps := steps_of_parts_eq hparts rfl
    have hothers : others ≠ [] := by
      rintro rfl
      exact h hsteps
    rw [Option.getD_some, origin_ofRootParts, steps_ofRootParts (not_mem_of_mem_front hslash.2),
      filterMap_front, hsteps,
      origin_of_isAbsolute (isAbsolute_iff_parts.2 ⟨others, hothers, hparts⟩)]
    exact ⟨rfl, rfl⟩
  next others hparts =>
    have horigin : p.origin = [] := origin_of_head?_ne (by rw [hparts]; simp)
    rw [hparts, List.forall_mem_cons] at hslash
    have hsteps := steps_of_parts_eq hparts rfl
    have hidle : ¬ others.all isIdle = true := by
      intro hall
      refine h (hsteps.trans (List.filterMap_eq_nil_iff.2 fun part hpart => ?_))
      exact ofPart?_eq_none_iff.2 (List.all_eq_true.1 hall part hpart)
    have hdot : ∀ part ∈ ['.'] :: front others, '/' ∉ part :=
      List.forall_mem_cons.2 ⟨hslash.1, not_mem_of_mem_front hslash.2⟩
    rw [if_neg hidle, Option.getD_some, horigin, hsteps, steps_ofParts hdot, ← filterMap_front]
    exact ⟨origin_ofParts hdot (by simp), rfl⟩
  next hempty _ =>
    have hfirst {parts : List (List Char)} (hparts : parts <+: p.parts) : parts.head? ≠ some [] := by
      intro hhead
      obtain ⟨others, rfl⟩ := List.head?_eq_some_iff.1 hhead
      obtain ⟨back, hback⟩ := hparts
      exact hempty _ hback.symm
    rw [Option.getD_some, steps_ofParts (not_mem_of_mem_front hslash), filterMap_front,
      origin_of_head?_ne (hfirst List.prefix_rfl)]
    exact ⟨origin_ofParts (not_mem_of_mem_front hslash) (hfirst (front_prefix_self p.parts)), rfl⟩

/-! ## File names -/

/-- A path ends in a file name if its last step is one. -/
theorem fileName?_eq_some_iff {p : Path} {name : String} :
    p.fileName? = some name ↔ p.steps.getLast? = some (.name name) := by
  have hlast : p.components.getLast? = some (.name name) ↔ p.steps.getLast? = some (.name name) := by
    rw [components_eq, List.getLast?_append]
    cases p.steps.getLast? with
    | some c => rfl
    | none =>
      unfold origin
      split_ifs <;> simp
  rw [← hlast, fileName?]
  split <;> simp_all

theorem steps_ne_nil_of_fileName? {p : Path} {name : String} (h : p.fileName? = some name) :
    p.steps ≠ [] := by
  intro hsteps
  rw [fileName?_eq_some_iff, hsteps] at h
  cases h

/-- The normal form of a path with a file name ends in that name, below the normal form of its
    directory. -/
theorem normalComponents_of_fileName? {p : Path} {name : String} (h : p.fileName? = some name) :
    p.normalComponents = p.directory.normalComponents ++ [.name name] := by
  obtain ⟨horigin, hsteps⟩ := origin_steps_directory (steps_ne_nil_of_fileName? h)
  obtain ⟨front, hfront⟩ := List.getLast?_eq_some_iff.1 (fileName?_eq_some_iff.1 h)
  rw [normalComponents_eq, normalComponents_eq, horigin, hsteps, hfront, List.dropLast_concat,
    List.foldl_concat, stepNormal, List.reverse_cons]

/-! ## Entries -/

variable {name : String}

/-- The path of an entry of a directory has one step more than that of the directory. -/
theorem origin_steps_child (directory : Path) (h : IsEntryName name) :
    (directory.child name).origin = directory.origin ∧
      (directory.child name).steps = directory.steps ++ [.name name] := by
  obtain ⟨horigin, hsteps⟩ := origin_steps_join directory (isAbsolute_of_isEntryName h)
  have hname : steps ⟨name⟩ = [.name name] := by
    rw [steps, parts, splitSlashes_of_not_mem h.1, List.filterMap_cons_some h.2, List.filterMap_nil]
  rw [child, hsteps, hname]
  exact ⟨horigin, rfl⟩

/-- The path of an entry ends in its name. -/
theorem fileName?_child (directory : Path) (h : IsEntryName name) :
    (directory.child name).fileName? = some name := by
  rw [fileName?_eq_some_iff, (origin_steps_child directory h).2, List.getLast?_concat]

/-- Entries of a directory with different names have different paths. -/
theorem same_child_iff (directory : Path) {other : String} (h : IsEntryName name)
    (hother : IsEntryName other) :
    (directory.child name).same (directory.child other) = true ↔ name = other := by
  rw [same, beq_iff_eq]
  refine ⟨fun hsame => ?_, fun heq => heq ▸ rfl⟩
  have hname : (directory.child name).fileName? = (directory.child other).fileName? := by
    rw [fileName?, hsame, fileName?]
  rwa [fileName?_child directory h, fileName?_child directory hother, Option.some.injEq] at hname

end Path

end ScenarioTree
