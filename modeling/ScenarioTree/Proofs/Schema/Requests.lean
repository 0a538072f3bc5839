import ScenarioTree.Proofs.Schema.Registry
import ScenarioTree.Proofs.Schema.Store

/-!
# Runs of requests

A store is asked for schemas by their names in its directory or by their paths, and the documents may
be others at each request. What it keeps is the history of the requests that succeeded: for each path
the first of them, with the document that it read and the schema that it compiled from it. A request
that fails leaves no trace.

Each request comes with the resolver that stands for the documents of its moment, so nothing is
assumed about how they change.

Results:

* `SchemaStore.Request.run_eq`: all methods are one request for a path, seen in two ways.
* `SchemaStore.History.concat`: what one more request does to the history.
* `SchemaStore.history`: a store keeps the history of its requests.
* `SchemaStore.answers_after`: the answers and the entries of a store after any run.
-/

namespace ScenarioTree

namespace SchemaStore

/-! ## Requests -/

/-- A method of a store, with what it is asked for. -/
inductive Call where
  | get (name : String)
  | compiled (name : String)
  | load (path : Path)

/-- What a method answers: a document, or the schema with the document that it was compiled from. -/
inductive Reply where
  | tree (tree : Value)
  | schema (schema : StoredSchema)

namespace Call

/-- The path that a method of a store for a directory asks for. -/
def path (directory : Path) : Call → Path
  | get name | compiled name => directory.child name
  | load path => path

/-- What a method shows of a schema. -/
def reply (schema : StoredSchema) : Call → Reply
  | get _ | load _ => .tree schema.tree
  | compiled _ => .schema schema

end Call

/-- A call, and what there is to read at its moment. -/
structure Request where
  call : Call
  resolver : Resolver

namespace Request

variable (request : Request) (store : SchemaStore)

def run : Except LoadError Reply × SchemaStore :=
  match request.call with
  | .get name => (store.get request.resolver name).map (·.map .tree) id
  | .compiled name => (store.compiled request.resolver name).map (·.map .schema) id
  | .load path => (store.load request.resolver path).map (·.map .tree) id

/-- What the documents of the moment have for a request. -/
def current (directory : Path) : Except LoadError Reply :=
  (request.resolver.schemaAt (request.call.path directory)).map request.call.reply

/-- Every method is a request for a path. -/
theorem run_eq :
    request.run store =
      ((store.request request.resolver (request.call.path store.directory)).1.map
          request.call.reply,
        (store.request request.resolver (request.call.path store.directory)).2) := by
  obtain ⟨call, resolver⟩ := request
  cases call with
  | get name =>
    cases h : (store.request resolver (store.directory.child name)).1 <;>
      simp [run, get, compiled, pathOf, Call.path, Call.reply, h, Except.map, Prod.map]
  | compiled name => rfl
  | load path =>
    cases h : (store.request resolver path).1 <;>
      simp [run, load, Call.path, Call.reply, h, Except.map, Prod.map]

/-- What a request can do to a store. -/
theorem run_cases :
    (∃ schema, store.get? (request.call.path store.directory) = some schema ∧
      request.run store = (.ok (request.call.reply schema), store)) ∨
    (∃ error, store.get? (request.call.path store.directory) = none ∧
      request.resolver.schemaAt (request.call.path store.directory) = .error error ∧
      request.run store = (.error error, store)) ∨
    (∃ schema, store.get? (request.call.path store.directory) = none ∧
      request.resolver.schemaAt (request.call.path store.directory) = .ok schema ∧
      request.run store =
        (.ok (request.call.reply schema),
          store.keep (request.call.path store.directory) schema)) := by
  rw [run_eq]
  obtain ⟨schema, hkept, h⟩ | ⟨error, hkept, hread, h⟩ | ⟨schema, hkept, hread, h⟩ :=
    store.request_cases request.resolver (request.call.path store.directory)
  · exact .inl ⟨schema, hkept, by rw [h]; rfl⟩
  · exact .inr (.inl ⟨error, hkept, hread, by rw [h]; rfl⟩)
  · exact .inr (.inr ⟨schema, hkept, hread, by rw [h]; rfl⟩)

end Request

/-! ## Runs -/

/-- The store after some requests. -/
def after (store : SchemaStore) (requests : List Request) : SchemaStore :=
  requests.foldl (fun store request => (request.run store).2) store

/-- The paths of the requests that succeed, one after the other. -/
def answered (store : SchemaStore) : List Request → List Path
  | [] => []
  | request :: rest =>
    (if (request.run store).1.isOk then [request.call.path store.directory] else []) ++
      (request.run store).2.answered rest

variable (store : SchemaStore) (request : Request)

theorem directory_new (directory : Path) : (new directory).directory = directory := rfl

theorem after_append (requests others : List Request) :
    store.after (requests ++ others) = (store.after requests).after others :=
  List.foldl_append

theorem after_concat (requests : List Request) :
    store.after (requests ++ [request]) = (request.run (store.after requests)).2 :=
  store.after_append requests [request]

theorem directory_run : (request.run store).2.directory = store.directory := by
  rw [request.run_eq]
  exact store.directory_request _ _

theorem directory_after (requests : List Request) :
    (store.after requests).directory = store.directory := by
  induction requests generalizing store with
  | nil => rfl
  | cons request rest ih => exact (ih _).trans (store.directory_run request)

theorem answered_append (requests others : List Request) :
    store.answered (requests ++ others) =
      store.answered requests ++ (store.after requests).answered others := by
  induction requests generalizing store with
  | nil => rfl
  | cons request rest ih =>
    rw [List.cons_append, answered, answered, ih, List.append_assoc]
    rfl

theorem answered_concat (requests : List Request) :
    store.answered (requests ++ [request]) = store.answered requests ++
      if (request.run (store.after requests)).1.isOk then [request.call.path store.directory]
      else [] := by
  rw [answered_append, answered, answered, List.append_nil, directory_after]

/-! ## What stays -/

/-- Paths with the same components are one path for a store. -/
theorem get?_congr {path other : Path} (h : path.same other) :
    store.get? path = store.get? other := by
  have hcomponents : path.components = other.components := beq_iff_eq.1 h
  simp only [get?, Path.same, hcomponents]

variable {store} {path : Path} {schema : StoredSchema}

theorem exists_entry_of_get? (h : store.get? path = some schema) :
    ∃ entry ∈ store.entries, entry.1.same path ∧ entry.2 = schema := by
  obtain ⟨entry, hentry, hschema⟩ := Option.map_eq_some_iff.1 h
  have hsame := List.find?_some hentry
  exact ⟨entry, List.mem_of_find?_eq_some hentry, hsame, hschema⟩

/-- What is kept for a path stays. -/
theorem get?_run (h : store.get? path = some schema) :
    (request.run store).2.get? path = some schema := by
  obtain ⟨_, -, hrun⟩ | ⟨_, -, -, hrun⟩ | ⟨_, -, -, hrun⟩ := request.run_cases store
  · rw [hrun, h]
  · rw [hrun, h]
  · rw [hrun, get?_keep, h, Option.some_or]

theorem get?_after (h : store.get? path = some schema) (requests : List Request) :
    (store.after requests).get? path = some schema := by
  induction requests generalizing store with
  | nil => exact h
  | cons request rest ih => exact ih (get?_run request h)

/-- A request that succeeds shows what is kept for its path from then on. -/
theorem exists_get?_of_run_eq_ok {request : Request} {reply : Reply}
    (h : (request.run store).1 = .ok reply) :
    ∃ schema, reply = request.call.reply schema ∧
      (request.run store).2.get? (request.call.path store.directory) = some schema := by
  obtain ⟨schema, hkept, hrun⟩ | ⟨error, -, -, hrun⟩ | ⟨schema, hkept, -, hrun⟩ :=
    request.run_cases store
  · rw [hrun] at h ⊢
    exact ⟨schema, (Except.ok.inj h).symm, hkept⟩
  · rw [hrun] at h
    cases h
  · have hself : (request.call.path store.directory).same (request.call.path store.directory) :=
      beq_self_eq_true _
    rw [hrun] at h ⊢
    exact ⟨schema, (Except.ok.inj h).symm, by rw [get?_keep, hkept, if_pos hself, Option.none_or]⟩

/-- A request for a path for which something is kept shows it. -/
theorem run_of_get? {request : Request}
    (h : store.get? (request.call.path store.directory) = some schema) :
    request.run store = (.ok (request.call.reply schema), store) := by
  obtain ⟨kept, hkept, hrun⟩ | ⟨_, hkept, -, -⟩ | ⟨_, hkept, -, -⟩ := request.run_cases store
  · rw [hrun, Option.some.inj (hkept.symm.trans h)]
  · rw [h] at hkept
    cases hkept
  · rw [h] at hkept
    cases hkept

/-- A request for a path for which nothing is kept reads the documents of its moment. -/
theorem run_of_get?_eq_none {request : Request}
    (h : store.get? (request.call.path store.directory) = none) :
    (request.run store).1 = request.current store.directory := by
  rw [Request.current]
  obtain ⟨_, hkept, -⟩ | ⟨error, -, hread, hrun⟩ | ⟨schema, -, hread, hrun⟩ :=
    request.run_cases store
  · rw [h] at hkept
    cases hkept
  · rw [hrun, hread]
    rfl
  · rw [hrun, hread]
    rfl

theorem get?_isSome_iff :
    (store.get? path).isSome ↔ path.components ∈ store.entries.map (·.1.components) := by
  rw [get?, Option.isSome_map, List.find?_isSome, List.mem_map]
  simp only [Path.same, beq_iff_eq]

/-- A request that succeeds adds its path to those for which something is kept. -/
theorem get?_run_isSome_iff :
    ((request.run store).2.get? path).isSome ↔ (store.get? path).isSome ∨
      (request.run store).1.isOk ∧ (request.call.path store.directory).same path := by
  obtain ⟨schema, hkept, hrun⟩ | ⟨error, -, -, hrun⟩ | ⟨schema, -, -, hrun⟩ :=
    request.run_cases store
  · rw [hrun, or_iff_left_of_imp]
    rintro ⟨-, hsame⟩
    rw [← get?_congr store hsame, hkept]
    rfl
  · rw [hrun]
    exact (or_iff_left fun h => Bool.false_ne_true h.1).symm
  · rw [hrun, get?_keep, Option.isSome_or, Bool.or_eq_true]
    refine or_congr_right ?_
    split_ifs with hsame
    · exact iff_of_true rfl ⟨rfl, hsame⟩
    · exact iff_of_false Bool.false_ne_true fun h => hsame h.2

/-- There is never a second entry for a path. -/
theorem nodup_run (h : (store.entries.map (·.1.components)).Nodup) :
    ((request.run store).2.entries.map (·.1.components)).Nodup := by
  obtain ⟨_, -, hrun⟩ | ⟨_, -, -, hrun⟩ | ⟨schema, hkept, -, hrun⟩ := request.run_cases store
  · rwa [hrun]
  · rwa [hrun]
  · rw [hrun, keep, List.map_append, List.map_singleton, ← List.concat_eq_append,
      List.nodup_concat, ← get?_isSome_iff, hkept]
    exact ⟨Bool.false_ne_true, h⟩

/-! ## Histories -/

/-- After some requests of a new store, a request for a path is the first one to succeed. It resolves
    the file of the path, compiles the result, and answers with that. -/
structure IsFirst (directory : Path) (before : List Request) (first : Request) (path : Path)
    (schema : StoredSchema) : Prop where
  path_eq : first.call.path directory = path
  unanswered : ∀ earlier ∈ (new directory).answered before, earlier.same path = false
  tree : first.resolver.resolveFile path = .ok schema.tree
  compiled : Linked.ofValue schema.tree = .ok schema.linked
  answer : (first.run ((new directory).after before)).1 = .ok (first.call.reply schema)

/-- A new store has, after some requests, one entry for each path for which one of them succeeded,
    with what the first of these found. -/
structure History (directory : Path) (requests : List Request) : Prop where
  answered_iff : ∀ path, (((new directory).after requests).get? path).isSome ↔
    ∃ earlier ∈ (new directory).answered requests, earlier.same path
  distinct : (((new directory).after requests).entries.map (·.1.components)).Nodup
  first : ∀ entry ∈ ((new directory).after requests).entries, ∃ before first later,
    requests = before ++ first :: later ∧ IsFirst directory before first entry.1 entry.2

theorem history_nil (directory : Path) : History directory [] where
  answered_iff _ := iff_of_false Bool.false_ne_true nofun
  distinct := List.nodup_nil
  first := nofun

variable {directory : Path} {requests : List Request}

namespace History

/-- For a path for which no request succeeded nothing is kept. -/
theorem get?_eq_none_iff (h : History directory requests) :
    ((new directory).after requests).get? path = none ↔
      ∀ earlier ∈ (new directory).answered requests, earlier.same path = false := by
  rw [← Option.not_isSome_iff_eq_none, h.answered_iff]
  simp only [not_exists, not_and, Bool.not_eq_true]

theorem mem_components_iff (h : History directory requests) {components : List Component} :
    components ∈ ((new directory).after requests).entries.map (·.1.components) ↔
      components ∈ ((new directory).answered requests).map Path.components := by
  constructor
  · intro hmem
    obtain ⟨entry, -, rfl⟩ := List.mem_map.1 hmem
    obtain ⟨earlier, hearlier, hsame⟩ := (h.answered_iff entry.1).1 (get?_isSome_iff.2 hmem)
    exact List.mem_map.2 ⟨earlier, hearlier, beq_iff_eq.1 hsame⟩
  · intro hmem
    obtain ⟨earlier, hearlier, rfl⟩ := List.mem_map.1 hmem
    exact get?_isSome_iff.1 ((h.answered_iff earlier).2 ⟨earlier, hearlier, beq_self_eq_true _⟩)

/-- One more request. Only one that reads a schema adds an entry. -/
theorem concat (h : History directory requests) (request : Request) :
    History directory (requests ++ [request]) := by
  have hdirectory : ((new directory).after requests).directory = directory :=
    (new directory).directory_after requests
  refine ⟨fun path => ?_, ?_, fun entry hentry => ?_⟩
  · rw [after_concat, get?_run_isSome_iff, h.answered_iff, hdirectory, answered_concat,
      directory_new]
    split_ifs with hok <;> simp [hok, or_and_right, exists_or]
  · rw [after_concat]
    exact nodup_run request h.distinct
  · rw [after_concat] at hentry
    have hold : entry ∈ ((new directory).after requests).entries → ∃ before first later,
        requests ++ [request] = before ++ first :: later ∧
          IsFirst directory before first entry.1 entry.2 := by
      intro hentry
      obtain ⟨before, first, later, rfl, hfirst⟩ := h.first entry hentry
      exact ⟨before, first, later ++ [request], by simp, hfirst⟩
    have hcases := request.run_cases ((new directory).after requests)
    rw [hdirectory] at hcases
    obtain ⟨_, -, hrun⟩ | ⟨_, -, -, hrun⟩ | ⟨schema, hkept, hread, hrun⟩ := hcases
    · rw [hrun] at hentry
      exact hold hentry
    · rw [hrun] at hentry
      exact hold hentry
    · rw [hrun, keep, List.mem_append, List.mem_singleton] at hentry
      rcases hentry with hentry | rfl
      · exact hold hentry
      · obtain ⟨htree, hcompiled⟩ := Resolver.schemaAt_eq_ok_iff.1 hread
        exact ⟨requests, request, [], rfl, rfl, h.get?_eq_none_iff.1 hkept, htree, hcompiled,
          by rw [hrun]⟩

end History

theorem history (directory : Path) (requests : List Request) : History directory requests := by
  induction requests using List.reverseRecOn with
  | nil => exact history_nil directory
  | append_singleton requests request ih => exact ih.concat request

/-! ## Answers after a run -/

/-- After any requests of a new store, whatever the documents were at each of them:

    * A request fails only for a path for which none succeeded, and the store stays as it is.
    * For such a path the answer is what the documents of the moment have.
    * If a request has succeeded, what it answered is kept, and any request for a path with the same
      components shows it.
    * There are as many entries as there are paths for which a request succeeded.
    * Each entry is what the first request that succeeded for its path read and compiled. -/
theorem answers_after (directory : Path) (requests : List Request) :
    let store := (new directory).after requests
    let Unanswered (path : Path) : Prop :=
      ∀ earlier ∈ (new directory).answered requests, earlier.same path = false
    (∀ (next : Request) (error : LoadError), (next.run store).1 = .error error →
        (next.run store).2 = store ∧ Unanswered (next.call.path directory)) ∧
      (∀ next : Request, Unanswered (next.call.path directory) →
        (next.run store).1 = next.current directory) ∧
      (∀ (before : List Request) (first : Request) (between : List Request) (reply : Reply),
        requests = before ++ first :: between →
        (first.run ((new directory).after before)).1 = .ok reply →
        ∃ entry ∈ store.entries, entry.1.same (first.call.path directory) ∧
          reply = first.call.reply entry.2 ∧
          ∀ next : Request, (next.call.path directory).same (first.call.path directory) →
            next.run store = (.ok (next.call.reply entry.2), store)) ∧
      store.size = (((new directory).answered requests).map Path.components).toFinset.card ∧
      ∀ entry ∈ store.entries, ∃ before first later, requests = before ++ first :: later ∧
        IsFirst directory before first entry.1 entry.2 := by
  intro store Unanswered
  have h := history directory requests
  have hdirectory : store.directory = directory := (new directory).directory_after requests
  refine ⟨fun next error herror => ?_, fun next hnext => ?_, ?_, ?_, h.first⟩
  · have hcases := next.run_cases store
    rw [hdirectory] at hcases
    obtain ⟨_, -, hrun⟩ | ⟨_, hkept, -, hrun⟩ | ⟨_, -, -, hrun⟩ := hcases
    · rw [hrun] at herror
      cases herror
    · exact ⟨by rw [hrun], h.get?_eq_none_iff.1 hkept⟩
    · rw [hrun] at herror
      cases herror
  · have hkept : store.get? (next.call.path store.directory) = none := by
      rw [hdirectory]
      exact h.get?_eq_none_iff.2 hnext
    rw [run_of_get?_eq_none hkept, hdirectory]
  · rintro before first between reply rfl hanswer
    obtain ⟨schema, hreply, hkept⟩ := exists_get?_of_run_eq_ok hanswer
    rw [directory_after] at hkept
    have hstore : store.get? (first.call.path directory) = some schema := by
      have hafter := get?_after hkept between
      rwa [← after_concat, ← after_append, List.append_assoc] at hafter
    obtain ⟨entry, hentry, hsame, rfl⟩ := exists_entry_of_get? hstore
    refine ⟨entry, hentry, hsame, hreply, fun next hnext => run_of_get? ?_⟩
    rw [hdirectory, get?_congr store hnext, hstore]
  · rw [size, ← List.length_map (·.1.components), ← List.toFinset_card_of_nodup h.distinct]
    congr 1
    ext components
    rw [List.mem_toFinset, List.mem_toFinset, h.mem_components_iff]

/-! ## A schema that is replaced -/

/-- A request for a schema in the directory of schemas, when there is one document in it or none. -/
def schemaRequest (call : Call) (document : Option Value) : Request :=
  ⟨call, ⟨.ofDocuments (document.toList.map (⟨"/schemas/pet.yaml"⟩, ·)), Path.normalize,
    Reference.defaultDepth⟩⟩

/-- A schema is asked for before it is there, then by its path, which is spelled in another way, and
    then by its name, when another document has taken its place. -/
theorem answers_after_replaced :
    let missing := schemaRequest (.get "pet.yaml") none
    let there := schemaRequest (.load ⟨"/schemas/./pet.yaml"⟩) (some (.bool true))
    let replaced := schemaRequest (.compiled "pet.yaml") (some (.bool false))
    let store := (new ⟨"/schemas"⟩).after
    (missing.run (store [])).2 = store [] ∧
      (there.run (store [missing])).1 = .ok (.tree (.bool true)) ∧
      (∃ schema, schema.tree = .bool true ∧ Linked.ofValue schema.tree = .ok schema.linked ∧
        replaced.run (store [missing, there]) = (.ok (.schema schema), store [missing, there])) ∧
      (store [missing, there]).size = 1 := by
  intro missing there replaced store
  obtain ⟨hmissing, -⟩ := (answers_after ⟨"/schemas"⟩ []).1 missing _ rfl
  have hread : there.current ⟨"/schemas"⟩ = .ok (.tree (.bool true)) := by
    have hschema : there.resolver.schemaAt ⟨"/schemas/./pet.yaml"⟩ =
        .ok ⟨.bool true, ⟨.always, []⟩⟩ :=
      Resolver.schemaAt_eq_ok_iff.2 ⟨rfl, Linked.ofValue_bool_true⟩
    exact congrArg (Except.map there.call.reply) hschema
  have hthere : (there.run (store [missing])).1 = .ok (.tree (.bool true)) :=
    ((answers_after ⟨"/schemas"⟩ [missing]).2.1 there nofun).trans hread
  obtain ⟨-, -, hkept, hsize, hfirst⟩ := answers_after ⟨"/schemas"⟩ [missing, there]
  obtain ⟨entry, hentry, -, hreply, hshown⟩ := hkept [missing] there [] _ rfl hthere
  obtain ⟨before, first, later, -, hfirst⟩ := hfirst entry hentry
  refine ⟨hmissing, hthere, ⟨entry.2, ?_, hfirst.compiled, hshown replaced ?_⟩, ?_⟩
  · exact (Reply.tree.inj hreply).symm
  · decide
  · have hanswered : (new ⟨"/schemas"⟩).answered [missing, there] = [⟨"/schemas/./pet.yaml"⟩] := by
      rw [← List.singleton_append, answered_concat, hthere]
      rfl
    rw [hsize, hanswered]
    rfl

end SchemaStore

end ScenarioTree
