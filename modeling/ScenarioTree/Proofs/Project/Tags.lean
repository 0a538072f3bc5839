import ScenarioTree.Proofs.Cascade.Tags
import ScenarioTree.Proofs.Format.Ascending
import ScenarioTree.Proofs.Project.Loading
import ScenarioTree.Proofs.Tag.Printing

/-!
# Tags of the scenarios of a project

In a project that is loaded with the bundled schemas, a scenario has the tags that its own document,
that of its route and that of the application list, and no others. A query that names a tag therefore
selects the scenarios for which one of the three lists it.

A tag can be named if it is a word of the query language. The schemas admit others, such as a text
with a space in it: a scenario has them like any other tag, but no query is read as their name.

Results:

* `Setting.exists_document_of_isStated`: a record has the tags that its document lists.
* `Setting.mem_tags_of_isRoute`, `Setting.contains_tags_of_isScenario`: the tags of routes and
  scenarios.
* `Supply.ascends_ofDisk`: the documents of a disk are as the theorem about loads assumes.
* `Loader.tags_of_load`: the tags of the scenarios of a project, and what a query for one selects.
* `Loader.not_select_spaced`: a tag that cannot be named.
-/

namespace ScenarioTree

namespace Setting

variable (setting : Setting)

/-! ## Definitions -/

/-- The schemas of the three kinds are the bundled ones. -/
structure HasBundledSchemas : Prop where
  application : setting.schemas Bundled.applicationFile = Documented.stored ApplicationRecord
  route : setting.schemas Bundled.routeFile = Documented.stored RouteRecord
  scenario : setting.schemas Bundled.scenarioFile = Documented.stored ScenarioRecord

/-- The document at a path, with the documents that it refers to, lists a tag. -/
def lists (path : Path) (tag : String) : Bool :=
  match setting.document path with
  | .ok document => document.listedTags.contains tag
  | .error _ => false

/-- The document of a scenario, that of its route or that of the application lists a tag. -/
def listsFor (application : Application) (scenario : Scenario) (tag : String) : Bool :=
  setting.lists scenario.source tag || setting.lists scenario.parentSource tag ||
    setting.lists application.source tag

variable {setting}

/-! ## One document -/

/-- A record that is stated by a document has the tags that the document lists. -/
theorem exists_document_of_isStated {R : Type} [Record R] [Documented R] [Documented.IsBundled R]
    [Record.Lawful R] [Record.Sectioned R] [Record.HasMetadata R]
    (hascends : setting.supply.documents.Ascends) {file : String}
    (hschema : setting.schemas file = Documented.stored R) {path : Path} {record : R}
    (h : setting.IsStated file path record) : ∃ document,
      setting.document path = .ok document ∧ Record.Restorable record ∧
        ∀ tag, tag ∈ Record.tags record ↔ setting.lists path tag = true := by
  obtain ⟨schema, document, hstored, hdocument, hviolations, hrecord⟩ := h
  rw [hschema] at hstored
  have hmakes : Record.Makes schema path document record :=
    ⟨StoredSchema.check_eq_ok_iff.2 hviolations, hrecord⟩
  have hsorted : document.Ascends :=
    Resolver.ascends_of_resolveFile hascends (mapError_eq_ok_iff.1 hdocument)
  have hholds : document.HoldsSorted := by
    rintro entries rfl entry hentry inner hinner
    have hentries := (Value.ascends_object.1 hsorted).2 entry hentry
    exact (Value.ascends_object.1 (hinner ▸ hentries)).1
  have htop (fields : Fields) (hfields : document = .object fields) : Fields.Sorted fields :=
    (Value.ascends_object.1 (hfields ▸ hsorted)).1
  obtain ⟨hform, hread⟩ := (Record.makes_iff hstored).1 hmakes
  refine ⟨document, hdocument, Record.restorable_of_makes hstored hholds hmakes, fun tag => ?_⟩
  rw [Record.tags_ofDocument hform htop hread, lists, hdocument]
  exact List.contains_iff_mem.symm

/-- A document of a kind states the record that is read from it. -/
theorem isStated_of_isDocument {R : Type} [Record R] [Documented R] [Documented.IsBundled R]
    {file : String} (hschema : setting.schemas file = Documented.stored R) {path : Path}
    {document : Value} (hdocument : setting.document path = .ok document)
    (hform : IsDocument R document) {record : R}
    (hrecord : Record.ofDocument (Documented.schema R) document path = .ok record) :
    setting.IsStated file path record := by
  obtain ⟨schema, hstored, -⟩ := Documented.exists_stored R
  obtain ⟨hcheck, hread⟩ := (Record.makes_iff hstored).2 ⟨hform, hrecord⟩
  exact ⟨schema, document, hschema.trans hstored, hdocument,
    StoredSchema.check_eq_ok_iff.1 hcheck, hread⟩

/-! ## Routes and scenarios -/

section Inherited

variable (hbundled : setting.HasBundledSchemas) (hascends : setting.supply.documents.Ascends)
include hbundled hascends

/-- A route has the tags that its document lists, and those of the application. -/
theorem mem_tags_of_isRoute {application : ApplicationRecord} {applicationSource manifest : Path}
    {route : Route} (happlication : Record.Restorable application)
    (h : setting.IsRoute application applicationSource manifest route) :
    Record.Restorable route.record ∧ ∀ tag, tag ∈ Record.tags route.record ↔
      setting.lists route.source tag = true ∨ tag ∈ Record.tags application := by
  obtain ⟨document, -, hown, htags⟩ :=
    exists_document_of_isStated hascends hbundled.route h.own
  rw [h.record, h.source]
  refine ⟨hown.inherit happlication, fun tag => ?_⟩
  rw [Record.mem_tags_inherit hown happlication, htags]

/-- A scenario has the tags that its document lists, and those of the route. -/
theorem contains_tags_of_isScenario {route : RouteRecord} {routeSource path : Path}
    {scenario : Scenario} (hroute : Record.Restorable route)
    (h : setting.IsScenario route routeSource path scenario) (tag : String) :
    scenario.tags.contains tag = true ↔
      setting.lists scenario.source tag = true ∨ tag ∈ Record.tags route := by
  obtain ⟨document, -, hown, htags⟩ :=
    exists_document_of_isStated hascends hbundled.scenario h.own
  have hrecord : tag ∈ Record.tags scenario.record ↔
      setting.lists scenario.source tag = true ∨ tag ∈ Record.tags route := by
    rw [h.record, h.source, Record.mem_tags_inherit hown hroute, htags]
  rw [h.tags, TagSet.contains_ofMeta, List.contains_iff_mem]
  exact hrecord

/-- The scenarios of a project have the tags that the three documents list, all of which can be
    read. -/
theorem tags_of_isProject {project : Path} {application : Application}
    (h : setting.IsProject project application) {route : Route} (hroute : route ∈ application.routes)
    {scenario : Scenario} (hscenario : scenario ∈ route.scenarios) :
    scenario.parentSource = route.source ∧
      (∀ path ∈ [scenario.source, route.source, application.source],
        ∃ document, setting.document path = .ok document) ∧
      ∀ tag, scenario.tags.contains tag = setting.listsFor application scenario tag := by
  obtain ⟨manifests, -, hroutes⟩ := h.routes
  obtain ⟨manifest, -, hisRoute⟩ := exists_of_forall₂ hroutes route hroute
  obtain ⟨path, -, hisScenario⟩ := exists_of_forall₂ hisRoute.scenarios scenario hscenario
  obtain ⟨applicationDocument, happlicationDocument, happlication, happlicationTags⟩ :=
    exists_document_of_isStated hascends hbundled.application h.record
  obtain ⟨routeDocument, hrouteDocument, -⟩ :=
    exists_document_of_isStated hascends hbundled.route hisRoute.own
  obtain ⟨scenarioDocument, hscenarioDocument, -⟩ :=
    exists_document_of_isStated hascends hbundled.scenario hisScenario.own
  obtain ⟨hrestorable, hrouteTags⟩ :=
    mem_tags_of_isRoute hbundled hascends happlication hisRoute
  refine ⟨hisScenario.parentSource, ?_, fun tag => ?_⟩
  · simp only [List.forall_mem_cons, hisScenario.source, hisRoute.source]
    exact ⟨⟨_, hscenarioDocument⟩, ⟨_, hrouteDocument⟩, ⟨_, happlicationDocument⟩,
      List.forall_mem_nil _⟩
  · rw [Bool.eq_iff_iff, listsFor, Bool.or_eq_true, Bool.or_eq_true,
      contains_tags_of_isScenario hbundled hascends hrestorable hisScenario, hrouteTags,
      happlicationTags, hisScenario.parentSource, or_assoc]

end Inherited

end Setting

/-- The maps of the documents that a disk supplies ascend. -/
theorem Supply.ascends_ofDisk (disk : Disk) : (ofDisk disk).documents.Ascends :=
  disk.ascends_source

namespace Loader

/-- In a project that is loaded with the bundled schemas, a scenario has a tag exactly if its own
    document, that of its route or that of the application lists it. So a query that is the name of a
    tag selects the scenarios for which one of the three lists it, in the order of the project. -/
theorem tags_of_load (loader : Loader) (supply : Supply) (project : Path)
    (hbundled : (loader.setting supply).HasBundledSchemas) (hascends : supply.documents.Ascends)
    {application : Application} (h : (loader.load supply project).1 = .ok application) :
    let setting := loader.setting supply
    (∀ route ∈ application.routes, ∀ scenario ∈ route.scenarios,
      scenario.parentSource = route.source ∧
        (∀ path ∈ [scenario.source, route.source, application.source],
          ∃ document, setting.document path = .ok document) ∧
        ∀ tag, scenario.tags.contains tag = setting.listsFor application scenario tag) ∧
      ∀ tag, Tag.IsTagName tag → application.select tag =
        .ok (application.scenarios.filter (setting.listsFor application · tag)) := by
  intro setting
  have hproject : setting.IsProject project application := load_eq_ok_iff.1 h
  have htags := fun route (hroute : route ∈ application.routes) scenario
      (hscenario : scenario ∈ route.scenarios) =>
    Setting.tags_of_isProject hbundled hascends hproject hroute hscenario
  refine ⟨htags, fun tag htag => ?_⟩
  rw [Application.select, Tag.Query.parse_eq_tag_iff.2 htag]
  refine congrArg Except.ok (List.filter_congr fun scenario hscenario => ?_)
  obtain ⟨route, hroute, hscenario⟩ := List.mem_flatMap.1 hscenario
  obtain ⟨-, -, hcontains⟩ := htags route hroute scenario hscenario
  exact hcontains tag

/-! ## A shop with tags at each level -/

/-- A loader that keeps the bundled schemas. -/
def bundled : Loader where
  options := .usual
  schemas := {
    directory := Options.usual.schemaDirectory
    entries := [
      (Options.usual.schemaDirectory.child Bundled.applicationFile,
        ⟨Documented.schema ApplicationRecord, ⟨Documented.rules ApplicationRecord, []⟩⟩),
      (Options.usual.schemaDirectory.child Bundled.routeFile,
        ⟨Documented.schema RouteRecord, ⟨Documented.rules RouteRecord, []⟩⟩),
      (Options.usual.schemaDirectory.child Bundled.scenarioFile,
        ⟨Documented.schema ScenarioRecord, ⟨Documented.rules ScenarioRecord, []⟩⟩)] }

theorem hasBundledSchemas_bundled (supply : Supply) :
    (bundled.setting supply).HasBundledSchemas where
  application := .trans rfl (Documented.stored_eq ApplicationRecord).symm
  route := .trans rfl (Documented.stored_eq RouteRecord).symm
  scenario := .trans rfl (Documented.stored_eq ScenarioRecord).symm

/-- Metadata that list tags. -/
def tagged (tags : List String) : Fields := [("tags", .ofStrings tags)]

def taggedApplication : Value :=
  .object [("meta", .object (tagged ["api"])), ("name", .string "shop")]

def taggedRoute : Value :=
  .object [("meta", .object (tagged ["orders"])), ("method", .string "GET"),
    ("name", .string "orders"), ("path", .string "/orders"), ("scenarios", .ofStrings ["all.yaml"])]

def taggedScenario : Value :=
  .object [("meta", .object (tagged ["smoke", "smoke test"])), ("name", .string "all orders")]

/-- The shop, with one route and one scenario. -/
def taggedShop : Supply where
  disk := { tree := .directory [("shop", .directory [])], current := [] }
  documents := .ofDocuments [
    (⟨"/shop/app/app.yaml"⟩, taggedApplication),
    (⟨"/shop/routes/orders_route/route.yaml"⟩, taggedRoute),
    (⟨"/shop/routes/orders_route/all.yaml"⟩, taggedScenario)]
  discovery directory := .ok [(directory.child "orders_route").child "route.yaml"]

theorem ascends_taggedShop : taggedShop.documents.Ascends := by
  have htext (text : String) : (Value.string text).Ascends := Value.ascends_of_isScalar trivial
  have htexts (tags : List String) : (Value.ofStrings tags).Ascends := by
    refine Value.ascends_array.2 fun v hv => ?_
    obtain ⟨tag, -, rfl⟩ := List.mem_map.1 hv
    exact htext tag
  have htagged (tags : List String) : (Value.object (tagged tags)).Ascends :=
    Value.ascends_object.2 ⟨List.pairwise_singleton _ _, List.forall_mem_singleton.2 (htexts tags)⟩
  refine Source.ascends_ofDocuments ?_
  simp only [List.forall_mem_cons, List.not_mem_nil, false_implies, implies_true, and_true,
    taggedApplication, taggedRoute, taggedScenario, Value.ascends_object, htagged, htext, htexts,
    Fields.Sorted]
  exact ⟨by decide, by decide, by decide⟩

theorem admits_tagged {tags : List String} (h : ∀ tag ∈ tags, tag ≠ "") :
    Form.metadata.Admits (.object (tagged tags)) := by
  refine ⟨_, rfl, ?_⟩
  rintro _ ⟨⟩
  refine ⟨_, rfl, fun v hv => ?_⟩
  obtain ⟨tag, htag, rfl⟩ := List.mem_map.1 hv
  exact ⟨tag, rfl, h tag htag⟩

theorem isDocument_taggedApplication : IsDocument ApplicationRecord taggedApplication := by
  refine ⟨_, rfl, ?_, List.forall_mem_singleton.2 ⟨_, rfl⟩⟩
  simp only [List.forall_mem_cons]
  exact ⟨⟨.metadata, rfl, admits_tagged (by decide)⟩, ⟨.someText, rfl, "shop", rfl, by decide⟩,
    List.forall_mem_nil _⟩

theorem isDocument_taggedRoute : IsDocument RouteRecord taggedRoute := by
  refine ⟨_, rfl, ?_, ?_⟩
  · simp only [List.forall_mem_cons]
    exact ⟨⟨.metadata, rfl, admits_tagged (by decide)⟩, ⟨.method, rfl, "GET", rfl, by decide⟩,
      ⟨.someText, rfl, "orders", rfl, by decide⟩, ⟨.path, rfl, "/orders", rfl, by decide +kernel⟩,
      ⟨.texts, rfl, _, rfl, List.forall_mem_singleton.2 ⟨"all.yaml", rfl, by decide⟩⟩,
      List.forall_mem_nil _⟩
  · simp only [Documented.required, List.forall_mem_cons]
    exact ⟨⟨_, rfl⟩, ⟨_, rfl⟩, ⟨_, rfl⟩, List.forall_mem_nil _⟩

theorem isDocument_taggedScenario : IsDocument ScenarioRecord taggedScenario := by
  refine ⟨_, rfl, ?_, List.forall_mem_singleton.2 ⟨_, rfl⟩⟩
  simp only [List.forall_mem_cons]
  exact ⟨⟨.metadata, rfl, admits_tagged (by decide)⟩, ⟨.someText, rfl, "all orders", rfl, by decide⟩,
    List.forall_mem_nil _⟩

/-- The project that the documents of the shop state. -/
def shop : Application :=
  let application : ApplicationRecord :=
    { (Record.unset : ApplicationRecord) with name := some "shop", metadata := some (tagged ["api"]) }
  let route : RouteRecord :=
    { (Record.unset : RouteRecord) with
      name := some "orders", method := some "GET", path := some "/orders",
      scenarios := some ["all.yaml"], metadata := some (tagged ["orders"]) }
  let scenario : ScenarioRecord :=
    { (Record.unset : ScenarioRecord) with
      name := some "all orders", metadata := some (tagged ["smoke", "smoke test"]) }
  let fullRoute := Cascade.inherit route application
  let applicationSource : Path := ⟨"/shop/app/app.yaml"⟩
  let routeSource : Path := ⟨"/shop/routes/orders_route/route.yaml"⟩
  { record := application
    project := ⟨"/shop"⟩
    source := applicationSource
    environment := none
    routes := [{
      own := route
      record := fullRoute
      source := routeSource
      parentSource := applicationSource
      scenarios := [⟨scenario, Cascade.inherit scenario fullRoute,
        ⟨"/shop/routes/orders_route/all.yaml"⟩, routeSource, none⟩]
      response := none }] }

theorem load_taggedShop : (bundled.load taggedShop ⟨"/shop"⟩).1 = .ok shop := by
  have hbundled := hasBundledSchemas_bundled taggedShop
  refine load_eq_ok_iff.2 ⟨rfl, rfl, ?_, rfl, ⟨_, rfl, .cons ⟨?_, rfl, rfl, rfl, .cons
    ⟨?_, rfl, rfl, rfl, rfl, rfl⟩ .nil, rfl⟩ .nil⟩, rfl⟩
  · exact Setting.isStated_of_isDocument hbundled.application rfl isDocument_taggedApplication
      (by rw [taggedApplication, Record.ofDocument_eq]; rfl)
  · exact Setting.isStated_of_isDocument hbundled.route rfl isDocument_taggedRoute
      (by rw [taggedRoute, Record.ofDocument_eq]; rfl)
  · exact Setting.isStated_of_isDocument hbundled.scenario rfl isDocument_taggedScenario
      (by rw [taggedScenario, Record.ofDocument_eq]; rfl)

/-- The tag of any of the three documents selects the scenario, another one does not. -/
theorem tags_of_load_taggedShop :
    (bundled.load taggedShop ⟨"/shop"⟩).1 = .ok shop ∧
      (∀ scenario ∈ shop.scenarios, ∀ tag ∈ ["api", "orders", "smoke", "smoke test"],
        scenario.tags.contains tag = true) ∧
      shop.select "api" = .ok shop.scenarios ∧ shop.select "orders" = .ok shop.scenarios ∧
      shop.select "smoke" = .ok shop.scenarios ∧ shop.select "test" = .ok [] := by
  obtain ⟨htags, hselect⟩ := tags_of_load bundled taggedShop ⟨"/shop"⟩
    (hasBundledSchemas_bundled taggedShop) ascends_taggedShop load_taggedShop
  refine ⟨load_taggedShop, ?_, hselect "api" (by decide), hselect "orders" (by decide),
    hselect "smoke" (by decide), hselect "test" (by decide)⟩
  obtain ⟨-, -, hcontains⟩ := htags _ List.mem_cons_self _ List.mem_cons_self
  refine List.forall_mem_singleton.2 fun tag htag => (hcontains tag).trans ?_
  revert tag
  simp only [List.forall_mem_cons]
  exact ⟨rfl, rfl, rfl, rfl, List.forall_mem_nil _⟩

open Tag in
/-- Behind the name of a tag a second word is left over. -/
theorem parse_smoke_test : Query.parse "smoke test" = .error (.leftover ⟨6, .word "test"⟩) := by
  let words : List Token := [⟨0, .word "smoke"⟩, ⟨6, .word "test"⟩]
  have htokens : tokens "smoke test" = .ok words := by cbv
  have hgroups : checkGroups 0 0 "smoke test".toList = .ok () := by decide +kernel
  have hoperand : Reads (readUnary "smoke test".utf8ByteSize 0 words) (.tag "smoke")
      [⟨6, .word "test"⟩] := by
    rw [readUnary_of_not_startsWith (by decide)]
    exact reads_tag ⟨⟨0, .word "smoke"⟩, "smoke", rfl⟩
  obtain ⟨hfewer, hread⟩ := reads_readOr (reads_readAnd hoperand (readsTail_readAndTail_nil rfl))
    (readsTail_readOrTail_nil rfl)
  rw [Query.parse, hgroups, htokens]
  simp only [bind, Except.bind, Except.mapError]
  rw [if_neg (by decide), hread]
  rfl

/-- A tag with a space in it is one of the scenario's, as its document lists it, but a query with
    this text is malformed. -/
theorem not_select_spaced :
    let setting := bundled.setting taggedShop
    setting.HasBundledSchemas ∧ taggedShop.documents.Ascends ∧
      (bundled.load taggedShop ⟨"/shop"⟩).1 = .ok shop ∧
      (∀ scenario ∈ shop.scenarios, scenario.tags.contains "smoke test" = true ∧
        setting.listsFor shop scenario "smoke test" = true) ∧
      shop.select "smoke test" =
        .error (.malformedQuery "smoke test" (.leftover ⟨6, .word "test"⟩)) := by
  refine ⟨hasBundledSchemas_bundled taggedShop, ascends_taggedShop, load_taggedShop, ?_, ?_⟩
  · exact List.forall_mem_singleton.2 ⟨rfl, rfl⟩
  · rw [Application.select, parse_smoke_test]

end Loader

end ScenarioTree
