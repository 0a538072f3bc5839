import ScenarioTree.Proofs.Basic
import ScenarioTree.Schema.Linked

/-!
# Registries that add up

What a document enters into a registry does not hang on what the registry knows already. So a schema
that neither gives itself an identifier nor refers to anything is read as if there were no other
schemas.

Results:

* `Registry.including_eq_map_onto`: to enter a document is to pile up what it enters on its own.
* `Linked.ofValue_eq_ok`: a schema that stands alone.
-/

namespace ScenarioTree.Schema

namespace Registry

/-! ## Piles -/

/-- A registry on top of another one, which counts where the upper one knows nothing. -/
def onto (upper lower : Registry) : Registry :=
  ⟨upper.resources ++ lower.resources, upper.anchors ++ lower.anchors⟩

/-- An intake whose registry is on top of another one. -/
def Intake.onto (intake : Intake) (lower : Registry) : Intake :=
  ⟨intake.registry.onto lower, intake.mentioned⟩

section Onto

variable (lower : Registry)

theorem Intake.enter_onto (intake : Intake) (base : Uri) (resource : Resource) :
    (intake.onto lower).enter base resource =
      (intake.enter base resource).map fun entered => (entered.1.onto lower, entered.2) := by
  have hanchors (base : Uri) (upper : Registry) : (upper.onto lower).insertAnchors base resource =
      (upper.insertAnchors base resource).onto lower := by
    simp only [insertAnchors, Registry.onto, List.append_assoc]
  have hinsert (base : Uri) (upper : Registry) : (upper.onto lower).insert base resource =
      (upper.insert base resource).onto lower := rfl
  unfold Intake.enter
  simp only [bind, Except.bind, pure, Except.pure]
  cases resource.identifier? with
  | none =>
    simp only
    cases resource.mentions base <;> cases resource.below <;>
      simp [Except.map, Intake.onto, hanchors]
  | some text =>
    simp only
    cases locate base text with
    | error fault => rfl
    | ok inner =>
      simp only
      cases resource.mentions inner <;> cases resource.below <;>
        simp [Except.map, Intake.onto, hanchors, hinsert]

theorem Intake.enterLevel_onto (level : List (Uri × Resource)) (intake : Intake) :
    (intake.onto lower).enterLevel level =
      (intake.enterLevel level).map fun entered => (entered.1.onto lower, entered.2) := by
  induction level generalizing intake with
  | nil => rfl
  | cons first rest ih =>
    obtain ⟨base, resource⟩ := first
    rw [Intake.enterLevel, Intake.enterLevel, Intake.enter_onto]
    cases intake.enter base resource with
    | error fault => rfl
    | ok entered =>
      simp only [Except.map, bind, Except.bind, ih]
      cases entered.1.enterLevel rest <;> rfl

theorem Intake.enterLevels_cons (intake : Intake) (levels : Nat) (first : Uri × Resource)
    (rest : List (Uri × Resource)) : intake.enterLevels (levels + 1) (first :: rest) =
      intake.enterLevel (first :: rest) >>= fun entered => entered.1.enterLevels levels entered.2 :=
  rfl

theorem Intake.enterLevels_onto (levels : Nat) (level : List (Uri × Resource)) (intake : Intake) :
    (intake.onto lower).enterLevels levels level =
      (intake.enterLevels levels level).map (·.onto lower) := by
  induction levels generalizing level intake with
  | zero => rw [Intake.enterLevels, Intake.enterLevels]; rfl
  | succ levels ih =>
    cases level with
    | nil => rfl
    | cons first rest =>
      rw [Intake.enterLevels_cons, Intake.enterLevels_cons, Intake.enterLevel_onto]
      cases intake.enterLevel (first :: rest) with
      | error fault => rfl
      | ok entered => exact ih entered.2 entered.1

/-- To enter a document is to pile up what it enters on its own. -/
theorem including_eq_map_onto (uri : Uri) (resource : Resource) :
    lower.including uri resource = (empty.including uri resource).map (·.onto lower) :=
  Intake.enterLevels_onto lower resource.contents.depth [(uri, resource)]
    ⟨empty.insert uri resource, []⟩

end Onto

end Registry

end ScenarioTree.Schema

namespace ScenarioTree.Linked

open Schema (Registry Resource defaultBase)

/-! ## Schemas of one document -/

/-- A well-formed schema that neither gives itself an identifier nor refers to anything stands
    alone. -/
theorem ofValue_eq_ok {schema : Value} {intake : Registry.Intake}
    (hidentifier : (Resource.mk .draft7 schema).identifier? = none)
    (hintake : Registry.empty.including defaultBase ⟨.draft7, schema⟩ = .ok intake)
    (hmentioned : intake.mentioned = []) (hformed : ofSchemas.violations schema = [])
    (hends : (Schema.ofValue (Registry.contextOf .draft7 defaultBase ⟨[], none⟩ schema) "schema"
      schema).looseEnds = []) :
    ofValue schema = .ok ⟨Schema.ofValue
      (Registry.contextOf .draft7 defaultBase ⟨[], none⟩ schema) "schema" schema, []⟩ := by
  have hcontext : (Registry.contextOf .draft7 defaultBase ⟨[], none⟩ schema).enterAs
      ⟨.draft7, schema⟩ = .ok (Registry.contextOf .draft7 defaultBase ⟨[], none⟩ schema) := by
    simp only [Schema.Context.enterAs, hidentifier]
    rfl
  have hincluding : Registry.standard.including defaultBase ⟨.draft7, schema⟩ =
      pure (intake.onto Registry.standard) := by
    rw [Registry.including_eq_map_onto, hintake]
    rfl
  have hmentioned : (intake.onto Registry.standard).mentioned = [] := hmentioned
  rw [ofValue]
  -- Not by unfolding the binds, which sends the kernel into the schemas of schemas.
  simp only [hidentifier, hincluding, pure_bind, hmentioned, List.filter_nil, hformed]
  exact ofResource_of_looseEnds hcontext hends

/-- The schema that admits everything can be used. -/
theorem ofValue_bool_true : ofValue (.bool true) = .ok ⟨.always, []⟩ := by
  obtain ⟨intake, hintake, hmentioned⟩ : ∃ intake,
      Registry.empty.including defaultBase ⟨.draft7, .bool true⟩ = .ok intake ∧
        intake.mentioned = [] := ⟨_, rfl, rfl⟩
  have hformed : (ofSchemas.violations (.bool true)).isEmpty = true := by decide +kernel
  exact ofValue_eq_ok rfl hintake hmentioned (List.isEmpty_iff.1 hformed) rfl

end ScenarioTree.Linked
