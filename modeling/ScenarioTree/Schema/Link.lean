import ScenarioTree.Schema.Resource

/-!
# Links between schemas

A reference as it is written, with all that its meaning hangs on: the identifier of the document
around it, and the resources on the way to it. A context holds this for the schemas that stand
beside one another.
-/

namespace ScenarioTree.Schema

/-- What the resources on the way to a schema decide about. -/
structure Scope where
  /-- For each dynamic name the outermost resource that gives itself that name. -/
  named : List (String × Uri)
  /-- The outermost of those resources up to here that recur, all in a row. -/
  recurring : Option Uri
  deriving DecidableEq

/-- The keyword of a reference. -/
inductive LinkKind where
  | plain
  | recurring
  | dynamic
  deriving DecidableEq

def LinkKind.keyword : LinkKind → String
  | plain => "$ref"
  | recurring => "$recursiveRef"
  | dynamic => "$dynamicRef"

/-- A reference to a schema. -/
structure Link where
  text : String
  kind : LinkKind
  base : Uri
  scope : Scope
  deriving DecidableEq

/-- What the meaning of a schema hangs on. -/
structure Context where
  draft : Draft
  /-- Whether the later drafts have their keywords. -/
  hasVocabulary : Bool
  base : Uri
  scope : Scope

namespace Context

/-- The context of a schema that is a resource of a draft. -/
def enterAs (context : Context) (resource : Resource) : Except SchemaFault Context := do
  let context := { context with draft := resource.draft }
  match resource.identifier? with
  | none => return context
  | some text => return { context with base := ← locate context.base text }

/-- The context of a schema below. -/
def enter (context : Context) (contents : Value) : Except SchemaFault Context :=
  let draft := (context.draft.detect contents).toOption.getD .draft2020
  context.enterAs ⟨draft, contents⟩

/-- The link of a reference. -/
def link (context : Context) (kind : LinkKind) (text : String) : Link :=
  ⟨text, kind, context.base, context.scope⟩

end Context

end ScenarioTree.Schema
