import ScenarioTree.Tag.Query

/-!
# Selecting by tags

The operators that select the members of a list by their tags. All of them keep the order of the
list and the number of times that a member occurs.
-/

namespace ScenarioTree.Tag

/-- What carries tags. -/
class Tagged (α : Type) where
  tags : α → TagSet

variable {α : Type} [Tagged α]

/-- The members whose tags have a property. -/
def keep (has : TagSet → Bool) (items : List α) : List α :=
  items.filter fun item => has (Tagged.tags item)

/-- The members with a tag. -/
def having (tag : String) (items : List α) : List α := keep (·.contains tag) items

/-- The members without a tag. -/
def lacking (tag : String) (items : List α) : List α := keep (!·.contains tag) items

/-- The members with both tags. -/
def havingBoth (a b : String) (items : List α) : List α :=
  keep (fun tags => tags.contains a && tags.contains b) items

/-- The members with at least one of two tags. -/
def havingEither (a b : String) (items : List α) : List α :=
  keep (fun tags => tags.contains a || tags.contains b) items

/-- The members with at least one of the tags. -/
def havingAny (any : List String) (items : List α) : List α :=
  keep (fun tags => any.any tags.contains) items

/-- The members with none of the tags. -/
def havingNone (any : List String) (items : List α) : List α :=
  keep (fun tags => !any.any tags.contains) items

/-- The members that a query selects. -/
def Query.select (query : Query) (items : List α) : List α := keep query.expr.eval items

end ScenarioTree.Tag
