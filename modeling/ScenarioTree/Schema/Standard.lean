import ScenarioTree.Schema.Standard.Draft4
import ScenarioTree.Schema.Standard.Draft7
import ScenarioTree.Schema.Standard.Vocabularies

/-!
# The schemas of schemas

The documents that every schema can refer to, under their identifiers.
-/

namespace ScenarioTree.Schema.Standard

/-- The documents under their identifiers, with their drafts. -/
def documents : List (Draft × String × Value) :=
  [(.draft4, Draft.draft4.identifier, Draft4.document),
    (.draft6, Draft.draft6.identifier, Draft7.documentOfDraft6),
    (.draft7, Draft.draft7.identifier, Draft7.document)]
    ++ Vocabularies.documents2019.map (.draft2019, ·)
    ++ Vocabularies.documents2020.map (.draft2020, ·)

end ScenarioTree.Schema.Standard
