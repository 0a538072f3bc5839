import ScenarioTree.Value

/-!
# Tag sets

The tags of a scenario: strings in ascending order, each once. They come from the strings of the
list that the metadata keep under `tags`.

Main results:

* `TagSet.contains_insert`: an insertion adds one tag and nothing else.
* `TagSet.contains_ofList`: a set made of a list has exactly the members of the list.
-/

namespace ScenarioTree

/-- A set of tags, as an ascending list. -/
structure TagSet where
  items : List String
  sorted : items.Pairwise (· < ·)

namespace TagSet

/-- Puts a string into an ascending list, unless it is there. -/
def insertInto (tag : String) : List String → List String
  | [] => [tag]
  | t :: rest =>
    if tag < t then tag :: t :: rest
    else if tag = t then t :: rest
    else t :: insertInto tag rest

theorem mem_insertInto {tag t : String} {items : List String} :
    t ∈ insertInto tag items ↔ t = tag ∨ t ∈ items := by
  induction items with
  | nil => simp [insertInto]
  | cons head rest ih =>
    unfold insertInto
    split
    · simp
    · split
      · rename_i heq
        subst heq
        simp
      · simp only [List.mem_cons, ih]
        grind

theorem pairwise_insertInto {tag : String} {items : List String}
    (h : items.Pairwise (· < ·)) : (insertInto tag items).Pairwise (· < ·) := by
  induction items with
  | nil => simp [insertInto]
  | cons head rest ih =>
    rw [List.pairwise_cons] at h
    unfold insertInto
    split
    · rename_i hlt
      refine List.pairwise_cons.2 ⟨fun t ht => ?_, List.pairwise_cons.2 h⟩
      rcases List.mem_cons.1 ht with rfl | ht
      · exact hlt
      · exact String.lt_trans hlt (h.1 t ht)
    · split
      · exact List.pairwise_cons.2 h
      · rename_i hnlt hne
        refine List.pairwise_cons.2 ⟨fun t ht => ?_, ih h.2⟩
        rcases mem_insertInto.1 ht with rfl | ht
        · exact Decidable.byContradiction fun hge =>
            hne (String.le_antisymm (String.not_lt.1 hge) (String.not_lt.1 hnlt))
        · exact h.1 t ht

/-- The set without tags. -/
def empty : TagSet := ⟨[], .nil⟩

def insert (tag : String) (tags : TagSet) : TagSet :=
  ⟨insertInto tag tags.items, pairwise_insertInto tags.sorted⟩

def ofList (items : List String) : TagSet := items.foldr insert empty

def contains (tags : TagSet) (tag : String) : Bool := tags.items.contains tag

def size (tags : TagSet) : Nat := tags.items.length

def isEmpty (tags : TagSet) : Bool := tags.items.isEmpty

/-- The key of the tags among the metadata. -/
def metaKey : String := "tags"

/-- The tags that metadata list: the strings of the list under `tags`. Anything else there does not
    count. -/
def ofMeta (fields : Option Fields) : TagSet :=
  match fields.bind (Fields.get? metaKey) with
  | some (.array items) => ofList (items.filterMap Value.asString?)
  | _ => empty

theorem contains_insert (tag t : String) (tags : TagSet) :
    (tags.insert tag).contains t = (t == tag || tags.contains t) := by
  rw [Bool.eq_iff_iff]
  simp [contains, insert, mem_insertInto]

theorem contains_ofList (items : List String) (tag : String) :
    (ofList items).contains tag = items.contains tag := by
  induction items with
  | nil => simp [ofList, empty, contains]
  | cons head rest ih =>
    have : ofList (head :: rest) = (ofList rest).insert head := rfl
    rw [this, contains_insert, ih, List.contains_cons]

end TagSet

end ScenarioTree
