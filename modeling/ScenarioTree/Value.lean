import ScenarioTree.Number.Binary64

/-!
# Values

The generic tree that every document format reads into: null, Booleans, numbers, strings, lists and
maps with string keys. The fields of a map are kept in ascending order of their keys, each key once;
`Fields.insert` keeps that order. Keys compare by code points, which is also the order of their
UTF-8 bytes.

Results:

* `Value.same_refl`: every value equals itself.
* `Fields.get?_insert_self`, `Fields.get?_insert_of_ne`: the reading laws of an insertion.
* `Fields.sorted_insert`: insertion keeps the keys ascending.
-/

namespace ScenarioTree

/-- A number of a document: an integer, or a number with a fraction or exponent. -/
inductive Number where
  | int (value : Int)
  | float (value : Binary64)
  deriving DecidableEq

/-- A document tree. -/
inductive Value where
  | null
  | bool (value : Bool)
  | number (value : Number)
  | string (value : String)
  | array (items : List Value)
  | object (fields : List (String × Value))

/-- The fields of a map. -/
abbrev Fields := List (String × Value)

instance : Inhabited Value := ⟨.null⟩

/-! ## Equality -/

/-- Equality of numbers. An integer differs from every float; the two zeros are equal. -/
def Number.same : Number → Number → Bool
  | .int m, .int n => m == n
  | .float x, .float y => x.same y
  | _, _ => false

mutual

/-- Equality of values, number by number and field by field. -/
def Value.same : Value → Value → Bool
  | .null, .null => true
  | .bool a, .bool b => a == b
  | .number a, .number b => a.same b
  | .string a, .string b => a == b
  | .array a, .array b => Value.sameItems a b
  | .object a, .object b => Value.sameFields a b
  | _, _ => false

/-- Equality of lists, item by item. -/
def Value.sameItems : List Value → List Value → Bool
  | [], [] => true
  | a :: as, b :: bs => a.same b && Value.sameItems as bs
  | _, _ => false

/-- Equality of fields, in their order. -/
def Value.sameFields : List (String × Value) → List (String × Value) → Bool
  | [], [] => true
  | (k, a) :: as, (l, b) :: bs => k == l && a.same b && Value.sameFields as bs
  | _, _ => false

end

theorem Number.same_refl (n : Number) : n.same n = true := by
  cases n <;> simp [Number.same, Binary64.same_refl]

mutual

theorem Value.same_refl : ∀ v : Value, v.same v = true
  | .null => by simp [Value.same]
  | .bool _ => by simp [Value.same]
  | .number n => by simp [Value.same, n.same_refl]
  | .string _ => by simp [Value.same]
  | .array items => by simp [Value.same, Value.sameItems_refl items]
  | .object fields => by simp [Value.same, Value.sameFields_refl fields]

theorem Value.sameItems_refl : ∀ items : List Value, Value.sameItems items items = true
  | [] => by simp [Value.sameItems]
  | v :: rest => by simp [Value.sameItems, v.same_refl, Value.sameItems_refl rest]

theorem Value.sameFields_refl :
    ∀ fields : List (String × Value), Value.sameFields fields fields = true
  | [] => by simp [Value.sameFields]
  | (k, v) :: rest => by simp [Value.sameFields, v.same_refl, Value.sameFields_refl rest]

end

/-! ## Fields -/

namespace Fields

/-- The value under a key. -/
def get? (key : String) (fields : Fields) : Option Value := fields.lookup key

/-- The keys, in order. -/
def keys (fields : Fields) : List String := fields.map Prod.fst

/-- Puts a value under a key, in place of the value that was there. -/
def insert (key : String) (value : Value) : Fields → Fields
  | [] => [(key, value)]
  | (k, v) :: rest =>
    if key < k then (key, value) :: (k, v) :: rest
    else if key = k then (key, value) :: rest
    else (k, v) :: insert key value rest

/-- The fields of a list of entries, of which the last one under a key counts. -/
def ofList (entries : List (String × Value)) : Fields :=
  entries.foldl (fun fields entry => insert entry.1 entry.2 fields) []

/-- The fields without a key. -/
def erase (key : String) (fields : Fields) : Fields := fields.filter (·.1 != key)

/-- Whether a key is present. -/
def contains (key : String) (fields : Fields) : Bool := (get? key fields).isSome

theorem get?_cons (key k : String) (v : Value) (rest : Fields) :
    get? key ((k, v) :: rest) = if key = k then some v else get? key rest := by
  simp only [get?, List.lookup_cons]
  by_cases h : key = k
  · simp [h]
  · simp [h, beq_eq_false_iff_ne.2 h]

theorem get?_insert_self (key : String) (value : Value) (fields : Fields) :
    get? key (insert key value fields) = some value := by
  induction fields with
  | nil => rw [insert, get?_cons, if_pos rfl]
  | cons entry rest ih =>
    obtain ⟨k, v⟩ := entry
    unfold insert
    split
    · rw [get?_cons, if_pos rfl]
    · split
      · rw [get?_cons, if_pos rfl]
      · rename_i hne
        rw [get?_cons, if_neg hne, ih]

theorem get?_insert_of_ne {key other : String} (h : other ≠ key) (value : Value)
    (fields : Fields) : get? other (insert key value fields) = get? other fields := by
  induction fields with
  | nil => rw [insert, get?_cons, if_neg h]
  | cons entry rest ih =>
    obtain ⟨k, v⟩ := entry
    unfold insert
    split
    · rw [get?_cons, if_neg h]
    · split
      · rename_i heq
        subst heq
        rw [get?_cons, get?_cons, if_neg h, if_neg h]
      · rw [get?_cons, get?_cons, ih]

/-- The keys ascend, so that each occurs once. -/
def Sorted (fields : Fields) : Prop := (keys fields).Pairwise (· < ·)

theorem mem_keys_insert {key other : String} {value : Value} {fields : Fields} :
    other ∈ keys (insert key value fields) ↔ other = key ∨ other ∈ keys fields := by
  induction fields with
  | nil => simp [insert, keys]
  | cons entry rest ih =>
    obtain ⟨k, v⟩ := entry
    unfold insert
    split
    · simp [keys]
    · split
      · rename_i heq
        subst heq
        simp [keys]
      · simp only [keys, List.map_cons, List.mem_cons] at ih ⊢
        rw [ih]
        grind

theorem sorted_insert {fields : Fields} (h : Sorted fields) (key : String) (value : Value) :
    Sorted (insert key value fields) := by
  induction fields with
  | nil => simp [insert, Sorted, keys]
  | cons entry rest ih =>
    obtain ⟨k, v⟩ := entry
    simp only [Sorted, keys, List.map_cons, List.pairwise_cons] at h
    unfold insert
    split
    · rename_i hlt
      simp only [Sorted, keys, List.map_cons, List.pairwise_cons, List.mem_cons]
      refine ⟨fun l hl => ?_, h⟩
      rcases hl with rfl | hl
      · exact hlt
      · exact String.lt_trans hlt (h.1 l hl)
    · split
      · rename_i heq
        subst heq
        simpa [Sorted, keys] using h
      · rename_i hnlt hne
        simp only [Sorted, keys, List.map_cons, List.pairwise_cons]
        refine ⟨fun l hl => ?_, ih h.2⟩
        have hl : l ∈ keys (insert key value rest) := hl
        rcases mem_keys_insert.1 hl with rfl | hl
        · exact Decidable.byContradiction fun hge =>
            hne (String.le_antisymm (String.not_lt.1 hge) (String.not_lt.1 hnlt))
        · exact h.1 l hl

end Fields

namespace Value

/-! ## Views -/

def isNull : Value → Bool
  | .null => true
  | _ => false

def asString? : Value → Option String
  | .string s => some s
  | _ => none

def asArray? : Value → Option (List Value)
  | .array items => some items
  | _ => none

def asObject? : Value → Option Fields
  | .object fields => some fields
  | _ => none

/-- The value under a key of a map. -/
def get? (key : String) : Value → Option Value
  | .object fields => Fields.get? key fields
  | _ => none

/-- A map of the given entries, of which the last one under a key counts. -/
def ofEntries (entries : List (String × Value)) : Value := .object (Fields.ofList entries)

mutual

/-- How deep the parts of a value nest. -/
def depth : Value → Nat
  | .array items => depthOfItems items + 1
  | .object fields => depthOfFields fields + 1
  | _ => 1

def depthOfItems : List Value → Nat
  | [] => 0
  | v :: rest => max v.depth (depthOfItems rest)

def depthOfFields : List (String × Value) → Nat
  | [] => 0
  | (_, v) :: rest => max v.depth (depthOfFields rest)

end

mutual

/-- How many values a value holds, with itself. -/
def count : Value → Nat
  | .array items => countOfItems items + 1
  | .object fields => countOfFields fields + 1
  | _ => 1

def countOfItems : List Value → Nat
  | [] => 0
  | v :: rest => v.count + countOfItems rest

def countOfFields : List (String × Value) → Nat
  | [] => 0
  | (_, v) :: rest => v.count + countOfFields rest

end

/-- A list of strings. -/
def ofStrings (items : List String) : Value := .array (items.map .string)

end Value

end ScenarioTree
