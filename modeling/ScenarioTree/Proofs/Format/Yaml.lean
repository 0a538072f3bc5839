import ScenarioTree.Format.Yaml
import ScenarioTree.Proofs.Reference.Ascending

/-!
# Maps in YAML documents

Pairs of a mapping are sorted when the mapping is done, so the maps of a YAML document ascend. This
holds for mappings that an alias repeats as well.

Results:

* `isScalar_of_scalarValue`: a YAML scalar is a scalar.
* `ascends_nodeValue`: the value of a node, by the recursion on what may still nest.
* `ascends_of_parse`: the maps of a document ascend.
-/

namespace ScenarioTree.Yaml

open Reference (IsScalar)

/-! ## Scalars -/

theorem isScalar_of_float {text : List Char} {v : Value} (h : float? text = some v) :
    IsScalar v := by
  unfold float? at h
  obtain ⟨-, h⟩ := Option.ite_none_left_eq_some.1 h
  split_ifs at h
  · cases h
    trivial
  · cases h
    trivial
  · obtain ⟨_, -, ⟨⟩⟩ := Option.map_eq_some_iff.1 h
    trivial

theorem isScalar_of_readInteger {n : Int} {v : Value} (h : readInteger n = .value v) :
    IsScalar v := by
  unfold readInteger at h
  split_ifs at h
  cases h
  trivial

/-- What a text stands for as a number has been taken for an integer or for a float. -/
theorem isScalar_of_readNumber {text : List Char} {v : Value} (h : readNumber text = .value v) :
    IsScalar v := by
  obtain ⟨n, hinteger⟩ | hfloat : (∃ n, readInteger n = .value v) ∨ float? text = some v := by
    unfold readNumber at h
    grind
  · exact isScalar_of_readInteger hinteger
  · exact isScalar_of_float hfloat

theorem isScalar_of_plainValue {text : String} {v : Value} (h : plainValue? text = some v) :
    IsScalar v := by
  unfold plainValue? at h
  split_ifs at h
  · cases h
    trivial
  · split at h
    · cases h
      trivial
    · split at h
      · rename_i hnumber
        cases h
        exact isScalar_of_readNumber hnumber
      · cases h
      · cases h
        trivial

theorem isScalar_of_taggedValue {tag text : String} {v : Value}
    (h : taggedValue? tag text = some v) : IsScalar v := by
  unfold taggedValue? at h
  split_ifs at h
  · obtain ⟨_, -, ⟨⟩⟩ := Option.map_eq_some_iff.1 h
    trivial
  · obtain ⟨n, -, h⟩ := Option.bind_eq_some_iff.1 h
    split at h
    · rename_i hnumber
      cases h
      exact isScalar_of_readInteger hnumber
    · cases h
  · exact isScalar_of_float h
  · cases h
    trivial
  · cases h
    trivial

theorem isScalar_of_scalarValue {tag : Option String} {plain : Bool} {text : String} {v : Value}
    (h : scalarValue? tag plain text = some v) : IsScalar v := by
  unfold scalarValue? at h
  split at h
  · exact isScalar_of_taggedValue h
  · split_ifs at h
    · exact isScalar_of_plainValue h
    · cases h
      trivial

/-! ## Nodes -/

-- The target of an alias is no part of the node, so the recursion is on what may still nest.
mutual

theorem ascends_nodeValue {targets : Targets} {depth jumps left : Nat} {node : Node} {v : Value}
    (h : nodeValue? targets depth jumps node = some (v, left)) : v.Ascends := by
  have hscalar {tag : Option String} {plain : Bool} {text : String} {jumps : Nat}
      (h : (scalarValue? tag plain text).map (·, jumps) = some (v, left)) : v.Ascends := by
    obtain ⟨_, hv, ⟨⟩⟩ := Option.map_eq_some_iff.1 h
    exact Value.ascends_of_isScalar (isScalar_of_scalarValue hv)
  rw [nodeValue?.eq_def] at h
  match node, h with
  | .scalar .., h => exact hscalar h
  | .alias anchor, h =>
    dsimp only at h
    split at h
    · exact hscalar h
    · exact ascends_sequenceValue h
    · exact ascends_mappingValue h
    · cases h
  | .sequence .., h => exact ascends_sequenceValue h
  | .mapping .., h => exact ascends_mappingValue h
termination_by (depth, 2, 0)

theorem ascends_sequenceValue {targets : Targets} {depth jumps left : Nat} {tag : Option String}
    {items : List Node} {v : Value}
    (h : sequenceValue? targets depth jumps tag items = some (v, left)) : v.Ascends := by
  rw [sequenceValue?.eq_def] at h
  cases depth with
  | zero => cases h
  | succ depth =>
    obtain ⟨-, h⟩ := Option.ite_none_right_eq_some.1 h
    obtain ⟨_, hitems, ⟨⟩⟩ := Option.map_eq_some_iff.1 h
    exact Value.ascends_array.2 (ascends_itemValues hitems)
termination_by (depth, 1, 0)

theorem ascends_mappingValue {targets : Targets} {depth jumps left : Nat} {tag : Option String}
    {pairs : List (Node × Node)} {v : Value}
    (h : mappingValue? targets depth jumps tag pairs = some (v, left)) : v.Ascends := by
  rw [mappingValue?.eq_def] at h
  cases depth with
  | zero => cases h
  | succ depth =>
    obtain ⟨-, h⟩ := Option.ite_none_right_eq_some.1 h
    obtain ⟨_, hpairs, ⟨⟩⟩ := Option.map_eq_some_iff.1 h
    exact Value.ascends_ofEntries (ascends_pairValues hpairs)
termination_by (depth, 1, 0)

theorem ascends_itemValues {targets : Targets} {depth jumps left : Nat} {items : List Node}
    {vs : List Value} (h : itemValues? targets depth jumps items = some (vs, left)) :
    ∀ v ∈ vs, v.Ascends := by
  cases items with
  | nil =>
    rw [itemValues?] at h
    cases h
    exact nofun
  | cons item rest =>
    rw [itemValues?] at h
    obtain ⟨_, hv, h⟩ := Option.bind_eq_some_iff.1 h
    obtain ⟨_, hvs, h⟩ := Option.bind_eq_some_iff.1 h
    cases h
    exact List.forall_mem_cons.2 ⟨ascends_nodeValue hv, ascends_itemValues hvs⟩
termination_by (depth, 3, items.length)

theorem ascends_pairValues {targets : Targets} {depth jumps left : Nat}
    {pairs : List (Node × Node)} {entries : List (String × Value)}
    (h : pairValues? targets depth jumps pairs = some (entries, left)) :
    ∀ entry ∈ entries, entry.2.Ascends := by
  cases pairs with
  | nil =>
    rw [pairValues?] at h
    cases h
    exact nofun
  | cons pair rest =>
    rw [pairValues?] at h
    obtain ⟨_, -, h⟩ := Option.bind_eq_some_iff.1 h
    obtain ⟨_, hv, h⟩ := Option.bind_eq_some_iff.1 h
    obtain ⟨_, hentries, h⟩ := Option.bind_eq_some_iff.1 h
    cases h
    exact List.forall_mem_cons.2 ⟨ascends_nodeValue hv, ascends_pairValues hentries⟩
termination_by (depth, 3, pairs.length)

end

theorem ascends_of_parse {text : String} {v : Value} (h : parse? text = some v) : v.Ascends := by
  obtain ⟨tokens, -, h⟩ := Option.bind_eq_some_iff.1 h
  obtain ⟨document, -, h⟩ := Option.bind_eq_some_iff.1 h
  cases document with
  | none =>
    cases h
    exact Value.ascends_of_isScalar trivial
  | some node =>
    obtain ⟨_, hv, h⟩ := Option.bind_eq_some_iff.1 h
    cases h
    exact ascends_nodeValue hv

end ScenarioTree.Yaml
