import ScenarioTree.Proofs.Format.Toml
import ScenarioTree.Proofs.Format.Yaml
import ScenarioTree.Source

/-!
# Maps in the documents of a disk

Whatever the format of a file, the maps of its document ascend by their keys. So the documents of a
disk are as other parts of the theory assume documents to be.

Results:

* `Json.ascends_of_parse`, `DotEnv.ascends_of_parse`: the maps of a document in one format.
* `Disk.ascends_source`: the maps of the documents of a disk.
-/

namespace ScenarioTree

open Reference (IsScalar)

namespace Json

theorem isScalar_of_scalar {cs rest : List Char} {v : Value} (h : scalar cs = some (v, rest)) :
    IsScalar v := by
  unfold scalar at h
  split at h
  · obtain ⟨_, -, ⟨⟩⟩ := Option.map_eq_some_iff.1 h
    trivial
  · obtain ⟨_, -, ⟨⟩⟩ := Option.map_eq_some_iff.1 h
    trivial
  · obtain ⟨_, -, ⟨⟩⟩ := Option.map_eq_some_iff.1 h
    trivial
  · obtain ⟨_, -, ⟨⟩⟩ := Option.map_eq_some_iff.1 h
    trivial
  · obtain ⟨-, h⟩ := Option.ite_none_right_eq_some.1 h
    obtain ⟨_, -, ⟨⟩⟩ := Option.map_eq_some_iff.1 h
    trivial
  · cases h

-- What the three readers give, by the measure by which they end.
mutual

theorem ascends_value {depth : Nat} {cs : List Char} {v : Value} {rest : Rest cs}
    (h : value depth cs = some (v, rest)) : v.Ascends := by
  rw [value] at h
  split at h
  · obtain ⟨-, h⟩ := Option.ite_none_left_eq_some.1 h
    split at h
    · cases h
      exact Value.ascends_array.2 nofun
    · obtain ⟨⟨items, rest'⟩, hitems, h⟩ := Option.bind_eq_some_iff.1 h
      cases h
      exact Value.ascends_array.2 (ascends_items hitems)
  · obtain ⟨-, h⟩ := Option.ite_none_left_eq_some.1 h
    split at h
    · cases h
      exact Value.ascends_object.2 ⟨.nil, nofun⟩
    · obtain ⟨⟨entries, rest'⟩, hentries, h⟩ := Option.bind_eq_some_iff.1 h
      cases h
      exact Value.ascends_ofEntries (ascends_entries hentries)
  · split at h
    · cases h
    · rename_i hscalar
      cases h
      exact Value.ascends_of_isScalar (isScalar_of_scalar hscalar)
termination_by (cs.length, 0)
decreasing_by
  all_goals
    have := length_skip cs
    simp only [Prod.lex_def]
    grind

theorem ascends_items {depth : Nat} {cs : List Char} {vs : List Value} {rest : Rest cs}
    (h : items depth cs = some (vs, rest)) : ∀ v ∈ vs, v.Ascends := by
  rw [items] at h
  obtain ⟨⟨v, rest'⟩, hv, h⟩ := Option.bind_eq_some_iff.1 h
  dsimp only at h
  split at h
  · cases h
    exact List.forall_mem_singleton.2 (ascends_value hv)
  · obtain ⟨⟨vs', rest''⟩, hvs, h⟩ := Option.bind_eq_some_iff.1 h
    cases h
    exact List.forall_mem_cons.2 ⟨ascends_value hv, ascends_items hvs⟩
  · cases h
termination_by (cs.length, 1)
decreasing_by
  · simp [Prod.lex_def]
  · simp [Prod.lex_def]
  · have := length_skip rest'.1
    have := rest'.2
    simp only [Prod.lex_def]
    grind

theorem ascends_entries {depth : Nat} {cs : List Char} {es : List (String × Value)} {rest : Rest cs}
    (h : entries depth cs = some (es, rest)) : ∀ entry ∈ es, entry.2.Ascends := by
  rw [entries] at h
  split at h
  · split at h
    · cases h
    · rename_i hs
      -- The recursion is on the length of the text, from which the key has been taken.
      have hkey := length_of_stringBody hs
      split at h
      · obtain ⟨⟨v, rest'⟩, hv, h⟩ := Option.bind_eq_some_iff.1 h
        dsimp only at h
        split at h
        · cases h
          exact List.forall_mem_singleton.2 (ascends_value hv)
        · obtain ⟨⟨es', rest''⟩, hes, h⟩ := Option.bind_eq_some_iff.1 h
          cases h
          exact List.forall_mem_cons.2 ⟨ascends_value hv, ascends_entries hes⟩
        · cases h
      · cases h
  · cases h
termination_by (cs.length, 1)
decreasing_by
  all_goals
    simp only [Prod.lex_def]
    grind [length_skip]

end

theorem ascends_of_parse {text : String} {v : Value} (h : parse? text = some v) : v.Ascends := by
  obtain ⟨⟨v', rest⟩, hv, h⟩ := Option.bind_eq_some_iff.1 h
  obtain ⟨-, h⟩ := Option.ite_none_right_eq_some.1 h
  cases h
  exact ascends_value hv

end Json

theorem DotEnv.ascends_of_parse {process : Variables} {text : String} {v : Value}
    (h : parse? process text = some v) : v.Ascends := by
  obtain ⟨file, -, h⟩ := Option.bind_eq_some_iff.1 h
  obtain ⟨-, ⟨⟩⟩ := Option.ite_none_right_eq_some.1 h
  refine Value.ascends_ofEntries fun entry hentry => ?_
  obtain ⟨_, -, rfl⟩ := List.mem_map.1 hentry
  exact Value.ascends_of_isScalar trivial

theorem Format.ascends_of_parse {process : Variables} {format : Format} {text : String} {v : Value}
    (h : format.parse? process text = some v) : v.Ascends := by
  cases format with
  | json => exact Json.ascends_of_parse h
  | yaml => exact Yaml.ascends_of_parse h
  | toml => exact Toml.ascends_of_parse h
  | dotEnv => exact DotEnv.ascends_of_parse h

/-- The maps of all documents of a disk ascend. -/
theorem Disk.ascends_source (disk : Disk) : disk.source.Ascends := by
  intro path document h
  obtain ⟨format, -, h⟩ := bind_eq_ok_iff.1 h
  unfold Disk.document at h
  split at h
  · unfold Format.parse at h
    split at h
    · rename_i hparse
      cases h
      exact Format.ascends_of_parse hparse
    · cases h
  · cases h
  · cases h

end ScenarioTree
