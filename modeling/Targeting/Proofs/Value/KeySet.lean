import Mathlib
import Targeting.Value.Key
import Targeting.Proofs.SortedMap

namespace Targeting.KeySet

variable {keys : KeySet} {key : Key}

theorem mem_toList : key ∈ keys.toList ↔ keys.find? key = some () := by
  rw [toList, SortedMap.mem_keys]
  exact ⟨fun ⟨_, h⟩ => h, fun h => ⟨_, h⟩⟩

theorem nodup_toList (keys : KeySet) : keys.toList.Nodup := SortedMap.nodup_keys _

theorem mem_foldl_insert {more : List Key} :
    key ∈ (more.foldl insert keys).toList ↔ key ∈ keys.toList ∨ key ∈ more := by
  induction more generalizing keys with
  | nil => simp
  | cons k rest ih =>
    have hinsert : key ∈ (keys.insert k).toList ↔ key = k ∨ key ∈ keys.toList := by
      rw [mem_toList, mem_toList, insert, SortedMap.find?_insert]
      by_cases hkey : key = k <;> simp [hkey]
    rw [List.foldl_cons, ih, hinsert, List.mem_cons, or_assoc, or_left_comm]

theorem mem_ofValues {values : List Value} :
    key ∈ (ofValues values).toList ↔ ∃ v ∈ values, v.key = key := by
  have hkeys : ofValues values = (values.map Value.key).foldl insert SortedMap.empty := by
    rw [ofValues, List.foldl_map]
  rw [hkeys, mem_foldl_insert, mem_toList, SortedMap.find?_empty, List.mem_map]
  simp

theorem ofValues_eq {values : List Value} (h : values.map Value.key = keys.toList) :
    ofValues values = keys := by
  refine SortedMap.ext_find? fun k => ?_
  have hmem : (ofValues values).find? k = some () ↔ keys.find? k = some () := by
    rw [← mem_toList, mem_ofValues, ← mem_toList, ← h, List.mem_map]
  cases hleft : (ofValues values).find? k with
  | none =>
    cases hright : keys.find? k with
    | none => rfl
    | some _ => exact absurd (hmem.mpr hright) (by simp [hleft])
  | some _ => exact (hmem.mp hleft).symm

end Targeting.KeySet
