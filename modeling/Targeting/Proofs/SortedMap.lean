import Mathlib
import Targeting.SortedMap.Lemmas

namespace Targeting.SortedMap

variable {κ ν ω α : Type} [Ord κ]

theorem isEmpty_iff {m : SortedMap κ ν} : m.isEmpty = true ↔ m.entries = [] := by
  rw [isEmpty, List.isEmpty_iff]

theorem entries_filter (m : SortedMap κ ν) (keep : κ → ν → Bool) :
    (m.filter keep).entries = m.entries.filter fun e => keep e.1 e.2 := by
  rw [filter, filterMap, ← List.filterMap_eq_filter]
  refine List.filterMap_congr fun e _ => ?_
  cases h : keep e.1 e.2 <;> simp [Option.guard, h]

theorem values_filter (m : SortedMap κ ν) (keep : ν → Bool) :
    (m.filter fun _ v => keep v).values = m.values.filter keep := by
  rw [values, entries_filter, values, List.filter_map]
  rfl

theorem flatMap_filterMap (m : SortedMap κ ν) (f : κ → ν → Option ω) (g : κ → ω → List α) :
    ((m.filterMap f).entries.flatMap fun e => g e.1 e.2)
      = m.entries.flatMap fun e => ((f e.1 e.2).map (g e.1)).getD [] := by
  change (m.entries.filterMap fun e => (f e.1 e.2).map fun v => (e.1, v)).flatMap _ = _
  induction m.entries with
  | nil => rfl
  | cons e rest ih => cases h : f e.1 e.2 <;> simp [h, ih]

variable [Std.LawfulEqOrd κ]

theorem nodup_keys (m : SortedMap κ ν) : m.keys.Nodup := by
  refine List.pairwise_map.mpr (m.ascending.imp ?_)
  intro a b hab he
  simp [he] at hab

theorem nodup_entries (m : SortedMap κ ν) : m.entries.Nodup :=
  List.Nodup.of_map Prod.fst m.nodup_keys

variable [Std.TransOrd κ]

theorem mem_keys {m : SortedMap κ ν} {k : κ} : k ∈ m.keys ↔ ∃ v, m.find? k = some v := by
  simp only [keys, List.mem_map, Prod.exists, mem_entries_iff]
  constructor
  · rintro ⟨_, v, h, rfl⟩
    exact ⟨v, h⟩
  · rintro ⟨v, h⟩
    exact ⟨k, v, h, rfl⟩

theorem mem_values {m : SortedMap κ ν} {v : ν} : v ∈ m.values ↔ ∃ k, m.find? k = some v := by
  simp only [values, List.mem_map, Prod.exists, mem_entries_iff]
  constructor
  · rintro ⟨k, _, h, rfl⟩
    exact ⟨k, h⟩
  · rintro ⟨k, h⟩
    exact ⟨k, v, h, rfl⟩

theorem contains_iff {m : SortedMap κ ν} {k : κ} : m.contains k = true ↔ k ∈ m.keys := by
  rw [mem_keys, contains, Option.isSome_iff_exists]

theorem keys_eq_of_contains {m : SortedMap κ ν} {n : SortedMap κ ω}
    (h : ∀ k, m.contains k = n.contains k) : m.keys = n.keys := by
  have hperm : m.keys.Perm n.keys := by
    refine (List.perm_ext_iff_of_nodup m.nodup_keys n.nodup_keys).mpr fun k => ?_
    rw [← contains_iff, ← contains_iff, h k]
  have hascending {ξ : Type} (m : SortedMap κ ξ) :
      m.keys.Pairwise fun a b => compare a b = .lt := List.pairwise_map.mpr m.ascending
  refine hperm.eq_of_pairwise ?_ (hascending m) (hascending n)
  intro a b _ _ hab hba
  exact absurd (Std.TransCmp.lt_trans hab hba) (by simp)

theorem size_eq_of_contains {m : SortedMap κ ν} {n : SortedMap κ ω}
    (h : ∀ k, m.contains k = n.contains k) : m.size = n.size := by
  rw [size, size, ← List.length_map Prod.fst, ← List.length_map Prod.fst]
  exact congrArg List.length (keys_eq_of_contains h)

theorem find?_entries [DecidableEq κ] (m : SortedMap κ ν) (k : κ) :
    (m.entries.find? fun e => decide (e.1 = k)).map Prod.snd = m.find? k := by
  cases h : m.entries.find? fun e => decide (e.1 = k) with
  | none =>
    cases hk : m.find? k with
    | none => rfl
    | some v => exact absurd (List.find?_eq_none.mp h (k, v) (mem_entries_iff.mpr hk)) (by simp)
  | some e =>
    have hkey : e.1 = k := by simpa using List.find?_some h
    rw [← hkey]
    exact (mem_entries_iff.mp (List.mem_of_find?_eq_some h)).symm

-- Of several new entries for one key the first counts.
theorem find?_foldl_insertNew [DecidableEq κ] (l : List (κ × ν)) (m : SortedMap κ ν) (k : κ) :
    (l.foldl (fun m e => m.insertNew e.1 e.2) m).find? k
      = (m.find? k).or ((l.find? fun e => decide (e.1 = k)).map Prod.snd) := by
  induction l generalizing m with
  | nil => simp
  | cons e rest ih =>
    rw [List.foldl_cons, ih, List.find?_cons]
    by_cases he : e.1 = k
    · rw [he, find?_insertNew_self]
      cases m.find? k <;> simp
    · rw [find?_insertNew_of_ne _ _ (Ne.symm he)]
      simp [he]

theorem find?_upsert [DecidableEq κ] (m : SortedMap κ ν) (a k : κ) (start : ν) (f : ν → ν) :
    (m.upsert a start f).find? k
      = if k = a then some (f ((m.find? a).getD start)) else m.find? k := by
  by_cases h : k = a
  · rw [if_pos h, h, find?_upsert_self]
  · rw [if_neg h, find?_upsert_of_ne _ _ _ h]

theorem find?_insert [DecidableEq κ] (m : SortedMap κ ν) (a k : κ) (v : ν) :
    (m.insert a v).find? k = if k = a then some v else m.find? k := by
  by_cases h : k = a
  · rw [if_pos h, h, find?_insert_self]
  · rw [if_neg h, find?_insert_of_ne _ _ h]

theorem find?_erase [DecidableEq κ] (m : SortedMap κ ν) (a k : κ) :
    (m.erase a).find? k = if k = a then none else m.find? k := by
  by_cases h : k = a
  · rw [if_pos h, h, find?_erase_self]
  · rw [if_neg h, find?_erase_of_ne _ h]

theorem mem_values_upsert [DecidableEq κ] {m : SortedMap κ ν} {k : κ} {start v : ν} {f : ν → ν}
    (h : v ∈ (m.upsert k start f).values) : v = f ((m.find? k).getD start) ∨ v ∈ m.values := by
  obtain ⟨a, ha⟩ := mem_values.mp h
  rw [find?_upsert] at ha
  split at ha
  · exact .inl (Option.some.inj ha).symm
  · exact .inr (mem_values.mpr ⟨a, ha⟩)

theorem exists_of_mem_values_filterMap {m : SortedMap κ ν} {f : ν → Option ω} {w : ω}
    (h : w ∈ (m.filterMap fun _ => f).values) : ∃ v ∈ m.values, f v = some w := by
  obtain ⟨k, hk⟩ := mem_values.mp h
  rw [find?_filterMap, Option.bind_eq_some_iff] at hk
  obtain ⟨v, hv, hw⟩ := hk
  exact ⟨v, mem_values.mpr ⟨k, hv⟩, hw⟩

theorem mem_keys_of_filterMap {m : SortedMap κ ν} {f : κ → ν → Option ω} {k : κ}
    (h : k ∈ (m.filterMap f).keys) : k ∈ m.keys := by
  obtain ⟨w, hw⟩ := mem_keys.mp h
  rw [find?_filterMap, Option.bind_eq_some_iff] at hw
  obtain ⟨v, hv, -⟩ := hw
  exact mem_keys.mpr ⟨v, hv⟩

theorem find?_filter (m : SortedMap κ ν) (keep : κ → ν → Bool) (k : κ) :
    (m.filter keep).find? k = (m.find? k).filter (keep k) := by
  rw [filter, find?_filterMap]
  cases m.find? k <;> rfl

-- Maps that agree key by key on what is read off them, where an absent key counts as nothing, agree
-- on all that is read off.
theorem flatMap_values_congr {m : SortedMap κ ν} {n : SortedMap κ ω} {f : ν → List α}
    {g : ω → List α} (h : ∀ k, ((m.find? k).map f).getD [] = ((n.find? k).map g).getD []) :
    m.values.flatMap f = n.values.flatMap g := by
  have hread {ξ : Type} (m : SortedMap κ ξ) (f : ξ → List α) :
      m.values.flatMap f
        = (m.filterMap fun _ v => if f v = [] then none else some (f v)).values.flatMap id := by
    rw [values, values, List.flatMap_map, List.flatMap_map]
    rw [flatMap_filterMap m (fun _ v => if f v = [] then none else some (f v)) fun _ l => id l]
    refine List.flatMap_congr fun e _ => ?_
    by_cases he : f e.2 = [] <;> simp [he]
  rw [hread m f, hread n g]
  congr 2
  refine ext_find? fun k => ?_
  have hk := h k
  rw [find?_filterMap, find?_filterMap]
  cases hm : m.find? k <;> cases hn : n.find? k <;> simp_all

-- Reading one map by the keys of another comes out the same from either side.
theorem flatMap_join (m : SortedMap κ ν) (n : SortedMap κ ω) (f : κ → ν → ω → List α) :
    (m.entries.flatMap fun e => ((n.find? e.1).map (f e.1 e.2)).getD [])
      = n.entries.flatMap fun e => ((m.find? e.1).map fun v => f e.1 v e.2).getD [] := by
  have hjoin : (m.filterMap fun k v => (n.find? k).map fun w => (v, w))
      = n.filterMap fun k w => (m.find? k).map fun v => (v, w) := by
    refine ext_find? fun k => ?_
    rw [find?_filterMap, find?_filterMap]
    cases m.find? k <;> cases n.find? k <;> rfl
  have hm := flatMap_filterMap m (fun k v => (n.find? k).map fun w => (v, w))
    fun k (e : ν × ω) => f k e.1 e.2
  have hn := flatMap_filterMap n (fun k w => (m.find? k).map fun v => (v, w))
    fun k (e : ν × ω) => f k e.1 e.2
  rw [hjoin, hn] at hm
  simp only [Option.map_map, Function.comp_def] at hm
  exact hm.symm

-- Looking up some keys reads the entries that have them.
theorem flatMap_find?_perm [DecidableEq κ] (m : SortedMap κ (List α)) {keys : List κ}
    (hkeys : keys.Nodup) :
    (keys.flatMap fun k => (m.find? k).getD []).Perm
      (m.entries.flatMap fun e => if e.1 ∈ keys then e.2 else []) := by
  have hpresent : (keys.flatMap fun k => (m.find? k).getD [])
      = (keys.filter m.contains).flatMap fun k => (m.find? k).getD [] := by
    induction keys with
    | nil => rfl
    | cons k rest ih =>
      rw [List.flatMap_cons, ih (List.nodup_cons.mp hkeys).2, List.filter_cons, contains]
      cases h : m.find? k <;> simp [h]
  have hperm : (keys.filter m.contains).Perm (m.keys.filter fun k => decide (k ∈ keys)) := by
    refine (List.perm_ext_iff_of_nodup (hkeys.filter _) (m.nodup_keys.filter _)).mpr fun k => ?_
    simp only [List.mem_filter, contains_iff, decide_eq_true_eq]
    tauto
  rw [hpresent]
  refine (hperm.flatMap_right _).trans (List.Perm.of_eq ?_)
  rw [SortedMap.keys, List.filter_map, List.flatMap_map]
  have hread : ∀ e ∈ m.entries, (m.find? e.1).getD [] = e.2 := by
    intro e he
    rw [mem_entries_iff.mp he, Option.getD_some]
  generalize m.entries = entries at hread
  induction entries with
  | nil => rfl
  | cons e rest ih =>
    have he := hread e List.mem_cons_self
    rw [List.flatMap_cons, List.filter_cons]
    by_cases hmem : e.1 ∈ keys
    · simp [hmem, he, ih fun d hd => hread d (List.mem_cons_of_mem _ hd)]
    · simp [hmem, ih fun d hd => hread d (List.mem_cons_of_mem _ hd)]

-- The entries of a rewritten map up to their order: what becomes of the one key, and the other
-- entries as they were.
section Decomposition

variable [DecidableEq κ]

theorem alter_entries_perm (m : SortedMap κ ν) (k : κ) (f : Option ν → Option ν) :
    (m.alter k f).entries.Perm
      (((f (m.find? k)).map fun v => (k, v)).toList ++ m.entries.filter fun e => e.1 ≠ k) := by
  refine (List.perm_ext_iff_of_nodup (nodup_entries _) ?_).mpr ?_
  · refine List.Nodup.append ?_ (m.nodup_entries.filter _) ?_
    · cases f (m.find? k) <;> simp
    · intro e he hf
      exact (of_decide_eq_true (List.mem_filter.mp hf).2) (key_of_mem_toList he)
  · rintro ⟨a, v⟩
    rw [mem_entries_iff, find?_alter, List.mem_append, List.mem_filter, mem_entries_iff]
    by_cases ha : a = k
    · subst ha
      cases f (m.find? a) <;> simp [eq_comm]
    · have hne : compare a k ≠ .eq := fun h => ha (Std.LawfulEqCmp.eq_of_compare h)
      cases f (m.find? k) <;> simp [ha, hne]

theorem entries_perm (m : SortedMap κ ν) (k : κ) :
    m.entries.Perm
      (((m.find? k).map fun v => (k, v)).toList ++ m.entries.filter fun e => e.1 ≠ k) := by
  have hid : m.alter k id = m := by
    refine ext_find? fun a => ?_
    rw [find?_alter]
    split
    next h => rw [Std.LawfulEqCmp.eq_of_compare h, id]
    next => rfl
  have h := alter_entries_perm m k id
  rwa [hid] at h

theorem insert_entries_perm {m : SortedMap κ ν} {k : κ} (h : m.find? k = none) (v : ν) :
    (m.insert k v).entries.Perm ((k, v) :: m.entries) := by
  refine (alter_entries_perm m k fun _ => some v).trans ?_
  have hrest := entries_perm m k
  rw [h] at hrest
  simpa using hrest.symm.cons (k, v)

-- What is read off the entries changes by what is read off the one that is rewritten.
theorem flatMap_alter_perm (m : SortedMap κ ν) (k : κ) (f : Option ν → Option ν)
    (g : κ → ν → List α) :
    (((m.alter k f).entries.flatMap fun e => g e.1 e.2) ++ ((m.find? k).map (g k)).getD []).Perm
      ((m.entries.flatMap fun e => g e.1 e.2) ++ ((f (m.find? k)).map (g k)).getD []) := by
  have hread (o : Option ν) : ((o.map fun v => (k, v)).toList.flatMap fun e => g e.1 e.2)
      = (o.map (g k)).getD [] := by
    cases o <;> simp
  have hnew := (alter_entries_perm m k f).flatMap_right fun e => g e.1 e.2
  have hold := (entries_perm m k).flatMap_right fun e => g e.1 e.2
  rw [List.flatMap_append, hread] at hnew hold
  refine (hnew.append_right _).trans (List.Perm.trans ?_ (hold.symm.append_right _))
  rw [List.append_assoc]
  exact List.perm_append_comm.trans (List.perm_append_comm.append_right _)

-- Rewriting one value adds to what is read off the entries what it adds to that value.
theorem flatMap_upsert_perm (m : SortedMap κ ν) (k : κ) (start : ν) (f : ν → ν)
    (g : κ → ν → List α) (added : List α) (hstart : g k start = [])
    (h : (g k (f ((m.find? k).getD start))).Perm (g k ((m.find? k).getD start) ++ added)) :
    ((m.upsert k start f).entries.flatMap fun e => g e.1 e.2).Perm
      (m.entries.flatMap (fun e => g e.1 e.2) ++ added) := by
  have hread : ((m.find? k).map (g k)).getD [] = g k ((m.find? k).getD start) := by
    cases m.find? k <;> simp [hstart]
  have hperm := flatMap_alter_perm m k (fun old => some (f (old.getD start))) g
  rw [Option.map_some, Option.getD_some, hread] at hperm
  have hadded := h.trans List.perm_append_comm
  have hall := hperm.trans (hadded.append_left _)
  rw [← List.append_assoc] at hall
  exact (List.perm_append_right_iff _).mp hall

end Decomposition

end Targeting.SortedMap
