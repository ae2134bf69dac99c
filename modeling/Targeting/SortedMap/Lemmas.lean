import Targeting.SortedMap

namespace Targeting.SortedMap

variable {κ ν ω : Type}

theorem lookUp?_toList_append [Ord κ] {k a : κ} {o : Option ν} {l : List (κ × ν)}
    (h : compare k a = .gt) :
    lookUp? k ((o.map fun v => (a, v)).toList ++ l) = lookUp? k l := by
  cases o <;> simp [lookUp?, h]

theorem lookUp?_eq_none [Ord κ] {k : κ} {l : List (κ × ν)}
    (h : ∀ e ∈ l, compare k e.1 = .lt) : lookUp? k l = none := by
  cases l with
  | nil => rfl
  | cons hd tl => rw [lookUp?, h hd List.mem_cons_self]

theorem lookUp?_toList_append_self [Ord κ] {k a : κ} {o : Option ν} {l : List (κ × ν)}
    (h : compare k a = .eq) (hl : ∀ e ∈ l, compare k e.1 = .lt) :
    lookUp? k ((o.map fun v => (a, v)).toList ++ l) = o := by
  cases o with
  | none => simpa using lookUp?_eq_none hl
  | some v => simp [lookUp?, h]

theorem lookUp?_toList_append_of_lt [Ord κ] {k a : κ} {o : Option ν} {l : List (κ × ν)}
    (h : compare k a = .lt) (hl : ∀ e ∈ l, compare k e.1 = .lt) :
    lookUp? k ((o.map fun v => (a, v)).toList ++ l) = lookUp? k l := by
  rw [lookUp?_eq_none hl]
  cases o with
  | none => simpa using lookUp?_eq_none hl
  | some v => simp [lookUp?, h]

-- Only what is stored under `k` is rewritten.
theorem lookUp?_alterEntries [Ord κ] [Std.TransOrd κ] {k a : κ} {f : Option ν → Option ν} :
    ∀ {l : List (κ × ν)}, (l.Pairwise fun x y => compare x.1 y.1 = .lt) →
      lookUp? k (alterEntries a f l)
        = if compare k a = .eq then f (lookUp? a l) else lookUp? k l := by
  intro l hl
  induction l with
  | nil =>
    rw [alterEntries, ← List.append_nil (Option.toList _)]
    cases h : compare k a with
    | lt => simpa using lookUp?_toList_append_of_lt h (l := []) (by simp)
    | eq => simpa [lookUp?] using lookUp?_toList_append_self h (l := []) (by simp)
    | gt => simpa using lookUp?_toList_append h (l := [])
  | cons hd tl ih =>
    obtain ⟨b, v⟩ := hd
    obtain ⟨hhd, htl⟩ := List.pairwise_cons.mp hl
    have below (c : κ) (hc : compare c b = .lt) :
        ∀ e ∈ (b, v) :: tl, compare c e.1 = .lt := by
      intro e he
      rcases List.mem_cons.mp he with he | he
      · exact he ▸ hc
      · exact Std.TransCmp.lt_trans hc (hhd e he)
    have behind (c : κ) (hc : compare c b = .eq) : ∀ e ∈ tl, compare c e.1 = .lt :=
      fun e he => Std.TransCmp.lt_of_eq_of_lt hc (hhd e he)
    rw [alterEntries]
    split
    next hab =>
      rw [lookUp?_eq_none (below a hab)]
      cases h : compare k a with
      | lt => simpa using lookUp?_toList_append_of_lt h (below k (Std.TransCmp.lt_trans h hab))
      | eq =>
        simpa using lookUp?_toList_append_self h
          (below k (Std.TransCmp.lt_of_eq_of_lt h hab))
      | gt => simpa using lookUp?_toList_append h
    next hab =>
      have hkb : compare k a = compare k b := Std.TransCmp.congr_right hab
      cases h : compare k a with
      | lt =>
        have hlt : compare k b = .lt := hkb ▸ h
        rw [lookUp?_toList_append_of_lt h
          (fun e he => below k hlt e (List.mem_cons_of_mem _ he))]
        rw [lookUp?_eq_none fun e he => below k hlt e (List.mem_cons_of_mem _ he)]
        simp [lookUp?, hlt]
      | eq =>
        have heq : compare k b = .eq := hkb ▸ h
        rw [lookUp?_toList_append_self h (behind k heq)]
        simp [lookUp?, hab]
      | gt =>
        have hgt : compare k b = .gt := hkb ▸ h
        rw [lookUp?_toList_append h]
        simp [lookUp?, hgt]
    next hab =>
      have hba : compare b a = .lt := Std.OrientedCmp.gt_iff_lt.mp hab
      rw [lookUp?, lookUp?, lookUp?, hab, ih htl]
      cases h : compare k b with
      | lt => simp [Std.TransCmp.lt_trans h hba]
      | eq => simp [Std.TransCmp.lt_of_eq_of_lt h hba]
      | gt => rfl

section Look

variable [Ord κ]

@[simp]
theorem find?_empty (k : κ) : (empty : SortedMap κ ν).find? k = none := rfl

theorem find?_alter [Std.TransOrd κ] (m : SortedMap κ ν) (a k : κ) (f : Option ν → Option ν) :
    (m.alter a f).find? k = if compare k a = .eq then f (m.find? a) else m.find? k :=
  lookUp?_alterEntries m.ascending

variable [Std.TransOrd κ] [Std.LawfulEqOrd κ]

@[simp]
theorem find?_alter_self (m : SortedMap κ ν) (k : κ) (f : Option ν → Option ν) :
    (m.alter k f).find? k = f (m.find? k) := by
  simp [find?_alter]

theorem find?_alter_of_ne (m : SortedMap κ ν) {a k : κ} (f : Option ν → Option ν) (h : k ≠ a) :
    (m.alter a f).find? k = m.find? k := by
  simp [find?_alter, h]

@[simp]
theorem find?_insert_self (m : SortedMap κ ν) (k : κ) (v : ν) :
    (m.insert k v).find? k = some v := by
  simp [insert]

theorem find?_insert_of_ne (m : SortedMap κ ν) {a k : κ} (v : ν) (h : k ≠ a) :
    (m.insert a v).find? k = m.find? k :=
  find?_alter_of_ne m _ h

@[simp]
theorem find?_erase_self (m : SortedMap κ ν) (k : κ) : (m.erase k).find? k = none := by
  simp [erase]

theorem find?_erase_of_ne (m : SortedMap κ ν) {a k : κ} (h : k ≠ a) :
    (m.erase a).find? k = m.find? k :=
  find?_alter_of_ne m _ h

@[simp]
theorem find?_insertNew_self (m : SortedMap κ ν) (k : κ) (v : ν) :
    (m.insertNew k v).find? k = (m.find? k).or (some v) := by
  simp [insertNew]

theorem find?_insertNew_of_ne (m : SortedMap κ ν) {a k : κ} (v : ν) (h : k ≠ a) :
    (m.insertNew a v).find? k = m.find? k :=
  find?_alter_of_ne m _ h

@[simp]
theorem find?_upsert_self (m : SortedMap κ ν) (k : κ) (start : ν) (f : ν → ν) :
    (m.upsert k start f).find? k = some (f ((m.find? k).getD start)) := by
  simp [upsert]

theorem find?_upsert_of_ne (m : SortedMap κ ν) {a k : κ} (start : ν) (f : ν → ν) (h : k ≠ a) :
    (m.upsert a start f).find? k = m.find? k :=
  find?_alter_of_ne m _ h

theorem mem_iff_lookUp? {k : κ} {v : ν} :
    ∀ {l : List (κ × ν)}, (l.Pairwise fun x y => compare x.1 y.1 = .lt) →
      ((k, v) ∈ l ↔ lookUp? k l = some v) := by
  intro l hl
  induction l with
  | nil => simp [lookUp?]
  | cons hd tl ih =>
    obtain ⟨b, w⟩ := hd
    obtain ⟨hhd, htl⟩ := List.pairwise_cons.mp hl
    rw [lookUp?, List.mem_cons, ih htl]
    cases h : compare k b with
    | lt =>
      have hne : k ≠ b := fun e => by simp [e] at h
      have htl : lookUp? k tl = none :=
        lookUp?_eq_none fun e he => Std.TransCmp.lt_trans h (hhd e he)
      simp [hne, htl]
    | eq =>
      have he : k = b := Std.LawfulEqCmp.eq_of_compare h
      have htl : lookUp? k tl = none :=
        lookUp?_eq_none fun e hm => he ▸ hhd e hm
      simp [he, he ▸ htl, eq_comm]
    | gt =>
      have hne : k ≠ b := fun e => by simp [e] at h
      simp [hne]

theorem mem_entries_iff {m : SortedMap κ ν} {k : κ} {v : ν} :
    (k, v) ∈ m.entries ↔ m.find? k = some v :=
  mem_iff_lookUp? m.ascending

-- A map is its look-up.
theorem ext_find? {m n : SortedMap κ ν} (h : ∀ k, m.find? k = n.find? k) : m = n := by
  have hmem (e : κ × ν) : e ∈ m.entries ↔ e ∈ n.entries := by
    obtain ⟨k, v⟩ := e
    rw [mem_entries_iff, mem_entries_iff, h]
  have key : m.entries = n.entries := by
    have antisymm (x y : κ × ν) (_ : x ∈ m.entries) (_ : y ∈ n.entries)
        (hxy : compare x.1 y.1 = .lt) (hyx : compare y.1 x.1 = .lt) : x = y :=
      absurd (Std.TransCmp.lt_trans hxy hyx) (by simp)
    have nodup (p : SortedMap κ ν) : p.entries.Nodup :=
      p.ascending.imp fun hxy he => by simp [he] at hxy
    exact List.Perm.eq_of_pairwise antisymm m.ascending n.ascending
      ((List.perm_ext_iff_of_nodup (nodup m) (nodup n)).mpr hmem)
  cases m
  cases n
  simp_all

theorem find?_filterMap (m : SortedMap κ ν) (f : κ → ν → Option ω) (k : κ) :
    (m.filterMap f).find? k = (m.find? k).bind (f k) := by
  cases h : m.find? k with
  | none =>
    cases hf : (m.filterMap f).find? k with
    | none => rfl
    | some w =>
      obtain ⟨e, he, hw⟩ := List.mem_filterMap.mp (mem_entries_iff.mpr hf)
      obtain ⟨u, _, hu⟩ := Option.map_eq_some_iff.mp hw
      have : m.find? e.1 = some e.2 := mem_entries_iff.mp he
      simp_all
  | some v =>
    have hv : (k, v) ∈ m.entries := mem_entries_iff.mpr h
    cases hf : f k v with
    | none =>
      cases hr : (m.filterMap f).find? k with
      | none => simp [hf]
      | some w =>
        obtain ⟨e, he, hw⟩ := List.mem_filterMap.mp (mem_entries_iff.mpr hr)
        obtain ⟨u, hu, hk⟩ := Option.map_eq_some_iff.mp hw
        have : m.find? e.1 = some e.2 := mem_entries_iff.mp he
        simp_all
    | some w =>
      simp only [Option.bind_some, hf]
      exact mem_entries_iff.mp (List.mem_filterMap.mpr ⟨(k, v), hv, by simp [hf]⟩)

end Look

end Targeting.SortedMap
