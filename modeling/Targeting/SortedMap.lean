namespace Targeting

-- A finite map whose entries stand in strictly ascending key order. Two maps with the same entries
-- are the same value, whatever the order in which they were filled.
structure SortedMap (κ ν : Type) [Ord κ] where
  entries : List (κ × ν)
  ascending : entries.Pairwise fun a b => compare a.1 b.1 = .lt

namespace SortedMap

variable {κ ν ω : Type}

-- The entry lists behind the map. `alterEntries k f` rewrites what is stored under `k`.
def alterEntries [Ord κ] (k : κ) (f : Option ν → Option ν) : List (κ × ν) → List (κ × ν)
  | [] => ((f none).map fun v => (k, v)).toList
  | (a, b) :: rest =>
    match compare k a with
    | .lt => ((f none).map fun v => (k, v)).toList ++ (a, b) :: rest
    | .eq => ((f (some b)).map fun v => (k, v)).toList ++ rest
    | .gt => (a, b) :: alterEntries k f rest

def lookUp? [Ord κ] (k : κ) : List (κ × ν) → Option ν
  | [] => none
  | (a, b) :: rest =>
    match compare k a with
    | .lt => none
    | .eq => some b
    | .gt => lookUp? k rest

theorem key_of_mem_toList {k : κ} {o : Option ν} {e : κ × ν}
    (h : e ∈ (o.map fun v => (k, v)).toList) : e.1 = k := by
  cases o with
  | none => simp at h
  | some v => simp at h; rw [h]

theorem mem_alterEntries [Ord κ] {k : κ} {f : Option ν → Option ν} {e : κ × ν} :
    ∀ {l : List (κ × ν)}, e ∈ alterEntries k f l → e.1 = k ∨ e ∈ l := by
  intro l
  induction l with
  | nil => intro h; exact .inl (key_of_mem_toList h)
  | cons hd tl ih =>
    obtain ⟨a, b⟩ := hd
    intro h
    rw [alterEntries] at h
    split at h
    · rcases List.mem_append.mp h with h | h
      · exact .inl (key_of_mem_toList h)
      · exact .inr h
    · rcases List.mem_append.mp h with h | h
      · exact .inl (key_of_mem_toList h)
      · exact .inr (List.mem_cons_of_mem _ h)
    · rcases List.mem_cons.mp h with h | h
      · exact .inr (h ▸ List.mem_cons_self)
      · rcases ih h with h | h
        · exact .inl h
        · exact .inr (List.mem_cons_of_mem _ h)

theorem pairwise_toList_append [Ord κ] {k : κ} {o : Option ν} {l : List (κ × ν)}
    (hl : l.Pairwise fun a b => compare a.1 b.1 = .lt) (hk : ∀ e ∈ l, compare k e.1 = .lt) :
    ((o.map fun v => (k, v)).toList ++ l).Pairwise fun a b => compare a.1 b.1 = .lt := by
  cases o with
  | none => simpa using hl
  | some v => simpa using ⟨fun a b h => hk (a, b) h, hl⟩

theorem alterEntries_ascending [Ord κ] [Std.TransOrd κ] {k : κ} {f : Option ν → Option ν} :
    ∀ {l : List (κ × ν)}, (l.Pairwise fun a b => compare a.1 b.1 = .lt) →
      (alterEntries k f l).Pairwise fun a b => compare a.1 b.1 = .lt := by
  intro l hl
  induction l with
  | nil => cases f none <;> simp [alterEntries, *]
  | cons hd tl ih =>
    obtain ⟨a, b⟩ := hd
    obtain ⟨hhd, htl⟩ := List.pairwise_cons.mp hl
    rw [alterEntries]
    split
    next h =>
      apply pairwise_toList_append hl
      intro e he
      rcases List.mem_cons.mp he with he | he
      · exact he ▸ h
      · exact Std.TransCmp.lt_trans h (hhd e he)
    next h =>
      exact pairwise_toList_append htl fun e he => Std.TransCmp.lt_of_eq_of_lt h (hhd e he)
    next h =>
      refine List.pairwise_cons.mpr ⟨fun e he => ?_, ih htl⟩
      rcases mem_alterEntries he with he | he
      · exact he ▸ Std.OrientedCmp.gt_iff_lt.mp h
      · exact hhd e he

section Operations

variable [Ord κ]

def empty : SortedMap κ ν := ⟨[], .nil⟩

instance : Inhabited (SortedMap κ ν) := ⟨empty⟩

instance [DecidableEq κ] [DecidableEq ν] : DecidableEq (SortedMap κ ν) := fun a b =>
  if h : a.entries = b.entries then
    .isTrue (by cases a; cases b; cases h; rfl)
  else
    .isFalse fun he => h (congrArg entries he)

def find? (m : SortedMap κ ν) (k : κ) : Option ν := lookUp? k m.entries

def contains (m : SortedMap κ ν) (k : κ) : Bool := (m.find? k).isSome

def size (m : SortedMap κ ν) : Nat := m.entries.length

def isEmpty (m : SortedMap κ ν) : Bool := m.entries.isEmpty

def keys (m : SortedMap κ ν) : List κ := m.entries.map Prod.fst

def values (m : SortedMap κ ν) : List ν := m.entries.map Prod.snd

def alter [Std.TransOrd κ] (m : SortedMap κ ν) (k : κ) (f : Option ν → Option ν) :
    SortedMap κ ν :=
  ⟨alterEntries k f m.entries, alterEntries_ascending m.ascending⟩

def insert [Std.TransOrd κ] (m : SortedMap κ ν) (k : κ) (v : ν) : SortedMap κ ν :=
  m.alter k fun _ => some v

def erase [Std.TransOrd κ] (m : SortedMap κ ν) (k : κ) : SortedMap κ ν :=
  m.alter k fun _ => none

-- Keeps the value that is already there.
def insertNew [Std.TransOrd κ] (m : SortedMap κ ν) (k : κ) (v : ν) : SortedMap κ ν :=
  m.alter k fun old => old.or (some v)

-- Rewrites the value under `k`, starting from `start` when there is none.
def upsert [Std.TransOrd κ] (m : SortedMap κ ν) (k : κ) (start : ν) (f : ν → ν) : SortedMap κ ν :=
  m.alter k fun old => some (f (old.getD start))

theorem filterMap_ascending {f : κ → ν → Option ω} {l : List (κ × ν)}
    (hl : l.Pairwise fun a b => compare a.1 b.1 = .lt) :
    (l.filterMap fun e => (f e.1 e.2).map fun v => (e.1, v)).Pairwise
      fun a b => compare a.1 b.1 = .lt := by
  refine List.Pairwise.filterMap _ (fun a a' h b hb b' hb' => ?_) hl
  obtain ⟨v, _, rfl⟩ := Option.map_eq_some_iff.mp hb
  obtain ⟨v', _, rfl⟩ := Option.map_eq_some_iff.mp hb'
  exact h

def filterMap (m : SortedMap κ ν) (f : κ → ν → Option ω) : SortedMap κ ω :=
  ⟨m.entries.filterMap fun e => (f e.1 e.2).map fun v => (e.1, v), filterMap_ascending m.ascending⟩

def filter (m : SortedMap κ ν) (keep : κ → ν → Bool) : SortedMap κ ν :=
  m.filterMap fun k v => if keep k v then some v else none

end Operations

end SortedMap

end Targeting
