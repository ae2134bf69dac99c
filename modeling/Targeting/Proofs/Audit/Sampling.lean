import Mathlib
import Targeting.Audit
import Targeting.Proofs.Document
import Targeting.Proofs.Value.KeySet

namespace Targeting.Audit

def predicates (g : Group) : List Predicate := g.toList.flatMap fun c => c.predicates

-- The paths that the predicates of a group mention.
def paths (g : Group) : Finset String := ((predicates g).map Predicate.path).toFinset

-- The literals of the predicates, each with its path.
def literalPairs (g : Group) : Finset (String × Key) :=
  ((predicates g).flatMap fun p => (literals p.caveat).map (p.path, ·)).toFinset

def literalsOn (g : Group) (path : String) : Finset Key :=
  ((literalPairs g).filter (·.1 = path)).image Prod.snd

-- The largest number of literals on one path.
def widest (g : Group) : Nat := (paths g).sup fun path => (literalsOn g path).card

-- Whether a document gives one of its literals to a path.
def Fills (g : Group) (doc : Document) (path : String) : Prop :=
  ∃ key ∈ literalsOn g path, doc.get? path = some [.ofKey key]

-- What a list of documents tries of the criteria of a group: every literal alone and together with
-- values for all other paths, and every path left out.
structure Covers (g : Group) (docs : List Document) : Prop where
  length : docs.length = 1 + (literalPairs g).card + widest g * ((paths g).card + 1)
  empty : docs.head? = some .empty
  alone : ∀ path key, (path, key) ∈ literalPairs g →
    ∃ doc ∈ docs, doc.fields.entries = [(path, [.ofKey key])]
  together : ∀ path key, (path, key) ∈ literalPairs g →
    ∃ doc ∈ docs, doc.get? path = some [.ofKey key] ∧
      ∀ other ∈ paths g, (literalsOn g other).Nonempty → Fills g doc other
  without : 0 < widest g → ∀ path ∈ paths g,
    ∃ doc ∈ docs, doc.get? path = none ∧
      ∀ other ∈ paths g, other ≠ path → (literalsOn g other).Nonempty → Fills g doc other

section Collecting

-- The literals of a path, as they are collected.
def keysOn (ps : List Predicate) (path : String) : KeySet :=
  ((ps.filter (·.path = path)).flatMap fun p => literals p.caveat).foldl KeySet.insert SortedMap.empty

theorem find?_foldl_upsert (ps : List Predicate) (byPath : SortedMap String KeySet) (path : String) :
    (ps.foldl (fun byPath p =>
        byPath.upsert p.path .empty ((literals p.caveat).foldl KeySet.insert)) byPath).find? path
      = if path ∈ ps.map Predicate.path then
          some (((ps.filter (·.path = path)).flatMap fun p => literals p.caveat).foldl KeySet.insert
            ((byPath.find? path).getD .empty))
        else byPath.find? path := by
  induction ps generalizing byPath with
  | nil => rfl
  | cons p rest ih =>
    rw [List.foldl_cons, ih, SortedMap.find?_upsert, List.map_cons, List.filter_cons]
    by_cases hpath : path = p.path
    · subst hpath
      have hself : decide (p.path = p.path) = true := decide_eq_true rfl
      rw [if_pos List.mem_cons_self, if_pos hself, if_pos rfl, List.flatMap_cons, List.foldl_append,
        Option.getD_some]
      split
      next => rfl
      next hnone =>
        have hfilter : rest.filter (fun q => decide (q.path = p.path)) = [] := by
          refine List.filter_eq_nil_iff.mpr fun q hq hsame => hnone ?_
          exact List.mem_map.mpr ⟨q, hq, of_decide_eq_true hsame⟩
        rw [hfilter, List.flatMap_nil, List.foldl_nil]
    · have hother : ¬ decide (p.path = path) = true := by simpa using Ne.symm hpath
      rw [if_neg hpath, if_neg hother]
      simp only [List.mem_cons, hpath, false_or]

variable {g : Group} {path : String} {key : Key}

theorem mem_paths : path ∈ paths g ↔ ∃ p ∈ predicates g, p.path = path := by
  rw [paths, List.mem_toFinset, List.mem_map]

theorem mem_literalPairs : (path, key) ∈ literalPairs g ↔
    ∃ p ∈ predicates g, p.path = path ∧ key ∈ literals p.caveat := by
  simp only [literalPairs, List.mem_toFinset, List.mem_flatMap, List.mem_map, Prod.mk.injEq]
  constructor
  · rintro ⟨p, hp, _, hkey, rfl, rfl⟩
    exact ⟨p, hp, rfl, hkey⟩
  · rintro ⟨p, hp, rfl, hkey⟩
    exact ⟨p, hp, key, hkey, rfl, rfl⟩

theorem mem_paths_of_literal (h : (path, key) ∈ literalPairs g) : path ∈ paths g := by
  obtain ⟨p, hp, hpath, -⟩ := mem_literalPairs.mp h
  exact mem_paths.mpr ⟨p, hp, hpath⟩

theorem mem_literalsOn : key ∈ literalsOn g path ↔ (path, key) ∈ literalPairs g := by
  simp [literalsOn]

theorem mem_keysOn : key ∈ (keysOn (predicates g) path).toList ↔ key ∈ literalsOn g path := by
  rw [keysOn, KeySet.mem_foldl_insert, KeySet.mem_toList, SortedMap.find?_empty, mem_literalsOn,
    mem_literalPairs]
  simp only [reduceCtorEq, false_or, List.mem_flatMap, List.mem_filter, decide_eq_true_eq, and_assoc]

theorem find?_collected (g : Group) (path : String) :
    (collected g).find? path
      = if path ∈ paths g then some (keysOn (predicates g) path) else none := by
  have hpaths : path ∈ paths g ↔ path ∈ (predicates g).map Predicate.path := List.mem_toFinset
  rw [collected, find?_foldl_upsert, SortedMap.find?_empty]
  simp only [hpaths]
  rfl

theorem card_literalsOn (g : Group) (path : String) :
    (literalsOn g path).card = (keysOn (predicates g) path).toList.length := by
  have hkeys : literalsOn g path = (keysOn (predicates g) path).toList.toFinset := by
    ext key
    rw [List.mem_toFinset, mem_keysOn]
  rw [hkeys, List.toFinset_card_of_nodup (KeySet.nodup_toList _)]

end Collecting

section Columns

variable {g : Group} {path : String} {values : List Value}

theorem mem_columns : (path, values) ∈ columns g ↔
    path ∈ paths g ∧ (keysOn (predicates g) path).toList.map Value.ofKey = values := by
  simp only [columns, List.mem_map, Prod.mk.injEq, Prod.exists, SortedMap.mem_entries_iff,
    find?_collected]
  constructor
  · rintro ⟨path, keys, hkeys, rfl, rfl⟩
    obtain ⟨hpath, hkeys⟩ := Option.ite_none_right_eq_some.mp hkeys
    cases hkeys
    exact ⟨hpath, rfl⟩
  · rintro ⟨hpath, rfl⟩
    exact ⟨path, _, by rw [if_pos hpath], rfl, rfl⟩

theorem nodup_columns (g : Group) : ((columns g).map Prod.fst).Nodup := by
  rw [columns, List.map_map]
  exact SortedMap.nodup_keys _

theorem length_columns (g : Group) : (columns g).length = (paths g).card := by
  have hpaths : paths g = ((columns g).map Prod.fst).toFinset := by
    ext path
    simp [mem_columns]
  rw [hpaths, List.toFinset_card_of_nodup (nodup_columns g), List.length_map]

theorem card_literalsOn_eq (h : (path, values) ∈ columns g) :
    (literalsOn g path).card = values.length := by
  obtain ⟨-, rfl⟩ := mem_columns.mp h
  rw [card_literalsOn, List.length_map]

-- The columns hold each literal of each path once.
theorem sum_length_columns (g : Group) :
    ((columns g).map fun c => c.2.length).sum = (literalPairs g).card := by
  have hpairs : literalPairs g
      = ((collected g).entries.flatMap fun e => e.2.toList.map (e.1, ·)).toFinset := by
    ext ⟨path, key⟩
    simp only [List.mem_toFinset, List.mem_flatMap, List.mem_map, Prod.mk.injEq, Prod.exists,
      SortedMap.mem_entries_iff, find?_collected, Option.ite_none_right_eq_some, Option.some.injEq]
    rw [← mem_literalsOn]
    constructor
    · intro hkey
      have hpath := mem_paths_of_literal (mem_literalsOn.mp hkey)
      exact ⟨path, _, ⟨hpath, rfl⟩, key, mem_keysOn.mpr hkey, rfl, rfl⟩
    · rintro ⟨_, _, ⟨-, rfl⟩, _, hkey, rfl, rfl⟩
      exact mem_keysOn.mp hkey
  have hnodup : ((collected g).entries.flatMap fun e => e.2.toList.map (e.1, ·)).Nodup := by
    have hkeys := List.pairwise_map.mp (SortedMap.nodup_keys (collected g))
    refine List.nodup_flatMap.mpr ⟨fun e _ => ?_, hkeys.imp fun hne pair hpair hother => ?_⟩
    · exact (KeySet.nodup_toList e.2).map fun a b h => (Prod.mk.inj h).2
    · obtain ⟨_, -, rfl⟩ := List.mem_map.mp hpair
      obtain ⟨_, -, heq⟩ := List.mem_map.mp hother
      exact hne (Prod.mk.inj heq).1.symm
  rw [hpairs, List.toFinset_card_of_nodup hnodup, List.length_flatMap, columns, List.map_map]
  simp only [Function.comp_def, List.length_map]

theorem foldl_max_le_iff {l : List Nat} {a b : Nat} :
    l.foldl max a ≤ b ↔ a ≤ b ∧ ∀ x ∈ l, x ≤ b := by
  induction l generalizing a with
  | nil => simp
  | cons x rest ih => rw [List.foldl_cons, ih, List.forall_mem_cons, max_le_iff, and_assoc]

theorem widest_columns (g : Group) :
    ((columns g).map fun c => c.2.length).foldl max 0 = widest g := by
  refine eq_of_forall_ge_iff fun b => ?_
  rw [foldl_max_le_iff, widest, Finset.sup_le_iff]
  simp only [Nat.zero_le, true_and, List.forall_mem_map]
  constructor
  · intro h path hpath
    have hmem := mem_columns.mpr ⟨hpath, rfl⟩
    rw [card_literalsOn_eq hmem]
    exact h _ hmem
  · intro h c hc
    rw [← card_literalsOn_eq hc]
    exact h _ (mem_columns.mp hc).1

end Columns

section Combining

variable {cs : List (String × List Value)} {round skip : Nat}

-- The value that a combination takes from a column, if it takes one.
def chosen? (round skip : Nat) (e : (String × List Value) × Nat) : Option Value :=
  if e.2 = skip then none else e.1.2[(round + e.2) % e.1.2.length]?

def choose (round skip : Nat) (doc : Document) (e : (String × List Value) × Nat) : Document :=
  (chosen? round skip e).elim doc (doc.set e.1.1)

theorem combined_eq (cs : List (String × List Value)) (round skip : Nat) :
    combined cs round skip = cs.zipIdx.foldl (choose round skip) .empty := by
  rw [combined]
  congr 1
  funext doc e
  rw [choose, chosen?]
  by_cases hskip : e.2 = skip
  · rw [if_pos hskip, if_pos hskip]
    rfl
  · rw [if_neg hskip, if_neg hskip]
    cases e.1.2[(round + e.2) % e.1.2.length]? <;> rfl

theorem get?_choose (doc : Document) (e : (String × List Value) × Nat) {path : String}
    (h : path ≠ e.1.1) : (choose round skip doc e).get? path = doc.get? path := by
  rw [choose]
  cases chosen? round skip e with
  | none => rfl
  | some v => exact (doc.get?_set e.1.1 v).trans (if_neg h)

theorem get?_choose_self {doc : Document} {e : (String × List Value) × Nat}
    (h : doc.get? e.1.1 = none) :
    (choose round skip doc e).get? e.1.1 = (chosen? round skip e).map fun v => [v] := by
  rw [choose]
  cases chosen? round skip e with
  | none => exact h
  | some v => exact (doc.get?_set e.1.1 v).trans (if_pos rfl)

theorem get?_foldl_choose {l : List ((String × List Value) × Nat)} {path : String}
    (h : path ∉ l.map (·.1.1)) (doc : Document) :
    (l.foldl (choose round skip) doc).get? path = doc.get? path := by
  induction l generalizing doc with
  | nil => rfl
  | cons e rest ih =>
    rw [List.map_cons, List.mem_cons, not_or] at h
    rw [List.foldl_cons, ih h.2, get?_choose doc e h.1]

-- Columns of different paths do not get in each other's way.
theorem get?_foldl_choose_mem {l : List ((String × List Value) × Nat)}
    (hnodup : (l.map (·.1.1)).Nodup) {e : (String × List Value) × Nat} (he : e ∈ l) {doc : Document}
    (h : doc.get? e.1.1 = none) :
    (l.foldl (choose round skip) doc).get? e.1.1 = (chosen? round skip e).map fun v => [v] := by
  induction l generalizing doc with
  | nil => cases he
  | cons first rest ih =>
    rw [List.map_cons, List.nodup_cons] at hnodup
    rw [List.foldl_cons]
    rcases List.mem_cons.mp he with rfl | he
    · rw [get?_foldl_choose hnodup.1, get?_choose_self h]
    · refine ih hnodup.2 he ?_
      rw [get?_choose doc first fun hsame => hnodup.1 (hsame ▸ List.mem_map_of_mem he), h]

theorem get?_combined (hnodup : (cs.map Prod.fst).Nodup) {i : Nat} {path : String}
    {values : List Value} (h : cs[i]? = some (path, values)) (round skip : Nat) :
    (combined cs round skip).get? path
      = if i = skip then none else values[(round + i) % values.length]?.map fun v => [v] := by
  have hpaths : (cs.zipIdx.map (·.1.1)).Nodup := by
    have hfst : cs.zipIdx.map (·.1.1) = (cs.zipIdx.map Prod.fst).map Prod.fst := by
      rw [List.map_map]
      rfl
    rwa [hfst, List.zipIdx_map_fst]
  have hmem : ((path, values), i) ∈ cs.zipIdx := List.mem_zipIdx_iff_getElem?.mpr h
  have habsent : Document.empty.get? path = none := rfl
  rw [combined_eq, get?_foldl_choose_mem hpaths hmem habsent, chosen?]
  split <;> rfl

-- In some round a place of a column comes up.
theorem exists_round {i j n : Nat} (hj : j < n) : ∃ round < n, (round + i) % n = j := by
  have hi := Nat.mod_lt i (Nat.lt_of_le_of_lt (Nat.zero_le j) hj)
  refine ⟨(j + n - i % n) % n, Nat.mod_lt _ (by omega), ?_⟩
  have hsum : j + n - i % n + i = j + n * (1 + i / n) := by
    have hdiv := Nat.mod_add_div i n
    rw [Nat.mul_add, Nat.mul_one]
    omega
  rw [Nat.mod_add_mod, hsum, Nat.add_mul_mod_self_left, Nat.mod_eq_of_lt hj]

end Combining

section Samples

variable {g : Group}

theorem length_samples (g : Group) :
    (samples g).length = 1 + (literalPairs g).card + widest g * ((paths g).card + 1) := by
  rw [samples]
  simp only [List.cons_append, List.length_cons, List.length_append, List.length_flatMap,
    List.length_map, List.length_range, List.map_const', List.sum_replicate, smul_eq_mul,
    sum_length_columns, widest_columns, length_columns]
  omega

theorem set_mem_samples {path : String} {key : Key} (h : (path, key) ∈ literalPairs g) :
    Document.empty.set path (.ofKey key) ∈ samples g := by
  have hcolumn := mem_columns.mpr ⟨mem_paths_of_literal h, rfl⟩
  refine List.mem_append_left _ (List.mem_cons_of_mem _ (List.mem_flatMap.mpr ⟨_, hcolumn, ?_⟩))
  exact List.mem_map_of_mem (List.mem_map_of_mem (mem_keysOn.mpr (mem_literalsOn.mpr h)))

theorem combined_mem_samples {round skip : Nat} (hround : round < widest g)
    (hskip : skip ≤ (columns g).length) : combined (columns g) round skip ∈ samples g := by
  rw [← widest_columns] at hround
  refine List.mem_append_right _ (List.mem_flatMap.mpr ⟨round, List.mem_range.mpr hround, ?_⟩)
  exact List.mem_map_of_mem (List.mem_range.mpr (Nat.lt_succ_of_le hskip))

theorem exists_column {path : String} (h : path ∈ paths g) :
    ∃ i < (columns g).length, (columns g)[i]?
      = some (path, (keysOn (predicates g) path).toList.map Value.ofKey) := by
  obtain ⟨i, hi, hget⟩ := List.getElem_of_mem (mem_columns.mpr ⟨h, rfl⟩)
  exact ⟨i, hi, by rw [List.getElem?_eq_getElem hi, hget]⟩

-- A combination gives a literal to every path that has one, except where it skips.
theorem fills_combined {path : String} (hpath : path ∈ paths g) (hne : (literalsOn g path).Nonempty)
    {round skip : Nat} (hskip : ∀ values, (columns g)[skip]? ≠ some (path, values)) :
    Fills g (combined (columns g) round skip) path := by
  obtain ⟨i, hi, hget⟩ := exists_column hpath
  obtain ⟨key, hkey⟩ := hne
  have hlength := List.length_pos_of_mem (mem_keysOn.mpr hkey)
  have hindex : (round + i) % (keysOn (predicates g) path).toList.length
      < (keysOn (predicates g) path).toList.length := Nat.mod_lt _ hlength
  refine ⟨_, mem_keysOn.mp (List.getElem_mem hindex), ?_⟩
  rw [get?_combined (nodup_columns g) hget, if_neg fun hsame => hskip _ (hsame ▸ hget),
    List.length_map, List.getElem?_map, List.getElem?_eq_getElem hindex]
  rfl

theorem together_samples {path : String} {key : Key} (h : (path, key) ∈ literalPairs g) :
    ∃ doc ∈ samples g, doc.get? path = some [.ofKey key] ∧
      ∀ other ∈ paths g, (literalsOn g other).Nonempty → Fills g doc other := by
  have hpath := mem_paths_of_literal h
  obtain ⟨i, hi, hget⟩ := exists_column hpath
  obtain ⟨j, hj, hkey⟩ := List.getElem_of_mem (mem_keysOn.mpr (mem_literalsOn.mpr h))
  obtain ⟨round, hround, hmod⟩ := exists_round (i := i) hj
  have hwidest : (keysOn (predicates g) path).toList.length ≤ widest g := by
    rw [← card_literalsOn]
    exact Finset.le_sup (f := fun path => (literalsOn g path).card) hpath
  -- No column has the position that is skipped, so every path with literals is given one.
  have hskip (other : String) (values : List Value) :
      (columns g)[(columns g).length]? ≠ some (other, values) := by simp
  refine ⟨_, combined_mem_samples (hround.trans_le hwidest) (Nat.le_refl _), ?_,
    fun other hother hne => fills_combined hother hne (hskip other)⟩
  rw [get?_combined (nodup_columns g) hget, if_neg hi.ne, List.length_map, hmod,
    List.getElem?_map, List.getElem?_eq_getElem hj, hkey]
  rfl

theorem without_samples (hwidest : 0 < widest g) {path : String} (hpath : path ∈ paths g) :
    ∃ doc ∈ samples g, doc.get? path = none ∧
      ∀ other ∈ paths g, other ≠ path → (literalsOn g other).Nonempty → Fills g doc other := by
  obtain ⟨i, hi, hget⟩ := exists_column hpath
  refine ⟨_, combined_mem_samples hwidest hi.le, ?_, fun other hother hne hliteral => ?_⟩
  · rw [get?_combined (nodup_columns g) hget, if_pos rfl]
  · refine fills_combined hother hliteral fun values hsame => hne ?_
    rw [hget, Option.some.injEq, Prod.mk.injEq] at hsame
    exact hsame.1.symm

theorem covers_samples (g : Group) : Covers g (samples g) where
  length := length_samples g
  empty := rfl
  alone _ _ h := ⟨_, set_mem_samples h, rfl⟩
  together _ _ h := together_samples h
  without hwidest _ hpath := without_samples hwidest hpath

end Samples

-- Sampling takes from the front of one list that covers the literals.
theorem sampleDocuments_cover (g : Group) :
    ∃ docs, (∀ limit, sampleDocuments g limit = docs.take limit) ∧ Covers g docs :=
  ⟨samples g, fun _ => rfl, covers_samples g⟩

end Targeting.Audit
