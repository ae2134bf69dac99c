import Mathlib
import Targeting.MatchSet
import Targeting.Proofs.Binary64.Order
import Targeting.Proofs.SortedMap

namespace Targeting.MatchSet

variable {m other : MatchSet} {id : String}

@[simp]
theorem score?_empty (id : String) : empty.score? id = none := rfl

theorem mem_ids : id ∈ m.ids ↔ (m.score? id).isSome = true := by
  rw [ids, SortedMap.mem_keys, Option.isSome_iff_exists]
  rfl

-- Sets that have scores for the same ids list the same ids.
theorem ids_eq (h : ∀ id, (m.score? id).isSome = (other.score? id).isSome) : m.ids = other.ids :=
  SortedMap.keys_eq_of_contains h

theorem score?_insertMax (m : MatchSet) (id other : String) (score : Binary64) :
    (m.insertMax id score).score? other
      = if other = id then
          some (match m.score? id with
            | none => score
            | some old => if old < score then score else old)
        else m.score? other := by
  rw [score?, insertMax]
  by_cases h : other = id
  · rw [h, SortedMap.find?_alter_self, if_pos rfl, score?]
    cases m.scores.find? id <;> rfl
  · rw [SortedMap.find?_alter_of_ne _ _ h, if_neg h]
    rfl

-- The scores of some hits that are for one id.
def hitsOf (hits : List (String × Binary64)) (id : String) : List Binary64 :=
  (hits.filter fun e => decide (e.1 = id)).map Prod.snd

theorem mem_hitsOf {hits : List (String × Binary64)} {score : Binary64} :
    score ∈ hitsOf hits id ↔ (id, score) ∈ hits := by
  simp only [hitsOf, List.mem_map, List.mem_filter, decide_eq_true_eq]
  constructor
  · rintro ⟨e, ⟨he, rfl⟩, rfl⟩
    exact he
  · intro h
    exact ⟨_, ⟨h, rfl⟩, rfl⟩

-- Records some hits.
def insertAll (m : MatchSet) (hits : List (String × Binary64)) : MatchSet :=
  hits.foldl (fun m e => m.insertMax e.1 e.2) m

-- What is recorded for an id is the best of its hits.
theorem bestOf_insertAll (earlier hits : List (String × Binary64))
    (hnumber : ∀ e ∈ hits, e.2.isNaN = false)
    (h : ∀ id, Binary64.BestOf (hitsOf earlier id) (m.score? id)) (id : String) :
    Binary64.BestOf (hitsOf (earlier ++ hits) id) ((m.insertAll hits).score? id) := by
  induction hits generalizing m earlier with
  | nil =>
    rw [List.append_nil]
    exact h id
  | cons e rest ih =>
    have hsplit : earlier ++ e :: rest = earlier ++ [e] ++ rest := by simp
    have he := hnumber e List.mem_cons_self
    rw [hsplit]
    refine ih (earlier ++ [e]) (fun d hd => hnumber d (List.mem_cons_of_mem _ hd))
      (m := m.insertMax e.1 e.2) fun other => ?_
    rw [score?_insertMax]
    by_cases hother : other = e.1
    · have hhits : hitsOf (earlier ++ [e]) other = hitsOf earlier other ++ [e.2] := by
        simp [hitsOf, hother]
      have hearlier := h other
      rw [hhits, if_pos hother, ← hother]
      cases hscore : m.score? other with
      | none =>
        rw [hscore] at hearlier
        rw [show hitsOf earlier other = [] from hearlier]
        exact .singleton he
      | some old =>
        rw [hscore] at hearlier
        have hbest := Binary64.IsBest.max hearlier he
        rwa [Binary64.max, hearlier.number, if_neg Bool.false_ne_true] at hbest
    · have hhits : hitsOf (earlier ++ [e]) other = hitsOf earlier other := by
        simp [hitsOf, Ne.symm hother]
      rw [hhits, if_neg hother]
      exact h other

theorem bestOf_insertAll_empty (hits : List (String × Binary64))
    (hnumber : ∀ e ∈ hits, e.2.isNaN = false) (id : String) :
    Binary64.BestOf (hitsOf hits id) ((empty.insertAll hits).score? id) :=
  bestOf_insertAll (m := empty) [] hits hnumber (fun _ => rfl) id

-- Hits for ids that are all different, and all new, are recorded as they are.
theorem score?_insertAll_new {hits : List (String × Binary64)} (hnodup : (hits.map Prod.fst).Nodup)
    (hnew : ∀ e ∈ hits, m.score? e.1 = none) (id : String) :
    (m.insertAll hits).score? id
      = ((hits.find? fun e => decide (e.1 = id)).map Prod.snd).or (m.score? id) := by
  induction hits generalizing m with
  | nil => rfl
  | cons e rest ih =>
    obtain ⟨hfirst, hrest⟩ := List.nodup_cons.mp hnodup
    have hother : ∀ d ∈ rest, d.1 ≠ e.1 := fun d hd he => hfirst (he ▸ List.mem_map_of_mem hd)
    have hinserted := ih hrest (m := m.insertMax e.1 e.2) fun d hd => by
      rw [score?_insertMax, if_neg (hother d hd)]
      exact hnew d (List.mem_cons_of_mem _ hd)
    refine hinserted.trans ?_
    rw [score?_insertMax, hnew e List.mem_cons_self, List.find?_cons]
    by_cases he : e.1 = id
    · have hnone : rest.find? (fun d => decide (d.1 = id)) = none :=
        List.find?_eq_none.mpr fun d hd => by simpa [← he] using hother d hd
      simp [he, hnone]
    · simp [he, Ne.symm he]

theorem score?_insertAll_entries (scores : SortedMap String Binary64)
    (hnew : ∀ id score, scores.find? id = some score → m.score? id = none) (id : String) :
    (m.insertAll scores.entries).score? id = (scores.find? id).or (m.score? id) := by
  rw [score?_insertAll_new scores.nodup_keys (fun e he => ?_), SortedMap.find?_entries]
  exact hnew e.1 e.2 (SortedMap.mem_entries_iff.mp he)

-- Recording the scores of what has one, one after the other.
theorem foldl_insertMax_eq {α : Type} (l : List α) (f : α → Option Binary64) (key : α → String)
    (m : MatchSet) :
    l.foldl (fun m x => match f x with
      | none => m
      | some score => m.insertMax (key x) score) m
      = m.insertAll (l.filterMap fun x => (f x).map fun score => (key x, score)) := by
  induction l generalizing m with
  | nil => rfl
  | cons x rest ih =>
    rw [List.foldl_cons, List.filterMap_cons, ih]
    cases f x <;> rfl

theorem score?_merge (m other : MatchSet) (id : String) :
    (m.merge other).score? id = (m.score? id).or (other.score? id) := by
  rw [score?, merge, SortedMap.find?_foldl_insertNew, SortedMap.find?_entries]
  rfl

end Targeting.MatchSet
