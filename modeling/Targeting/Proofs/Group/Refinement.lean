import Mathlib
import Targeting.Proofs.Group.Placement

namespace Targeting

-- The criteria that was last written under each id and not deleted since.
def Change.write (written : SortedMap String Criteria) : Change → SortedMap String Criteria
  | .index c .add => written.insert c.id c
  | .index c .update => written.insert c.id c
  | .index c .delete => written.erase c.id
  | .delete id => written.erase id
  | .load text =>
    match Criteria.readAll text with
    | .ok all => all.foldl (fun written c => written.insert c.id c) written
    | .error _ => written
  | .compact => written

def Change.written (changes : List Change) : SortedMap String Criteria :=
  changes.foldl write .empty

namespace Group

-- Whether what is stored under an id is a definition, as far as definitions are compared.
def Stores (g : Group) (id : String) (d : Definition) : Prop :=
  ∃ c, g.get? id = some c ∧ c.same d = true

-- A criteria that is written again as it was stays in its old version.
def Agrees (g : Group) (written : SortedMap String Criteria) : Prop :=
  ∀ id, Option.Rel (fun old new => old.same new.toDefinition = true) (g.get? id) (written.find? id)

namespace Agrees

variable {g : Group} {written : SortedMap String Criteria}

theorem contains (h : g.Agrees written) (id : String) : g.stored.contains id = written.contains id := by
  have hid := h id
  rw [get?] at hid
  rw [SortedMap.contains, SortedMap.contains]
  generalize g.stored.find? id = old at hid ⊢
  generalize written.find? id = new at hid ⊢
  cases hid with
  | none => rfl
  | some _ => rfl

theorem add (h : g.Agrees written) (c : Criteria) : (g.add c).Agrees (written.insert c.id c) := by
  intro id
  rw [SortedMap.find?_insert, Group.add]
  split
  next hsame =>
    split
    next hid =>
      rw [hid]
      obtain ⟨old, hold, hsame⟩ := (Option.any_eq_true _ _).mp hsame
      rw [hold]
      exact .some hsame
    next => exact h id
  next =>
    rw [get?]
    change Option.Rel _ ((g.stored.insert c.id c).find? id) _
    rw [SortedMap.find?_insert]
    split
    · exact .some c.same_self
    · exact h id

theorem addAll (h : g.Agrees written) (all : List Criteria) :
    (g.addAll all).Agrees (all.foldl (fun written c => written.insert c.id c) written) := by
  induction all generalizing g written with
  | nil => exact h
  | cons c rest ih => exact ih (h.add c)

theorem delete (h : g.Agrees written) (id : String) : (g.delete id).1.Agrees (written.erase id) := by
  intro other
  rw [SortedMap.find?_erase, Group.delete]
  split
  next hnone =>
    split
    next hid => rw [hid, hnone]; exact .none
    next => exact h other
  next =>
    rw [get?]
    change Option.Rel _ ((g.stored.erase id).find? other) _
    rw [SortedMap.find?_erase]
    split
    · exact .none
    · exact h other

theorem change (h : g.Agrees written) (change : Change) :
    (g.change change).Agrees (change.write written) := by
  cases change with
  | index c operation =>
    cases operation with
    | add => exact h.add c
    | update => exact h.add c
    | delete => exact h.delete c.id
  | delete id => exact h.delete id
  | load text =>
    rw [Group.change, Group.loadText, Change.write]
    cases Criteria.readAll text with
    | ok all => exact h.addAll all
    | error fault => exact h
  | compact => exact h

theorem run (h : g.Agrees written) (changes : List Change) :
    (g.run changes).Agrees (changes.foldl Change.write written) := by
  induction changes generalizing g written with
  | nil => exact h
  | cons change rest ih => exact ih (h.change change)

end Agrees

-- Whether something of a criteria is found in a place.
def isIn (g : Group) (id : String) : Placement → Bool
  | .indexed .dnf => !(g.dnf.liveOf id).isEmpty
  | .indexed .cnf => !(g.cnf.liveOf id).isEmpty
  | .residual => g.residual.contains id

-- A group reads as the map from ids to what was written under them.
structure Refines (g : Group) (written : SortedMap String Criteria) : Prop where
  get : ∀ id, Option.Rel (fun old new => old.same new.toDefinition = true)
    (g.get? id) (written.find? id)
  listed : ∀ c, c ∈ g.toList ↔ g.get? c.id = some c
  ascending : g.toList.Pairwise fun c d => compare c.id d.id = .lt
  size : g.size = written.size
  isEmpty : g.isEmpty = written.isEmpty
  delete : ∀ id, (g.delete id).2 = written.contains id
  placed : ∀ id place, g.isIn id place = true ↔ (g.get? id).map Criteria.placement = some place
  criteria : g.stats.criteria = written.size
  residual : g.stats.residual = g.toList.countP fun c => !c.isIndexable
  liveInstances : g.stats.liveInstances
    = ((g.toList.filter fun c => c.isIndexable && c.form == .dnf).map fun c => c.clauses.length).sum
      + g.toList.countP fun c => c.isIndexable && c.form == .cnf

namespace Placed

variable {g : Group}

theorem listed (h : g.Placed) (c : Criteria) : c ∈ g.toList ↔ g.get? c.id = some c := by
  rw [toList, SortedMap.mem_values, get?]
  constructor
  · rintro ⟨id, hid⟩
    rwa [h.keyed id c hid]
  · intro hc
    exact ⟨c.id, hc⟩

theorem ascending (h : g.Placed) : g.toList.Pairwise fun c d => compare c.id d.id = .lt := by
  refine List.pairwise_map.mpr (g.stored.ascending.imp_of_mem ?_)
  intro a b ha hb hab
  rwa [h.keyed a.1 a.2 (SortedMap.mem_entries_iff.mp ha),
    h.keyed b.1 b.2 (SortedMap.mem_entries_iff.mp hb)]

theorem isIn_iff (h : g.Placed) (id : String) (place : Placement) :
    g.isIn id place = true ↔ (g.get? id).map Criteria.placement = some place := by
  have hheld : (g.held place).find? id ≠ none ↔
      (g.get? id).map Criteria.placement = some place := by
    rw [find?_held, get?]
    cases g.stored.find? id with
    | none => simp
    | some c => simp
  have hindex (form : Form) : ((g.index form).liveOf id).isEmpty = false ↔
      (g.held (.indexed form)).find? id ≠ none := by
    rw [ne_eq, ← (h.index form).liveOf_eq_nil_iff, ← List.isEmpty_iff, Bool.not_eq_true]
  rw [← hheld]
  cases place with
  | indexed form =>
    rw [← hindex form]
    cases form with
    | dnf => rw [isIn, Bool.not_eq_true']; rfl
    | cnf => rw [isIn, Bool.not_eq_true']; rfl
  | residual => rw [← h.residual, isIn, SortedMap.contains, Option.isSome_iff_ne_none]

theorem values_held (g : Group) (place : Placement) :
    (g.held place).values = g.toList.filter fun c => decide (c.placement = place) :=
  SortedMap.values_filter g.stored fun c => decide (c.placement = place)

theorem liveInstances_index (h : g.Placed) (form : Form) :
    (g.index form).stats.liveInstances
      = ((g.toList.filter fun c => c.isIndexable && c.form == form).map fun c =>
          match form with
          | .dnf => c.clauses.length
          | .cnf => 1).sum := by
  rw [(h.index form).liveInstances, values_held]
  simp only [Criteria.placement_eq_indexed]
  congr 1
  refine List.map_congr_left fun c hc => ?_
  obtain ⟨-, hc⟩ := List.mem_filter.mp hc
  have hform : c.form = form := by simpa using (Bool.and_eq_true_iff.mp hc).2
  cases form <;> simp only [Index.stage_length, hform]

theorem refines {written : SortedMap String Criteria} (h : g.Placed) (hwritten : g.Agrees written) :
    g.Refines written where
  get := hwritten
  listed := h.listed
  ascending := h.ascending
  size := SortedMap.size_eq_of_contains hwritten.contains
  isEmpty := by
    have hsize := SortedMap.size_eq_of_contains hwritten.contains
    rw [SortedMap.size, SortedMap.size] at hsize
    rw [Group.isEmpty, Bool.eq_iff_iff, SortedMap.isEmpty_iff, SortedMap.isEmpty_iff,
      ← List.length_eq_zero_iff, ← List.length_eq_zero_iff, hsize]
  delete id := by
    rw [← hwritten.contains, SortedMap.contains, Group.delete, get?]
    cases g.stored.find? id <;> rfl
  placed := h.isIn_iff
  criteria := SortedMap.size_eq_of_contains hwritten.contains
  residual := by
    have hsize : g.stats.residual = (g.held .residual).values.length := by
      rw [stats, h.residual, SortedMap.values, List.length_map]
      rfl
    rw [hsize, values_held, ← List.countP_eq_length_filter]
    refine List.countP_congr fun c _ => ?_
    rw [Criteria.placement]
    split <;> simp_all
  liveInstances := by
    have hdnf := h.liveInstances_index .dnf
    have hcnf := h.liveInstances_index .cnf
    rw [List.map_const', List.sum_replicate, ← List.countP_eq_length_filter] at hcnf
    rw [stats]
    exact (congrArg₂ _ hdnf hcnf).trans (by simp)

end Placed

-- After any run a group reads as the map that the same changes make.
theorem run_refines (name : String) (config : GroupConfig) (changes : List Change) :
    ((empty name config).run changes).Refines (Change.written changes) := by
  have hempty : (empty name config).Agrees .empty := fun _ => .none
  exact ((Placed.empty name config).run changes).refines (hempty.run changes)

end Group

end Targeting
