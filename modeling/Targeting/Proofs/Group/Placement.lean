import Mathlib
import Targeting.Group
import Targeting.Proofs.Index.Holding

namespace Targeting

theorem Criteria.placement_eq_indexed (c : Criteria) (form : Form) :
    decide (c.placement = .indexed form) = (c.isIndexable && c.form == form) := by
  rw [placement]
  split
  next hindexable =>
    rw [hindexable, Bool.true_and, Bool.eq_iff_iff]
    simp
  next hindexable => simp [hindexable]

-- What is done with a group.
inductive Change where
  | index (criteria : Criteria) (operation : Operation)
  | delete (id : String)
  | load (text : String)
  | compact

namespace Group

-- A text with a fault changes nothing.
def change (g : Group) : Change → Group
  | .index c operation => g.apply c operation
  | .delete id => (g.delete id).1
  | .load text =>
    match g.loadText text with
    | .ok loaded => loaded.1
    | .error _ => g
  | .compact => g.compact.1

def run (g : Group) (changes : List Change) : Group := changes.foldl change g

def index (g : Group) : Form → Index.FormIndex
  | .dnf => g.dnf
  | .cnf => g.cnf

-- The stored criteria that belong in one place.
def held (g : Group) (place : Placement) : SortedMap String Criteria :=
  g.stored.filter fun _ c => decide (c.placement = place)

-- Every stored criteria is in its place and nowhere else.
structure Placed (g : Group) : Prop where
  form : ∀ form, (g.index form).form = form
  index : ∀ form, (g.index form).Holds (g.held (.indexed form))
  residual : g.residual = g.held .residual
  keyed : ∀ id c, g.stored.find? id = some c → c.id = id

end Group

namespace Index.FormIndex

variable (s : FormIndex)

@[simp]
theorem form_compactIfDue : s.compactIfDue.form = s.form := by
  unfold compactIfDue
  split <;> rfl

theorem form_publish (criteria : Criteria) : (s.publish criteria).form = s.form := by
  rw [publish]
  split
  · rfl
  · rw [form_compactIfDue, foldl_file_eq]
    rfl

theorem form_retire (externalId : String) : (s.retire externalId).form = s.form := by
  rw [retire]
  split <;> rw [form_compactIfDue]

end Index.FormIndex

namespace Group

variable {g : Group}

theorem find?_held (g : Group) (place : Placement) (id : String) :
    (g.held place).find? id
      = (g.stored.find? id).filter fun c => decide (c.placement = place) := by
  rw [held, SortedMap.find?_filter]

-- A criteria that is stored moves to its place, and out of every other.
theorem held_of_insert {h : Group} {c : Criteria} (hstored : h.stored = g.stored.insert c.id c)
    (place : Placement) :
    h.held place
      = if c.placement = place then (g.held place).insert c.id c else (g.held place).erase c.id := by
  refine SortedMap.ext_find? fun id => ?_
  rw [find?_held, hstored, SortedMap.find?_insert]
  by_cases hid : id = c.id
  · by_cases hplace : c.placement = place <;> simp [hid, hplace]
  · by_cases hplace : c.placement = place <;>
      simp [hid, hplace, SortedMap.find?_insert, SortedMap.find?_erase, find?_held]

theorem held_of_erase {h : Group} (id : String) (hstored : h.stored = g.stored.erase id)
    (place : Placement) : h.held place = (g.held place).erase id := by
  refine SortedMap.ext_find? fun other => ?_
  rw [find?_held, hstored, SortedMap.find?_erase, SortedMap.find?_erase, find?_held]
  split <;> rfl

theorem find?_held_of_ne {id : String} {place : Placement}
    (hplace : (g.get? id).map Criteria.placement ≠ some place) :
    (g.held place).find? id = none := by
  rw [find?_held, ← get?]
  cases hc : g.get? id with
  | none => rfl
  | some c =>
    rw [hc, Option.map_some, ne_eq, Option.some.injEq] at hplace
    simp [hplace]

theorem find?_held_of_eq {id : String} {place : Placement} {c : Criteria}
    (hc : g.get? id = some c) (hplace : c.placement = place) :
    (g.held place).find? id = some c := by
  rw [find?_held, ← get?, hc]
  simp [hplace]

theorem erase_held {id : String} {place : Placement}
    (h : (g.get? id).map Criteria.placement ≠ some place) : (g.held place).erase id = g.held place := by
  refine SortedMap.ext_find? fun other => ?_
  rw [SortedMap.find?_erase]
  split
  next heq => rw [heq, find?_held_of_ne h]
  next => rfl

section Parts

theorem index_publish (g : Group) (c : Criteria) (place : Placement) (form : Form) :
    (g.publish c place).index form
      = if place = .indexed form then (g.index form).publish c else g.index form := by
  match place with
  | .indexed .dnf => cases form <;> rfl
  | .indexed .cnf => cases form <;> rfl
  | .residual => rfl

theorem index_retire (g : Group) (id : String) (place : Placement) (form : Form) :
    (g.retire id place).index form
      = if place = .indexed form then (g.index form).retire id else g.index form := by
  match place with
  | .indexed .dnf => cases form <;> rfl
  | .indexed .cnf => cases form <;> rfl
  | .residual => rfl

theorem residual_publish (g : Group) (c : Criteria) (place : Placement) :
    (g.publish c place).residual
      = if place = .residual then g.residual.insert c.id c else g.residual := by
  match place with
  | .indexed .dnf => rfl
  | .indexed .cnf => rfl
  | .residual => rfl

theorem residual_retire (g : Group) (id : String) (place : Placement) :
    (g.retire id place).residual
      = if place = .residual then g.residual.erase id else g.residual := by
  match place with
  | .indexed .dnf => rfl
  | .indexed .cnf => rfl
  | .residual => rfl

-- Where a criteria goes it is published, and from where it was it is retired.
theorem index_store (g : Group) (c : Criteria) (form : Form) :
    (g.store c).index form
      = if c.placement = .indexed form then (g.index form).publish c
        else if (g.get? c.id).map Criteria.placement = some (.indexed form) then
          (g.index form).retire c.id
        else g.index form := by
  have hstored (h : Group) : ({ h with stored := g.stored.insert c.id c } : Group).index form
      = h.index form := by cases form <;> rfl
  rw [store, hstored]
  split
  next hprevious => rw [index_publish, hprevious]; simp
  next previous hprevious =>
    split
    next hsame =>
      rw [index_publish, hprevious, hsame]
      by_cases hplace : c.placement = .indexed form <;> simp [hplace]
    next hother =>
      rw [index_retire, index_publish, hprevious]
      by_cases hplace : c.placement = .indexed form
      · simp [hplace, hplace ▸ hother]
      · simp [hplace]

theorem residual_store (g : Group) (c : Criteria) :
    (g.store c).residual
      = if c.placement = .residual then g.residual.insert c.id c
        else if (g.get? c.id).map Criteria.placement = some .residual then g.residual.erase c.id
        else g.residual := by
  rw [store]
  split
  next hprevious => rw [hprevious]; simp [residual_publish]
  next previous hprevious =>
    split
    next hsame =>
      rw [hprevious, hsame]
      by_cases hplace : c.placement = .residual <;> simp [hplace, residual_publish]
    next hother =>
      rw [hprevious]
      by_cases hplace : c.placement = .residual
      · simp [hplace, hplace ▸ hother, residual_publish, residual_retire]
      · simp [hplace, residual_publish, residual_retire]

end Parts

namespace Placed

theorem empty (name : String) (config : GroupConfig) : (Group.empty name config).Placed where
  form form := by cases form <;> rfl
  index form := by
    have hempty := (Index.FormIndex.holdsOnly_empty form config.compactionThreshold).holds
    cases form <;> exact hempty
  residual := rfl
  keyed _ _ h := nomatch h

theorem store (h : g.Placed) (c : Criteria) : (g.store c).Placed where
  form form := by
    rw [index_store]
    split
    · rw [Index.FormIndex.form_publish, h.form]
    · split
      · rw [Index.FormIndex.form_retire, h.form]
      · exact h.form form
  index form := by
    rw [index_store, held_of_insert (c := c) rfl]
    split
    · exact (h.index form).publish c
    · split
      · exact (h.index form).retire c.id
      next hprevious =>
        rw [erase_held hprevious]
        exact h.index form
  residual := by
    rw [residual_store, held_of_insert (c := c) rfl, h.residual]
    split
    · rfl
    · split
      · rfl
      next hprevious => rw [erase_held hprevious]
  keyed id d hd := by
    change (g.stored.insert c.id c).find? id = some d at hd
    rw [SortedMap.find?_insert] at hd
    split at hd
    next hid =>
      cases hd
      exact hid.symm
    next => exact h.keyed id d hd

theorem add (h : g.Placed) (c : Criteria) : (g.add c).Placed := by
  unfold Group.add
  split
  · exact h
  · exact h.store c

theorem addAll (h : g.Placed) (all : List Criteria) : (g.addAll all).Placed := by
  induction all generalizing g with
  | nil => exact h
  | cons c rest ih => exact ih (h.add c)

theorem delete (h : g.Placed) (id : String) : (g.delete id).1.Placed := by
  unfold Group.delete
  split
  next => exact h
  next c hc =>
    have hindex (form : Form) :
        ({ g.retire id c.placement with stored := g.stored.erase id } : Group).index form
          = if c.placement = .indexed form then (g.index form).retire id else g.index form := by
      rw [← index_retire]
      cases form <;> rfl
    have hresidual := residual_retire g id c.placement
    refine ⟨fun form => ?_, fun form => ?_, ?_, fun other d hd => ?_⟩
    · rw [hindex]
      split
      · rw [Index.FormIndex.form_retire, h.form]
      · exact h.form form
    · rw [hindex, held_of_erase id rfl]
      split
      · exact (h.index form).retire id
      next hplace =>
        rw [erase_held (by rw [hc]; simpa using hplace)]
        exact h.index form
    · rw [held_of_erase id rfl]
      refine hresidual.trans ?_
      split
      · rw [h.residual]
      next hplace => rw [erase_held (by rw [hc]; simpa using hplace), h.residual]
    · change (g.stored.erase id).find? other = some d at hd
      rw [SortedMap.find?_erase] at hd
      split at hd
      · cases hd
      · exact h.keyed other d hd

theorem compact (h : g.Placed) : g.compact.1.Placed where
  form form := by
    have := h.form form
    cases form <;> exact this
  index form := by
    have := (h.index form).compact.holds
    cases form <;> exact this
  residual := h.residual
  keyed := h.keyed

-- What one change preserves.
theorem change (h : g.Placed) (change : Change) : (g.change change).Placed := by
  cases change with
  | index c operation =>
    cases operation with
    | add => exact h.add c
    | update => exact h.add c
    | delete => exact h.delete c.id
  | delete id => exact h.delete id
  | load text =>
    rw [Group.change, Group.loadText]
    cases Criteria.readAll text with
    | ok all => exact h.addAll all
    | error fault => exact h
  | compact => exact h.compact

-- What a run preserves.
theorem run (h : g.Placed) (changes : List Change) : (g.run changes).Placed := by
  induction changes generalizing g with
  | nil => exact h
  | cons change rest ih => exact ih (h.change change)

end Placed

end Group

end Targeting
