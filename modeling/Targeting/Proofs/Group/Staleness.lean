import Mathlib
import Targeting.Proofs.Group.Placement
import Targeting.Proofs.Index.Staleness

namespace Targeting.Group

-- What becomes of the index of one form when a criteria is stored: it is published where it belongs,
-- and retired where it was. A criteria that is stored already changes nothing.
def addSteps (g : Group) (form : Form) (c : Criteria) : List Index.Step :=
  if (g.get? c.id).any fun old => old.same c.toDefinition then []
  else if c.placement = .indexed form then [.publish c]
  else if (g.get? c.id).map Criteria.placement = some (.indexed form) then [.retire c.id]
  else []

def addAllSteps (g : Group) (form : Form) : List Criteria → List Index.Step
  | [] => []
  | c :: rest => g.addSteps form c ++ (g.add c).addAllSteps form rest

def deleteSteps (g : Group) (form : Form) (id : String) : List Index.Step :=
  if (g.get? id).map Criteria.placement = some (.indexed form) then [.retire id] else []

def changeSteps (g : Group) (form : Form) : Change → List Index.Step
  | .index c .add => g.addSteps form c
  | .index c .update => g.addSteps form c
  | .index c .delete => g.deleteSteps form c.id
  | .delete id => g.deleteSteps form id
  | .load text =>
    match Criteria.readAll text with
    | .ok all => g.addAllSteps form all
    | .error _ => []
  | .compact => [.compact]

-- What some changes of a group do to the index of one form.
def steps (g : Group) (form : Form) : List Change → List Index.Step
  | [] => []
  | change :: rest => g.changeSteps form change ++ (g.change change).steps form rest

section Steps

variable (g : Group) (form : Form)

theorem index_add (c : Criteria) :
    (g.add c).index form = (g.index form).run (g.addSteps form c) := by
  rw [add, addSteps]
  split
  · rfl
  · rw [index_store]
    split
    · rfl
    · split <;> rfl

theorem index_addAll (all : List Criteria) :
    (g.addAll all).index form = (g.index form).run (g.addAllSteps form all) := by
  induction all generalizing g with
  | nil => rfl
  | cons c rest ih =>
    rw [addAllSteps, Index.FormIndex.run, List.foldl_append]
    refine (ih (g.add c)).trans ?_
    rw [index_add]
    rfl

theorem index_delete (id : String) :
    (g.delete id).1.index form = (g.index form).run (g.deleteSteps form id) := by
  rw [delete, deleteSteps]
  cases hc : g.get? id with
  | none => rfl
  | some c =>
    have hindex : ({ g.retire id c.placement with stored := g.stored.erase id } : Group).index form
        = (g.retire id c.placement).index form := by cases form <;> rfl
    simp only [Option.map_some, Option.some.injEq]
    rw [hindex, index_retire]
    split <;> rfl

theorem index_change (change : Change) :
    (g.change change).index form = (g.index form).run (g.changeSteps form change) := by
  cases change with
  | index c operation =>
    cases operation with
    | add => exact g.index_add form c
    | update => exact g.index_add form c
    | delete => exact g.index_delete form c.id
  | delete id => exact g.index_delete form id
  | load text =>
    rw [Group.change, loadText, changeSteps]
    cases Criteria.readAll text with
    | ok all => exact g.index_addAll form all
    | error fault => rfl
  | compact => cases form <;> rfl

-- The indexes of a group go through runs of their own.
theorem index_run (changes : List Change) :
    (g.run changes).index form = (g.index form).run (g.steps form changes) := by
  induction changes generalizing g with
  | nil => rfl
  | cons change rest ih =>
    rw [steps, Index.FormIndex.run, List.foldl_append]
    refine (ih (g.change change)).trans ?_
    rw [index_change]
    rfl

end Steps

-- The instances of one form that went out of service since its index was last compacted.
def outdatedBy (name : String) (config : GroupConfig) (changes : List Change) (form : Form) : List Nat :=
  Index.Ledger.empty.outdated (.empty form config.compactionThreshold) []
    ((empty name config).steps form changes)

-- What a group keeps of instances that are not live.
structure Accounts (g : Group) (threshold : Nat) (outdated : Form → List Nat) : Prop where
  configured : ∀ form, (g.index form).compactionThreshold = threshold
  index : ∀ form, (g.index form).Accounts (outdated form)
  stats : g.stats.staleInstances = (outdated .dnf).length + (outdated .cnf).length
  bounded : 0 < threshold → g.stats.staleInstances ≤ 2 * (threshold - 1)

-- After any run what is kept besides the live instances went out of service since the last
-- compaction, and is less than the threshold in each of the two indexes.
theorem run_accounts (name : String) (config : GroupConfig) (changes : List Change) :
    ((empty name config).run changes).Accounts config.compactionThreshold
      (outdatedBy name config changes) := by
  have hempty (form : Form) :
      (empty name config).index form = .empty form config.compactionThreshold := by
    cases form <;> rfl
  have hrun (form : Form) := (empty name config).index_run form changes
  simp only [hempty] at hrun
  have hthreshold (form : Form) :
      (((empty name config).run changes).index form).compactionThreshold
        = config.compactionThreshold := by
    rw [hrun, Index.FormIndex.compactionThreshold_run]
    rfl
  have hindex (form : Form) : (((empty name config).run changes).index form).Accounts
      (outdatedBy name config changes form) := by
    rw [hrun]
    exact Index.FormIndex.accounts_run form config.compactionThreshold _
  have hstats : ((empty name config).run changes).stats.staleInstances
      = (((empty name config).run changes).index .dnf).stale
        + (((empty name config).run changes).index .cnf).stale :=
    congrArg₂ (· + ·) (hindex .dnf).stats (hindex .cnf).stats
  refine ⟨hthreshold, hindex, ?_, fun hpositive => ?_⟩
  · rw [hstats, (hindex .dnf).counted, (hindex .cnf).counted]
  · have hdnf := (hindex .dnf).bounded
    have hcnf := (hindex .cnf).bounded
    rw [hthreshold] at hdnf hcnf
    have := hdnf hpositive
    have := hcnf hpositive
    omega

end Targeting.Group
