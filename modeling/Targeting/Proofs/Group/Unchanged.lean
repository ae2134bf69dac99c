import Mathlib
import Targeting.Proofs.Criteria.SameScores
import Targeting.Proofs.Group.Exactness
import Targeting.Proofs.Group.Loading

namespace Targeting

-- Criteria of which every document says the same.
structure Criteria.Interchangeable (c d : Criteria) : Prop where
  evaluate : ∀ doc, c.evaluate doc = d.evaluate doc
  score : ∀ doc, (c.score doc).same (d.score doc) = true

theorem Criteria.interchangeable {c d : Criteria} (h : c.same d.toDefinition = true) :
    c.Interchangeable d :=
  ⟨Definition.evaluate_congr h, same_score h⟩

namespace Group

-- Groups that answer alike, in which the same ids have been given to instances.
structure Unchanged (g h : Group) : Prop where
  stats : h.stats = g.stats
  listed : h.toList = g.toList
  search : ∀ doc, h.search doc = g.search doc
  nextId : ∀ form, (h.index form).nextId = (g.index form).nextId

-- Writing what is stored already changes nothing, and what is found after any writing is what the
-- criteria that was written would be found by, also where the stored one was kept.
structure KeepsStored (g : Group) : Prop where
  got : ∀ id c, g.get? id = some c → g.Stores c.id c.toDefinition
  listed : ∀ c ∈ g.toList, g.Stores c.id c.toDefinition
  skips : ∀ c operation, operation ≠ .delete → g.Stores c.id c.toDefinition →
    g.Unchanged (g.apply c operation)
  serves : ∀ c operation, operation ≠ .delete → ∀ doc, ∃ found,
    (g.apply c operation).search doc = .ok found ∧
      Binary64.SameScore (found.score? c.id) (c.score? doc)

section Writing

variable {g : Group} {c : Criteria} {operation : Operation}

theorem apply_eq_add (h : operation ≠ .delete) : g.apply c operation = g.add c := by
  cases operation with
  | add => rfl
  | update => rfl
  | delete => exact absurd rfl h

theorem add_of_stores (h : g.Stores c.id c.toDefinition) : g.add c = g := by
  obtain ⟨old, hold, hsame⟩ := h
  rw [add, hold, Option.any_some, if_pos hsame]

theorem Placed.stores_self (h : g.Placed) {id : String} (hc : g.get? id = some c) :
    g.Stores c.id c.toDefinition :=
  ⟨c, by rw [h.keyed id c hc, hc], c.same_self⟩

-- Under the id of a criteria that is stored as far as criteria are compared its score is found.
theorem Placed.search_of_stores (h : g.Placed) (hc : g.Stores c.id c.toDefinition) (doc : Document) :
    ∃ found, g.search doc = .ok found ∧
      Binary64.SameScore (found.score? c.id) (c.score? doc) := by
  obtain ⟨old, hold, hsame⟩ := hc
  obtain ⟨found, hfound, hscores⟩ := h.search doc
  have hscore := hscores c.id
  rw [hold] at hscore
  exact ⟨found, hfound, hscore.trans (Criteria.sameScore_score? hsame doc)⟩

theorem Placed.keepsStored (h : g.Placed) : g.KeepsStored where
  got _ _ := h.stores_self
  listed c hc := h.stores_self ((h.listed c).mp hc)
  skips c operation hoperation hc := by
    rw [apply_eq_add hoperation, add_of_stores hc]
    exact ⟨rfl, rfl, fun _ => rfl, fun _ => rfl⟩
  serves c operation hoperation doc := by
    rw [apply_eq_add hoperation]
    exact (h.add c).search_of_stores (stores_add g c) doc

end Writing

-- After any run what is stored can be written again, and nothing becomes stale by keeping it, since
-- criteria that are written alike are interchangeable.
theorem run_keepsStored (name : String) (config : GroupConfig) (changes : List Change) :
    ((empty name config).run changes).KeepsStored ∧
      ∀ c d : Criteria, c.same d.toDefinition = true → c.Interchangeable d :=
  ⟨((Placed.empty name config).run changes).keepsStored, fun _ _ => Criteria.interchangeable⟩

-- From zero on, where the bound and the weight are zeros of one sign or the other.
def fromZero (zero : Binary64) (valid : (⟨"a", .dnf, [[(Predicate.make .included "x"
    (.range (.atLeast zero))).withWeight zero]]⟩ : Definition).fault? = none) : Criteria :=
  ⟨_, valid⟩

def negativeZero : Criteria := fromZero .negZero (by decide +kernel)

def positiveZero : Criteria := fromZero .zero (by decide +kernel)

theorem keepsStored_zeros : negativeZero.same positiveZero.toDefinition = true ∧
    Unchanged ((empty "" {}).run [.index negativeZero .add])
      (((empty "" {}).run [.index negativeZero .add]).apply positiveZero .update) ∧
    negativeZero.Interchangeable positiveZero := by
  have hsame : negativeZero.same positiveZero.toDefinition = true := by decide +kernel
  obtain ⟨hkeeps, hinterchangeable⟩ := run_keepsStored "" {} [.index negativeZero .add]
  have hstores : ((empty "" {}).run [.index negativeZero .add]).Stores positiveZero.id
      positiveZero.toDefinition := ⟨negativeZero, rfl, hsame⟩
  exact ⟨hsame, hkeeps.skips positiveZero .update (by decide) hstores, hinterchangeable _ _ hsame⟩

end Group

end Targeting
