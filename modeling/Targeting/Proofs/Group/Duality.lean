import Mathlib
import Targeting.Proofs.Criteria.Sameness
import Targeting.Proofs.Group.Exactness
import Targeting.Proofs.Group.Loading

namespace Targeting

section Negation

variable (doc : Document)

theorem Predicate.isExcluded_negate (p : Predicate) : p.negate.isExcluded = !p.isExcluded := by
  rw [isExcluded, isExcluded, negate]
  cases p.kind <;> rfl

-- An override is negated with its predicate, and so is the natural default.
theorem Predicate.defaultResult_negate (p : Predicate) : p.negate.defaultResult = !p.defaultResult := by
  have hoverride : p.negate.override = p.override.map (!·) := rfl
  rw [defaultResult, defaultResult, naturalDefault, naturalDefault, isExcluded_negate, hoverride]
  cases p.override <;> rfl

theorem Predicate.evaluate_negate (p : Predicate) : p.negate.evaluate doc = !p.evaluate doc := by
  have hpath : p.negate.path = p.path := rfl
  have hcaveat : p.negate.caveat = p.caveat := rfl
  rw [evaluate, evaluate, hpath, hcaveat, defaultResult_negate, isExcluded_negate]
  cases doc.get? p.path with
  | none => rfl
  | some values =>
    dsimp only
    cases p.isExcluded <;> cases values.any p.caveat.accepts <;> rfl

def Clause.negate (c : Clause) : Clause := c.map Predicate.negate

theorem Clause.holdsAny_negate (c : Clause) : c.negate.holdsAny doc = !c.holdsAll doc := by
  induction c with
  | nil => rfl
  | cons p rest ih =>
    rw [negate, holdsAny, holdsAll] at ih ⊢
    rw [List.map_cons, List.any_cons, List.all_cons, Bool.not_and, ih, Predicate.evaluate_negate]

-- The negation of an or of ands is an and of ors.
theorem Definition.evaluate_negate (id other : String) (clauses : List Clause) :
    Definition.evaluate ⟨other, .cnf, clauses.map Clause.negate⟩ doc
      = !Definition.evaluate ⟨id, .dnf, clauses⟩ doc := by
  rw [evaluate, evaluate]
  induction clauses with
  | nil => rfl
  | cons c rest ih =>
    simp only at ih ⊢
    rw [List.map_cons, List.all_cons, List.any_cons, Bool.not_or, ih, Clause.holdsAny_negate]

end Negation

namespace Group

variable {g : Group}

namespace Placed

-- A search finds the ids of the stored criteria that hold.
theorem mem_ids_search (h : g.Placed) (doc : Document) :
    ∃ found, g.search doc = .ok found ∧
      ∀ id c, g.get? id = some c → (id ∈ found.ids ↔ c.evaluate doc = true) := by
  obtain ⟨found, hfound, hscores⟩ := h.search doc
  refine ⟨found, hfound, fun id c hc => ?_⟩
  rw [MatchSet.mem_ids, (hscores id).isSome_eq, hc, Option.bind_some, Definition.isSome_score?]

theorem search_stored (h : g.Placed) (doc : Document) :
    ∃ found, g.search doc = .ok found ∧
      ∀ id d, g.Stores id d → (id ∈ found.ids ↔ d.evaluate doc = true) := by
  obtain ⟨found, hfound, hids⟩ := h.mem_ids_search doc
  refine ⟨found, hfound, ?_⟩
  rintro id d ⟨c, hc, hsame⟩
  rw [hids id c hc, Definition.evaluate_congr hsame]

end Placed

-- Of a formula and its negation, stored in the two forms, every document satisfies one.
theorem run_finds_one (name : String) (config : GroupConfig) (changes : List Change)
    {id other : String} {clauses : List Clause}
    (hdnf : ((empty name config).run changes).Stores id ⟨id, .dnf, clauses⟩)
    (hcnf : ((empty name config).run changes).Stores other
      ⟨other, .cnf, clauses.map Clause.negate⟩) (doc : Document) :
    ∃ found, ((empty name config).run changes).search doc = .ok found ∧
      (id ∈ found.ids ↔ other ∉ found.ids) := by
  obtain ⟨found, hfound, hids⟩ := ((Placed.empty name config).run changes).search_stored doc
  refine ⟨found, hfound, ?_⟩
  rw [hids _ _ hdnf, hids _ _ hcnf, Definition.evaluate_negate doc id other]
  cases Definition.evaluate ⟨id, .dnf, clauses⟩ doc <;> decide

-- Adults in one of two countries, or those who are not known to be banned.
def adultsOrUnbanned : List Clause :=
  [[.make .included "age" (.range (.atLeast (.ofInt 18))),
      .make .included "country" (.oneOf (.ofValues [.text "FR", .text "DE"]))],
    [.make .excluded "banned" (.oneOf (.ofValues [.bool true]))]]

def adultsOrUnbannedChanges : List Change :=
  [.index ⟨⟨"some", .dnf, adultsOrUnbanned⟩, by decide +kernel⟩ .add,
    .index ⟨⟨"none", .cnf, adultsOrUnbanned.map Clause.negate⟩, by decide +kernel⟩ .add]

theorem finds_some_or_none :
    ((empty "" {}).run adultsOrUnbannedChanges).Stores "some" ⟨"some", .dnf, adultsOrUnbanned⟩ ∧
    ((empty "" {}).run adultsOrUnbannedChanges).Stores "none"
      ⟨"none", .cnf, adultsOrUnbanned.map Clause.negate⟩ ∧
    ∀ doc, ∃ found, ((empty "" {}).run adultsOrUnbannedChanges).search doc = .ok found ∧
      ("some" ∈ found.ids ↔ "none" ∉ found.ids) :=
  have hsome : ((empty "" {}).run adultsOrUnbannedChanges).Stores "some"
      ⟨"some", .dnf, adultsOrUnbanned⟩ := ⟨_, rfl, by decide +kernel⟩
  have hnone : ((empty "" {}).run adultsOrUnbannedChanges).Stores "none"
      ⟨"none", .cnf, adultsOrUnbanned.map Clause.negate⟩ := ⟨_, rfl, by decide +kernel⟩
  ⟨hsome, hnone, run_finds_one "" {} adultsOrUnbannedChanges hsome hnone⟩

end Group

end Targeting
