import Mathlib
import Targeting.Proofs.Document
import Targeting.Proofs.Group.Duality
import Targeting.Proofs.Value.Key

namespace Targeting

namespace Document

-- Documents that have the same fields, and in each of them the same keys.
structure Alike (doc other : Document) : Prop where
  fields : ∀ path, (doc.get? path).isSome = (other.get? path).isSome
  keys : ∀ path k,
    k ∈ (doc.valuesAt path).map Value.key ↔ k ∈ (other.valuesAt path).map Value.key

-- Documents in a field of which version tests read the same texts.
def PrintsAlike (doc other : Document) (path : String) : Prop :=
  ∀ s, s ∈ (doc.valuesAt path).filterMap Value.versionText? ↔
    s ∈ (other.valuesAt path).filterMap Value.versionText?

section OfList

variable {pairs others : List (String × Value)}

-- There is a field where there is a key.
theorem Alike.of_keys {doc other : Document} (h : ∀ path k,
    k ∈ (doc.valuesAt path).map Value.key ↔ k ∈ (other.valuesAt path).map Value.key) :
    doc.Alike other := by
  refine ⟨fun path => ?_, h⟩
  have hempty : doc.valuesAt path = [] ↔ other.valuesAt path = [] := by
    have hkeys := forall_congr' fun k => not_congr (h path k)
    rwa [← List.eq_nil_iff_forall_not_mem, ← List.eq_nil_iff_forall_not_mem, List.map_eq_nil_iff,
      List.map_eq_nil_iff] at hkeys
  rw [get?_eq_valuesAt, get?_eq_valuesAt]
  simp only [hempty]
  split <;> rfl

-- How documents are put together does not matter, as long as the keys are the same.
theorem Alike.ofList
    (h : ∀ e, e ∈ pairs.map (fun e => (e.1, e.2.key)) ↔ e ∈ others.map fun e => (e.1, e.2.key)) :
    (Document.ofList pairs).Alike (Document.ofList others) := by
  have hmem (entries : List (String × Value)) (path : String) (k : Key) :
      k ∈ ((Document.ofList entries).valuesAt path).map Value.key ↔
        (path, k) ∈ entries.map fun e => (e.1, e.2.key) := by
    rw [valuesAt_ofList]
    simp only [List.mem_map, List.mem_filter, decide_eq_true_eq, Prod.mk.injEq]
    constructor
    · rintro ⟨_, ⟨e, ⟨he, hpath⟩, rfl⟩, hk⟩
      exact ⟨e, he, hpath, hk⟩
    · rintro ⟨e, he, hpath, hk⟩
      exact ⟨_, ⟨e, ⟨he, hpath⟩, rfl⟩, hk⟩
  refine .of_keys fun path k => ?_
  rw [hmem, hmem, h]

end OfList

end Document

theorem any_eq_of_mem {α : Type} {l m : List α} (h : ∀ x, x ∈ l ↔ x ∈ m) (f : α → Bool) :
    l.any f = m.any f := by
  rw [Bool.eq_iff_iff, List.any_eq_true, List.any_eq_true]
  simp only [h]

section Evaluation

variable {doc other : Document}

theorem Caveat.any_accepts_eq {c : Caveat} {values others : List Value}
    (hkeys : ∀ k, k ∈ values.map Value.key ↔ k ∈ others.map Value.key)
    (htexts : c.kind = .version →
      ∀ s, s ∈ values.filterMap Value.versionText? ↔ s ∈ others.filterMap Value.versionText?) :
    values.any c.accepts = others.any c.accepts := by
  by_cases hversion : c.kind = .version
  · cases c with
    | version b =>
      have hfactor (l : List Value) : l.any (Caveat.version b).accepts
          = (l.filterMap Value.versionText?).any b.acceptsText := by
        rw [List.any_filterMap]
        congr 1
        funext v
        rw [accepts, b.accepts_eq]
        cases v.versionText? <;> rfl
      rw [hfactor, hfactor, any_eq_of_mem (htexts rfl)]
    | _ => cases hversion
  · have hfactor (l : List Value) :
        l.any c.accepts = (l.map Value.key).any fun k => c.accepts (.ofKey k) := by
      rw [List.any_map]
      congr 1
      funext v
      exact (accepts_ofKey hversion v).symm
    rw [hfactor, hfactor, any_eq_of_mem hkeys]

def Predicate.PrintsAlike (p : Predicate) (doc other : Document) : Prop :=
  p.caveat.kind = .version → doc.PrintsAlike other p.path

theorem Predicate.evaluate_alike {p : Predicate} (h : doc.Alike other)
    (hprints : p.PrintsAlike doc other) : p.evaluate doc = p.evaluate other := by
  have hfields := h.fields p.path
  have hany := Caveat.any_accepts_eq (h.keys p.path) hprints
  rw [evaluate, evaluate]
  rw [Document.valuesAt, Document.valuesAt] at hany
  cases hdoc : doc.get? p.path with
  | none =>
    rw [hdoc] at hfields
    have hother : other.get? p.path = none := by
      rw [← Option.not_isSome_iff_eq_none, ← hfields]
      exact Bool.false_ne_true
    rw [hother]
  | some values =>
    rw [hdoc] at hfields hany
    obtain ⟨others, hother⟩ := Option.isSome_iff_exists.mp hfields.symm
    rw [hother] at hany ⊢
    exact congrArg (p.isExcluded != ·) hany

-- A criteria reads of a document what its predicates say of it.
section Clause

variable {c : Clause} (h : ∀ p ∈ c, p.evaluate doc = p.evaluate other)

include h

theorem Clause.conjunctionScore?_congr : c.conjunctionScore? doc = c.conjunctionScore? other := by
  have hall : c.holdsAll doc = c.holdsAll other := by
    rw [holdsAll, holdsAll, Bool.eq_iff_iff, List.all_eq_true, List.all_eq_true]
    exact forall₂_congr fun p hp => by rw [h p hp]
  rw [conjunctionScore?, conjunctionScore?, hall]

theorem Clause.disjunctionScore?_congr : c.disjunctionScore? doc = c.disjunctionScore? other := by
  rw [disjunctionScore?, disjunctionScore?, List.filter_congr h]

end Clause

theorem Definition.score?_congr {d : Definition}
    (h : ∀ c ∈ d.clauses, ∀ p ∈ c, p.evaluate doc = p.evaluate other) :
    d.score? doc = d.score? other := by
  rw [score?, score?]
  cases d.form with
  | dnf =>
    exact congrArg Binary64.maximum?
      (List.filterMap_congr fun c hc => Clause.conjunctionScore?_congr (h c hc))
  | cnf =>
    refine congrArg (Option.map Binary64.sum) ?_
    generalize d.clauses = clauses at h
    induction clauses with
    | nil => rfl
    | cons c rest ih =>
      rw [List.mapM_cons, List.mapM_cons, ih fun c hc => h c (List.mem_cons_of_mem _ hc),
        Clause.disjunctionScore?_congr (h c List.mem_cons_self)]

def Definition.PrintsAlike (d : Definition) (doc other : Document) : Prop :=
  ∀ c ∈ d.clauses, ∀ p ∈ c, p.PrintsAlike doc other

theorem Definition.score?_alike {d : Definition} (h : doc.Alike other)
    (hprints : d.PrintsAlike doc other) : d.score? doc = d.score? other :=
  score?_congr fun c hc p hp => Predicate.evaluate_alike h (hprints c hc p hp)

end Evaluation

-- Values that are printed like their keys are printed alike when their keys are the same.
theorem Document.Alike.printsAlike {doc other : Document} (h : doc.Alike other) {path : String}
    (hdoc : ∀ v ∈ doc.valuesAt path, v.Ordinary) (hother : ∀ v ∈ other.valuesAt path, v.Ordinary) :
    doc.PrintsAlike other path := by
  have htexts {values : List Value} (hvalues : ∀ v ∈ values, v.Ordinary) :
      values.filterMap Value.versionText?
        = (values.map Value.key).filterMap fun k => (Value.ofKey k).versionText? := by
    rw [List.filterMap_map]
    exact List.filterMap_congr fun v hv => (Value.versionText?_ofKey (hvalues v hv)).symm
  intro s
  rw [htexts hdoc, htexts hother, List.mem_filterMap, List.mem_filterMap]
  simp only [h.keys]

namespace Group

-- What cannot be told from the keys of two documents.
structure TreatsAlike (g : Group) (doc other : Document) : Prop where
  evaluate : ∀ d : Definition, d.PrintsAlike doc other → d.evaluate doc = d.evaluate other
  score : ∀ d : Definition, d.PrintsAlike doc other → d.score doc = d.score other
  search : ∃ found others, g.search doc = .ok found ∧ g.search other = .ok others ∧
    (∀ id, (∀ c, g.get? id = some c → c.PrintsAlike doc other) →
      (id ∈ found.ids ↔ id ∈ others.ids)) ∧
    ((∀ id c, g.get? id = some c → c.PrintsAlike doc other) → found.ids = others.ids)
  prints : ∀ path, (∀ v ∈ doc.valuesAt path, v.Ordinary) → (∀ v ∈ other.valuesAt path, v.Ordinary) →
    doc.PrintsAlike other path

theorem Placed.treatsAlike {g : Group} (hg : g.Placed) {doc other : Document} (h : doc.Alike other) :
    g.TreatsAlike doc other where
  evaluate d hprints := by
    rw [← Definition.isSome_score?, ← Definition.isSome_score?, Definition.score?_alike h hprints]
  score d hprints := by rw [Definition.score, Definition.score, Definition.score?_alike h hprints]
  search := by
    obtain ⟨found, hfound, hscores⟩ := hg.search doc
    obtain ⟨others, hothers, hscores'⟩ := hg.search other
    have hsame (id : String) (hprints : ∀ c, g.get? id = some c → c.PrintsAlike doc other) :
        (found.score? id).isSome = (others.score? id).isSome := by
      rw [(hscores id).isSome_eq, (hscores' id).isSome_eq]
      cases hc : g.get? id with
      | none => rfl
      | some c => exact congrArg Option.isSome (Definition.score?_alike h (hprints c hc))
    refine ⟨found, others, hfound, hothers, fun id hprints => ?_, fun hprints => ?_⟩
    · rw [MatchSet.mem_ids, MatchSet.mem_ids, hsame id hprints]
    · exact MatchSet.ids_eq fun id => hsame id (hprints id)
  prints _ := h.printsAlike

-- After any run documents with the same keys are treated alike, as far as version tests read the
-- same texts from them.
theorem run_treatsAlike (name : String) (config : GroupConfig) (changes : List Change)
    {doc other : Document} (h : doc.Alike other) :
    ((empty name config).run changes).TreatsAlike doc other :=
  ((Placed.empty name config).run changes).treatsAlike h

-- Adults with a release of at least version 10, in another order, twice and as other numbers.
def releases : List (String × Value) :=
  [("age", .int 18), ("release", .int 10), ("release", .float (.ofInt 12))]

def releasesRespelled : List (String × Value) :=
  [("release", .int 12), ("release", .float (.ofInt 10)), ("age", .float (.ofInt 18)), ("age", .int 18)]

def adultChanges : List Change :=
  [.index ⟨⟨"adult", .dnf, [[.make .included "age" (.range (.atLeast (.ofInt 18))),
      .make .included "release" (.version ⟨.atLeast, "10", false⟩)]]⟩, by decide +kernel⟩ .add]

theorem treatsAlike_respelled :
    (Document.ofList releases).Alike (.ofList releasesRespelled) ∧
    ((empty "" {}).run adultChanges).TreatsAlike (.ofList releases) (.ofList releasesRespelled) :=
  have hkeys : (releases.map fun e => (e.1, e.2.key)).toFinset
      = (releasesRespelled.map fun e => (e.1, e.2.key)).toFinset := by decide +kernel
  have halike : (Document.ofList releases).Alike (.ofList releasesRespelled) :=
    .ofList fun e => by rw [← List.mem_toFinset, hkeys, List.mem_toFinset]
  ⟨halike, run_treatsAlike "" {} adultChanges halike⟩

-- Of a float as large as `2 ^ 60` fewer digits are printed than of the integer.
theorem not_evaluate_alike :
    ¬ ∀ doc other : Document, doc.Alike other → ∀ c : Criteria, c.evaluate doc = c.evaluate other := by
  intro hevaluate
  have hkey : (Value.int 1152921504606846976).key = (Value.float (.ofInt 1152921504606846976)).key := by
    decide +kernel
  have halike : (Document.ofList [("x", .int 1152921504606846976)]).Alike
      (.ofList [("x", .float (.ofInt 1152921504606846976))]) :=
    .ofList fun e => by rw [List.map_singleton, List.map_singleton, hkey]
  have hsame := hevaluate _ _ halike ⟨⟨"a", .dnf, [[.make .included "x"
    (.version ⟨.atLeast, "1152921504606847000", false⟩)]]⟩, by decide +kernel⟩
  exact absurd hsame (by decide +kernel)

end Group

end Targeting
