import Mathlib
import Targeting.Index.Instance
import Targeting.Proofs.Criteria.Validity

namespace Targeting.Index

-- A token of values goes without a caveat. Any other token names the caveat that comes with it.
def Token.Names (token : Token) : Option Caveat → Prop
  | none => ∃ key, token = .value key
  | some c => c.fault? = none ∧ c.token?.map (.caveat c.kind) = some token

theorem Token.Names.not_value {token : Token} {c : Caveat} (h : token.Names (some c)) :
    ¬ token.Names none := by
  rintro ⟨key, rfl⟩
  obtain ⟨text, -, htext⟩ := Option.map_eq_some_iff.mp h.2
  cases htext

-- The caveat of a filing is the one that the token of its place names.
def Filing.WellPlaced (f : Filing) : Prop :=
  match f.place with
  | .literal _ token _ => token.Names f.caveat
  | .sentinel => f.caveat = none

-- An instance that can be told apart from others by its id, and whose filings go to lists of
-- their own.
structure Staged.WellFormed (s : Staged) : Prop where
  internalId : ∀ f ∈ s.filings, f.posting.internalId = s.internalId
  externalId : ∀ f ∈ s.filings, f.posting.externalId = s.metadata.externalId
  places : (s.filings.map Filing.place).Nodup
  wellPlaced : ∀ f ∈ s.filings, f.WellPlaced
  nonempty : s.filings ≠ []

namespace Literal

theorem countP_repeats_congr {a b : Literal} (hpath : a.path = b.path) (htoken : a.token = b.token)
    (l : List Literal) : l.countP a.repeats = l.countP b.repeats := by
  refine List.countP_congr fun c _ => ?_
  simp [repeats, hpath, htoken]

theorem mem_filings {f : Filing} {earlier literals : List Literal}
    (h : f ∈ filings earlier literals) :
    ∃ l ∈ literals, ∃ n, f = l.filing n ∧ earlier.countP l.repeats ≤ n := by
  induction literals generalizing earlier with
  | nil => simp [filings] at h
  | cons l rest ih =>
    rcases List.mem_cons.mp h with h | h
    · exact ⟨l, List.mem_cons_self, _, h, Nat.le_refl _⟩
    · obtain ⟨m, hm, n, hf, hn⟩ := ih h
      refine ⟨m, List.mem_cons_of_mem _ hm, n, hf, Nat.le_trans ?_ hn⟩
      exact List.Sublist.countP_le (List.sublist_cons_self l earlier)

-- Each further occurrence of a literal has a higher number, since the ones before it are counted.
theorem nodup_places (earlier literals : List Literal) :
    ((filings earlier literals).map Filing.place).Nodup := by
  induction literals generalizing earlier with
  | nil => exact List.nodup_nil
  | cons l rest ih =>
    rw [filings, List.map_cons, List.nodup_cons]
    refine ⟨fun hmem => ?_, ih (l :: earlier)⟩
    obtain ⟨f, hf, hplace⟩ := List.mem_map.mp hmem
    obtain ⟨m, -, n, rfl, hn⟩ := mem_filings hf
    simp only [filing, Place.literal.injEq] at hplace
    obtain ⟨hpath, htoken, hocc⟩ := hplace
    have hself : m.repeats l = true := by simp [repeats, hpath, htoken]
    rw [List.countP_cons_of_pos hself, countP_repeats_congr hpath htoken] at hn
    omega

-- A test that does not look at occurrences picks the filings of the literals that it picks.
theorem filter_filings {f : Filing → Bool} {g : Literal → Bool}
    (h : ∀ l n, f (l.filing n) = g l) (earlier literals : List Literal) :
    ((filings earlier literals).filter f).map Filing.posting
      = (literals.filter g).map Literal.posting := by
  induction literals generalizing earlier with
  | nil => rfl
  | cons l rest ih =>
    rw [filings, List.filter_cons, List.filter_cons, h]
    cases hl : g l with
    | false => simpa using ih (l :: earlier)
    | true => simpa [filing] using ih (l :: earlier)

theorem length_filings (earlier literals : List Literal) :
    (filings earlier literals).length = literals.length := by
  induction literals generalizing earlier with
  | nil => rfl
  | cons l rest ih => simp [filings, ih]

end Literal

section Tokens

theorem tokens_ne_nil {c : Caveat} (h : c.fault? = none) : tokens c ≠ [] := by
  cases c with
  | oneOf keys =>
    intro hnil
    have hkeys : keys.entries = [] := by
      simpa [tokens, KeySet.toList, SortedMap.keys] using hnil
    simp [Caveat.fault?, SortedMap.isEmpty, hkeys] at h
  | pattern p => simp [tokens, Caveat.token?]
  | range r => simp [tokens, Caveat.token?]
  | version b => simp [tokens, Caveat.token?]

theorem names_of_mem_tokens {c : Caveat} {token : Token} (hc : c.fault? = none)
    (h : token ∈ tokens c) : token.Names (tested c) := by
  cases c with
  | oneOf keys =>
    obtain ⟨key, -, rfl⟩ := List.mem_map.mp h
    exact ⟨key, rfl⟩
  | pattern p => exact ⟨hc, by simpa [tokens, eq_comm] using h⟩
  | range r => exact ⟨hc, by simpa [tokens, eq_comm] using h⟩
  | version b => exact ⟨hc, by simpa [tokens, eq_comm] using h⟩

end Tokens

namespace Staged

variable {internalId : Nat} {metadata : Instance} {ls : List Literal}

theorem mem_filings_make {f : Filing} (h : f ∈ (make internalId metadata ls).filings) :
    (∃ l ∈ ls, ∃ n, f = l.filing n) ∨
      f = ⟨.sentinel, none, .sentinel internalId metadata.externalId⟩ := by
  rcases List.mem_append.mp h with h | h
  · obtain ⟨l, hl, n, hf, -⟩ := Literal.mem_filings h
    exact .inl ⟨l, hl, n, hf⟩
  · split at h
    next => exact .inr (List.mem_singleton.mp h)
    next => simp at h

-- Literals go to lists of their own, and none goes to the sentinel's.
theorem nodup_places_make (internalId : Nat) (metadata : Instance) (ls : List Literal) :
    ((make internalId metadata ls).filings.map Filing.place).Nodup := by
  rw [make, List.map_append, List.nodup_append]
  refine ⟨Literal.nodup_places [] ls, by split <;> simp, ?_⟩
  rintro place hplace _ hsentinel rfl
  obtain ⟨f, hf, rfl⟩ := List.mem_map.mp hplace
  obtain ⟨l, -, n, rfl, -⟩ := Literal.mem_filings hf
  split at hsentinel <;> simp [Literal.filing] at hsentinel

theorem internalId_of_mem_make (hid : ∀ l ∈ ls, l.posting.internalId = internalId) :
    ∀ f ∈ (make internalId metadata ls).filings, f.posting.internalId = internalId := by
  intro f hf
  rcases mem_filings_make hf with ⟨l, hl, n, rfl⟩ | rfl
  · exact hid l hl
  · rfl

theorem wellFormed_make (hid : ∀ l ∈ ls, l.posting.internalId = internalId)
    (hext : ∀ l ∈ ls, l.posting.externalId = metadata.externalId)
    (hnames : ∀ l ∈ ls, l.token.Names l.caveat) (hne : ls ≠ []) :
    (make internalId metadata ls).WellFormed where
  internalId := internalId_of_mem_make hid
  externalId f hf := by
    rcases mem_filings_make hf with ⟨l, hl, n, rfl⟩ | rfl
    · exact hext l hl
    · rfl
  places := nodup_places_make internalId metadata ls
  wellPlaced f hf := by
    rcases mem_filings_make hf with ⟨l, hl, n, rfl⟩ | rfl
    · exact hnames l hl
    · rfl
  nonempty := by
    intro hnil
    have hlen := congrArg List.length (List.append_eq_nil_iff.mp hnil).1
    rw [Literal.length_filings] at hlen
    exact hne (List.length_eq_zero_iff.mp hlen)

end Staged

-- What is staged for a predicate.
section Predicates

variable {internalId slot ordinal : Nat} {externalId : String} {p : Predicate}

theorem mem_literals {l : Literal} (h : l ∈ literals internalId externalId p slot ordinal) :
    l.path = p.path ∧ l.token ∈ tokens p.caveat ∧ l.caveat = tested p.caveat ∧
      l.posting = ⟨internalId, externalId, p.kind, .position slot, ordinal, p.weight⟩ := by
  obtain ⟨token, htoken, rfl⟩ := List.mem_map.mp h
  exact ⟨rfl, htoken, rfl, rfl⟩

theorem literals_ne_nil (h : p.fault? = none) :
    literals internalId externalId p slot ordinal ≠ [] := by
  rw [literals, ne_eq, List.map_eq_nil_iff]
  exact tokens_ne_nil (Predicate.fault?_eq_none_iff.mp h).2.2

theorem names_of_mem_literals {l : Literal} (hp : p.fault? = none)
    (h : l ∈ literals internalId externalId p slot ordinal) : l.token.Names l.caveat := by
  obtain ⟨-, htoken, hcaveat, -⟩ := mem_literals h
  rw [hcaveat]
  exact names_of_mem_tokens (Predicate.fault?_eq_none_iff.mp hp).2.2 htoken

end Predicates

-- A predicate with the slot that it speaks for and its position in the instance.
structure Term where
  predicate : Predicate
  slot : Nat
  ordinal : Nat

namespace Term

def literals (internalId : Nat) (externalId : String) (t : Term) : List Literal :=
  Index.literals internalId externalId t.predicate t.slot t.ordinal

def ofConjunction (c : Clause) : List Term := c.zipIdx.map fun e => ⟨e.1, e.2, e.2⟩

def ofFormula (clauses : List Clause) : List Term :=
  (clauses.zipIdx.flatMap fun e => e.1.map fun p => (p, e.2)).zipIdx.map
    fun e => ⟨e.1.1, e.1.2, e.2⟩

theorem stageConjunction_eq (internalId : Nat) (externalId : String) (c : Clause) :
    stageConjunction internalId externalId c
      = .make internalId ⟨externalId, c.includedCount, []⟩
          ((ofConjunction c).flatMap (literals internalId externalId)) := by
  rw [stageConjunction, ofConjunction, List.flatMap_map]
  rfl

theorem stageFormula_eq (internalId : Nat) (externalId : String) (clauses : List Clause) :
    stageFormula internalId externalId clauses
      = .make internalId
          ⟨externalId, clauses.countP fun c => c.excludedCount == 0,
            clauses.map fun c => -(c.excludedCount : Int)⟩
          ((ofFormula clauses).flatMap (literals internalId externalId)) := by
  rw [stageFormula, ofFormula, List.flatMap_map]
  rfl

theorem mem_ofConjunction {clause : Clause} {t : Term} :
    t ∈ ofConjunction clause ↔ clause[t.slot]? = some t.predicate ∧ t.ordinal = t.slot := by
  simp only [ofConjunction, List.mem_map, List.mem_zipIdx_iff_getElem?]
  constructor
  · rintro ⟨e, he, rfl⟩
    exact ⟨he, rfl⟩
  · rintro ⟨h, ho⟩
    exact ⟨(t.predicate, t.slot), h, by cases t; simp_all⟩

-- A term of a formula belongs to the disjunction at its slot.
theorem predicate_mem_of_mem_ofFormula {clauses : List Clause} {t : Term}
    (h : t ∈ ofFormula clauses) : ∃ c, clauses[t.slot]? = some c ∧ t.predicate ∈ c := by
  obtain ⟨e, he, rfl⟩ := List.mem_map.mp h
  obtain ⟨d, hd, hp⟩ := List.mem_flatMap.mp (List.fst_mem_of_mem_zipIdx he)
  obtain ⟨p, hp, heq⟩ := List.mem_map.mp hp
  rw [← heq]
  exact ⟨d.1, List.mem_zipIdx_iff_getElem?.mp hd, hp⟩

theorem exists_mem_ofFormula {clauses : List Clause} {n : Nat} {c : Clause} {p : Predicate}
    (hc : clauses[n]? = some c) (hp : p ∈ c) :
    ∃ t ∈ ofFormula clauses, t.predicate = p ∧ t.slot = n := by
  have hmem : (p, n) ∈ clauses.zipIdx.flatMap fun e => e.1.map fun p => (p, e.2) :=
    List.mem_flatMap.mpr ⟨(c, n), List.mem_zipIdx_iff_getElem?.mpr hc, List.mem_map.mpr ⟨p, hp, rfl⟩⟩
  obtain ⟨i, hi, he⟩ := List.getElem_of_mem hmem
  exact ⟨⟨p, n, i⟩, List.mem_map.mpr ⟨((p, n), i),
    List.mem_zipIdx_iff_getElem?.mpr (by rw [List.getElem?_eq_getElem hi, he]), rfl⟩, rfl, rfl⟩

theorem ids_of_mem_literals {internalId : Nat} {externalId : String} {terms : List Term} {l : Literal}
    (h : l ∈ terms.flatMap (literals internalId externalId)) :
    l.posting.internalId = internalId ∧ l.posting.externalId = externalId := by
  obtain ⟨t, -, hl⟩ := List.mem_flatMap.mp h
  rw [(mem_literals hl).2.2.2]
  exact ⟨rfl, rfl⟩

-- The terms of any valid predicates, of which there is one at least.
theorem wellFormed_make (internalId : Nat) (metadata : Instance) {terms : List Term}
    (hne : terms ≠ []) (hvalid : ∀ t ∈ terms, t.predicate.fault? = none) :
    (Staged.make internalId metadata
      (terms.flatMap (literals internalId metadata.externalId))).WellFormed := by
  apply Staged.wellFormed_make
  · exact fun l hl => (ids_of_mem_literals hl).1
  · exact fun l hl => (ids_of_mem_literals hl).2
  · intro l hl
    obtain ⟨t, ht, hl⟩ := List.mem_flatMap.mp hl
    exact names_of_mem_literals (hvalid t ht) hl
  · obtain ⟨t, rest, rfl⟩ := List.exists_cons_of_ne_nil hne
    have hfirst : t.literals internalId metadata.externalId ≠ [] :=
      literals_ne_nil (hvalid t List.mem_cons_self)
    simp [hfirst]

end Term

section Stage

variable (firstId : Nat) (criteria : Criteria)

theorem stage_wellFormed {s : Staged} (h : s ∈ stage firstId criteria) : s.WellFormed := by
  rw [stage] at h
  split at h
  · obtain ⟨e, he, rfl⟩ := List.mem_map.mp h
    have hc := List.fst_mem_of_mem_zipIdx he
    rw [Term.stageConjunction_eq]
    apply Term.wellFormed_make
    · simpa [Term.ofConjunction] using criteria.clause_ne_nil hc
    · intro t ht
      exact criteria.predicate_valid hc (List.mem_of_getElem? (Term.mem_ofConjunction.mp ht).1)
  · rw [List.mem_singleton.mp h, Term.stageFormula_eq]
    apply Term.wellFormed_make
    · obtain ⟨c, rest, hcs⟩ := List.exists_cons_of_ne_nil criteria.clauses_ne_nil
      have hc : criteria.clauses[0]? = some c := by rw [hcs]; rfl
      obtain ⟨p, more, hp⟩ := List.exists_cons_of_ne_nil
        (criteria.clause_ne_nil (List.mem_of_getElem? hc))
      obtain ⟨t, ht, -⟩ := Term.exists_mem_ofFormula hc (hp ▸ List.mem_cons_self)
      exact List.ne_nil_of_mem ht
    · intro t ht
      obtain ⟨c, hc, hp⟩ := Term.predicate_mem_of_mem_ofFormula ht
      exact criteria.predicate_valid (List.mem_of_getElem? hc) hp

theorem stage_externalId {s : Staged} (h : s ∈ stage firstId criteria) :
    s.metadata.externalId = criteria.id := by
  rw [stage] at h
  split at h
  · obtain ⟨e, -, rfl⟩ := List.mem_map.mp h
    rfl
  · rw [List.mem_singleton.mp h]
    rfl

-- The ids are consecutive.
theorem stage_internalIds :
    (stage firstId criteria).map Staged.internalId
      = List.range' firstId (stage firstId criteria).length := by
  rw [stage]
  split
  · rw [List.map_map, List.length_map, List.length_zipIdx]
    refine List.ext_getElem (by simp) fun i h₁ h₂ => ?_
    simp [stageConjunction, Staged.make]
  · rfl

theorem stage_length :
    (stage firstId criteria).length
      = match criteria.form with
        | .dnf => criteria.clauses.length
        | .cnf => 1 := by
  rw [stage]
  cases criteria.form <;> simp

theorem stage_ne_nil : stage firstId criteria ≠ [] := by
  intro h
  have hlen := stage_length firstId criteria
  rw [h] at hlen
  have hpos := List.length_pos_of_ne_nil criteria.clauses_ne_nil
  cases hf : criteria.form <;> simp only [hf, List.length_nil] at hlen <;> omega

end Stage

end Targeting.Index
