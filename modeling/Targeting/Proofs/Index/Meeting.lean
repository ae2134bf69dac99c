import Mathlib
import Targeting.Criteria.Evaluation
import Targeting.Proofs.Index.Addressed

namespace Targeting

-- Whether one of the values under the path of a predicate passes its caveat.
def Predicate.hits (p : Predicate) (doc : Document) : Bool :=
  ((doc.get? p.path).getD []).any p.caveat.accepts

theorem Predicate.isExcluded_eq (p : Predicate) : p.isExcluded = !p.isIncluded := by
  rw [isExcluded, isIncluded]
  cases p.kind <;> rfl

-- With its natural default a predicate tells whether it hits, or whether it does not.
theorem Predicate.evaluate_eq {p : Predicate} (h : p.hasNaturalDefault = true) (doc : Document) :
    p.evaluate doc = (p.isExcluded != p.hits doc) := by
  rw [evaluate, hits]
  cases doc.get? p.path with
  | none =>
    have hdefault : p.defaultResult = p.isExcluded := eq_of_beq h
    rw [hdefault]
    cases p.isExcluded <;> rfl
  | some values => rfl

namespace Index

-- The postings of an instance whose lists a document addresses.
def Staged.met (doc : Document) (i : Staged) : List Posting :=
  (i.filings.filter fun f => f.met doc).map Filing.posting

namespace Term

variable {internalId : Nat} {externalId : String} {doc : Document}

def posting (internalId : Nat) (externalId : String) (t : Term) : Posting :=
  ⟨internalId, externalId, t.predicate.kind, .position t.slot, t.ordinal, t.predicate.weight⟩

theorem met_filing (l : Literal) (doc : Document) :
    (l.filing 0).met doc = ((doc.get? l.path).getD []).any fun v =>
      l.caveat.elim (decide (l.token = .value v.key)) fun c => c.accepts v := by
  unfold Filing.met Literal.filing
  cases l.caveat <;> rfl

-- A predicate hits when one of its literals is met.
theorem exists_literal_iff (internalId : Nat) (externalId : String) (t : Term) :
    (∃ l ∈ t.literals internalId externalId, (l.filing 0).met doc = true) ↔
      t.predicate.hits doc = true := by
  have htoken : (∃ l ∈ t.literals internalId externalId, (l.filing 0).met doc = true) ↔
      ∃ token ∈ tokens t.predicate.caveat, ∃ v ∈ (doc.get? t.predicate.path).getD [],
        (tested t.predicate.caveat).elim (decide (token = .value v.key)) (fun c => c.accepts v)
          = true := by
    simp only [met_filing, literals, Index.literals, List.mem_map, List.any_eq_true]
    constructor
    · rintro ⟨_, ⟨token, htoken, rfl⟩, v, hv, hmet⟩
      exact ⟨token, htoken, v, hv, hmet⟩
    · rintro ⟨token, htoken, v, hv, hmet⟩
      exact ⟨_, ⟨token, htoken, rfl⟩, v, hv, hmet⟩
  rw [htoken, Predicate.hits, List.any_eq_true]
  cases t.predicate.caveat with
  | oneOf keys =>
    simp only [tokens, tested, List.mem_map, Option.elim_none, decide_eq_true_eq, Caveat.accepts,
      SortedMap.contains_iff]
    constructor
    · rintro ⟨_, ⟨key, hkey, rfl⟩, v, hv, htoken⟩
      cases htoken
      exact ⟨v, hv, hkey⟩
    · rintro ⟨v, hv, hkey⟩
      exact ⟨_, ⟨v.key, hkey, rfl⟩, v, hv, rfl⟩
  | pattern p => simp [tokens, tested, Caveat.token?]
  | range r => simp [tokens, tested, Caveat.token?]
  | version b => simp [tokens, tested, Caveat.token?]

end Term

-- The postings that are met are those of the predicates that hit, and the sentinel.
theorem Staged.mem_met_make {internalId : Nat} {metadata : Instance} {terms : List Term}
    {doc : Document} {q : Posting} :
    q ∈ (Staged.make internalId metadata
        (terms.flatMap (Term.literals internalId metadata.externalId))).met doc ↔
      (∃ t ∈ terms, t.predicate.hits doc = true ∧ q = t.posting internalId metadata.externalId) ∨
        metadata.slotCount = 0 ∧ q = .sentinel internalId metadata.externalId := by
  have hfilings := Literal.filter_filings (f := fun f : Filing => f.met doc)
    (g := fun l => (l.filing 0).met doc) (fun l n => rfl) []
    (terms.flatMap (Term.literals internalId metadata.externalId))
  rw [met, make, List.filter_append, List.map_append, List.mem_append, hfilings, List.mem_map]
  refine or_congr ?_ ?_
  · simp only [List.mem_filter, List.mem_flatMap]
    constructor
    · rintro ⟨l, ⟨⟨t, ht, hl⟩, hmet⟩, rfl⟩
      exact ⟨t, ht, (t.exists_literal_iff _ _).mp ⟨l, hl, hmet⟩, (mem_literals hl).2.2.2⟩
    · rintro ⟨t, ht, hhits, rfl⟩
      obtain ⟨l, hl, hmet⟩ := (t.exists_literal_iff internalId metadata.externalId).mpr hhits
      exact ⟨l, ⟨⟨t, ht, hl⟩, hmet⟩, (mem_literals hl).2.2.2⟩
  · by_cases hslots : metadata.slotCount = 0
    · simp [hslots, Filing.met]
    · simp [hslots]

-- Postings of different slots are different postings.
theorem length_le_of_slots {postings : List Posting} {slots : List Slot} (hnodup : slots.Nodup)
    (h : ∀ slot ∈ slots, ∃ q ∈ postings, q.slot = slot) : slots.length ≤ postings.length := by
  have hlength : postings.length = (postings.map Posting.slot).length := (List.length_map _).symm
  rw [hlength]
  refine (List.subperm_of_subset hnodup fun slot hslot => ?_).length_le
  obtain ⟨q, hq, hqslot⟩ := h slot hslot
  exact List.mem_map.mpr ⟨q, hq, hqslot⟩

end Index

end Targeting
