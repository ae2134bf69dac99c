import Mathlib
import Targeting.Proofs.Index.Apart
import Targeting.Proofs.Index.Opening

namespace Targeting.Index

-- The bodies of which the instances of a criteria are made.
def Body.ofCriteria (criteria : Criteria) : List Body :=
  match criteria.form with
  | .dnf => criteria.clauses.map .conjunction
  | .cnf => [.formula criteria.clauses]

-- The predicate for which a posting was filed: one of the body that has the posting's id.
structure Published.FiledFor (p : Published) (q : Posting) (t : Term) : Prop where
  body : ∃ n b, (Body.ofCriteria p.criteria)[n]? = some b ∧ q.internalId = p.firstId + n ∧ t ∈ b.terms
  posting : q = t.posting q.internalId p.criteria.id

-- The one caveat that is stored for a list passes what the caveat of a predicate passes, so that a
-- document addresses the list exactly when the predicate hits.
structure Row.DecidesFor (r : Row) (path : String) (token : Token) (occurrence : Nat) (p : Predicate) :
    Prop where
  onPath : p.path = path
  stored : ∃ pathRow c, r.paths.find? path = some pathRow ∧ (token, c) ∈ pathRow.caveats ∧
    (∀ d, (token, d) ∈ pathRow.caveats → d = c) ∧ ∀ v, c.accepts v = p.caveat.accepts v
  addressed : ∀ doc, r.Addresses doc (.literal path token occurrence) ↔ p.hits doc = true

section Staging

theorem stage_eq_bodies (firstId : Nat) (criteria : Criteria) :
    stage firstId criteria
      = (Body.ofCriteria criteria).zipIdx.map fun e => e.1.stage (firstId + e.2) criteria.id := by
  rw [stage, Body.ofCriteria]
  cases criteria.form with
  | dnf =>
    rw [List.zipIdx_map, List.map_map]
    rfl
  | cnf => rfl

theorem Body.predicate_valid {criteria : Criteria} {b : Body} (hb : b ∈ ofCriteria criteria) :
    ∀ p ∈ b.predicates, p.fault? = none := by
  rw [ofCriteria] at hb
  intro p hp
  split at hb
  next =>
    obtain ⟨clause, hclause, rfl⟩ := List.mem_map.mp hb
    exact criteria.predicate_valid hclause hp
  next =>
    obtain rfl := List.mem_singleton.mp hb
    obtain ⟨clause, hclause, hp⟩ := List.mem_flatten.mp hp
    exact criteria.predicate_valid hclause hp

-- What is filed for a literal is the posting of a predicate that has the literal.
theorem Body.exists_term {b : Body} {internalId : Nat} {externalId : String} {f : Filing}
    (hf : f ∈ (b.stage internalId externalId).filings) {path : String} {token : Token}
    {occurrence : Nat} (hplace : f.place = .literal path token occurrence) :
    ∃ t ∈ b.terms, t.predicate.path = path ∧ token ∈ tokens t.predicate.caveat ∧
      f.posting = t.posting internalId externalId := by
  rw [stage_eq] at hf
  rcases Staged.mem_filings_make hf with ⟨l, hl, n, rfl⟩ | rfl
  · obtain ⟨t, ht, hl⟩ := List.mem_flatMap.mp hl
    obtain ⟨hpath, htoken, -, hposting⟩ := mem_literals hl
    cases hplace
    exact ⟨t, ht, hpath.symm, htoken, hposting⟩
  · cases hplace

end Staging

section Rows

variable {r : Row} {path : String} {token : Token} {occurrence : Nat} {l : PostingList}

theorem Row.mem_filed_of_listAt? {place : Place} (hl : r.listAt? place = some l) {q : Posting}
    (hq : q ∈ l.toList) (slotCount : Nat) : ⟨slotCount, place, q⟩ ∈ r.filed slotCount := by
  cases place with
  | sentinel =>
    cases hl
    exact List.mem_append_right _ (List.mem_map_of_mem hq)
  | literal path token occurrence =>
    obtain ⟨p, hp, hl⟩ := Option.bind_eq_some_iff.mp hl
    exact mem_filed_of_mem_list hp hl hq

-- A caveat is stored for every list that is no list of a value, and its token names it.
theorem Row.WellFormed.exists_caveat (hr : r.WellFormed)
    (hl : r.listAt? (.literal path token occurrence) = some l) (htoken : ∀ key, token ≠ .value key) :
    ∃ p c, r.paths.find? path = some p ∧ (token, c) ∈ p.caveats ∧ token.Names (some c) ∧
      ∀ d, (token, d) ∈ p.caveats → d = c := by
  obtain ⟨p, hp, hl⟩ := Option.bind_eq_some_iff.mp hl
  have hwf := hr.paths p (SortedMap.mem_values.mpr ⟨path, hp⟩)
  have hkey : token ∈ p.lists.keys :=
    SortedMap.mem_keys.mpr ⟨_, PathRow.find?_of_mem_listsOf (List.mem_of_getElem? hl)⟩
  have hnone : ¬ token.Names none := by
    rintro ⟨key, h⟩
    exact htoken key h
  obtain ⟨e, he, rfl⟩ := List.mem_map.mp ((hwf.mem_caveats token).mpr ⟨hkey, hnone⟩)
  exact ⟨p, e.2, hp, he, hwf.names e he, fun d hd => (hwf.names _ hd).unique (hwf.names e he)⟩

-- Whatever valid predicate has the token, the caveat that is stored is as good as its own.
theorem Row.WellFormed.decidesFor (hr : r.WellFormed)
    (hl : r.listAt? (.literal path token occurrence) = some l) (htoken : ∀ key, token ≠ .value key)
    {p : Predicate} (hvalid : p.fault? = none) (hpath : p.path = path)
    (hmem : token ∈ tokens p.caveat) : r.DecidesFor path token occurrence p := by
  obtain ⟨pathRow, c, hrow, hc, hnames, hunique⟩ := hr.exists_caveat hl htoken
  have hown : token.Names (some p.caveat) := by
    have htested := names_of_mem_tokens (Predicate.fault?_eq_none_iff.mp hvalid).2.2 hmem
    cases hcaveat : p.caveat with
    | oneOf keys =>
      rw [hcaveat] at htested
      obtain ⟨key, hkey⟩ := htested
      exact absurd hkey (htoken key)
    | pattern _ => rwa [hcaveat] at htested
    | range _ => rwa [hcaveat] at htested
    | version _ => rwa [hcaveat] at htested
  have hsame : c = p.caveat := hnames.unique hown
  refine ⟨hpath, ⟨pathRow, c, hrow, hc, hunique, fun v => by rw [hsame]⟩, fun doc => ?_⟩
  rw [Predicate.hits, hpath, List.any_eq_true, ← hsame]
  constructor
  · intro haddresses
    cases haddresses with
    | value => exact absurd rfl (htoken _)
    | @caveat _ values v other _ d _ hvalues hother hd hv haccepts =>
      cases hrow.symm.trans hother
      rw [hvalues, Option.getD_some]
      exact ⟨v, hv, hunique d hd ▸ haccepts⟩
  · rintro ⟨v, hv, haccepts⟩
    cases hvalues : doc.get? path with
    | none => simp [hvalues] at hv
    | some values =>
      rw [hvalues, Option.getD_some] at hv
      exact .caveat hvalues hrow hc hv haccepts

end Rows

-- Every posting in a list of a caveat was filed for a predicate with that caveat.
theorem FormIndex.Represents.exists_filedFor {s : FormIndex} {ledger : Ledger} {log : List Staged}
    (h : s.Represents ledger log) {all : List Published}
    (hlog : log ⊆ all.flatMap Published.instances) {slotCount : Nat} {row : Row}
    (hrow : s.table.rows.find? slotCount = some row) {path : String} {token : Token}
    {occurrence : Nat} {l : PostingList}
    (hl : row.listAt? (.literal path token occurrence) = some l) {q : Posting} (hq : q ∈ l.toList) :
    ∃ p ∈ all, ∃ t, p.FiledFor q t ∧ t.predicate.fault? = none ∧ t.predicate.path = path ∧
      token ∈ tokens t.predicate.caveat := by
  have hfiled : ⟨slotCount, .literal path token occurrence, q⟩ ∈ s.table.filed :=
    Table.mem_filed_of_row hrow (Row.mem_filed_of_listAt? hl hq slotCount)
  obtain ⟨i, hi, hf⟩ := h.mem_filed.mp hfiled
  obtain ⟨f, hstaged, heq⟩ := List.mem_map.mp hf
  rw [Filed.mk.injEq] at heq
  obtain ⟨-, hplace, rfl⟩ := heq
  obtain ⟨p, hp, hi⟩ := List.mem_flatMap.mp (hlog hi)
  rw [Published.instances, stage_eq_bodies] at hi
  obtain ⟨⟨b, n⟩, hb, rfl⟩ := List.mem_map.mp hi
  have hbody := List.mem_zipIdx_iff_getElem?.mp hb
  obtain ⟨t, ht, hpath, htoken, hposting⟩ := Body.exists_term hstaged hplace
  have hvalid := Body.predicate_valid (List.mem_of_getElem? hbody) t.predicate (Body.predicate_mem ht)
  have hid : f.posting.internalId = p.firstId + n := by rw [hposting]; rfl
  exact ⟨p, hp, t, ⟨⟨n, b, hbody, hid, ht⟩, by rw [hid]; exact hposting⟩, hvalid, hpath, htoken⟩

-- Caveats of one kind with one token are the same test. So in whatever table is reached, the caveat that
-- is stored for a list decides for all that is in the list, from whichever criteria it came.
theorem caveats_of_token_decide :
    (∀ (c d : Caveat) (text : String), c.fault? = none → d.fault? = none → c.kind = d.kind →
      c.token? = some text → d.token? = some text → ∀ v, c.accepts v = d.accepts v) ∧
    ∀ form threshold steps slotCount row path token occurrence l,
      ((FormIndex.empty form threshold).run steps).table.rows.find? slotCount = some row →
      row.listAt? (.literal path token occurrence) = some l → (∀ key, token ≠ .value key) →
      ∀ q ∈ l.toList, ∃ p ∈ (FormIndex.empty form threshold).publications steps, ∃ t,
        p.FiledFor q t ∧ row.DecidesFor path token occurrence t.predicate := by
  constructor
  · intro c d text hc hd hkind hctext hdtext v
    rw [Caveat.eq_of_token hc hd hkind hctext hdtext]
  · intro form threshold steps slotCount row path token occurrence l hrow hl htoken q hq
    obtain ⟨log, hlog, h⟩ := (FormIndex.Represents.empty form threshold).run_subset steps
    obtain ⟨p, hp, t, hfor, hvalid, hpath, hmem⟩ := h.exists_filedFor hlog hrow hl hq
    have hwf := h.table.rows row (SortedMap.mem_values.mpr ⟨slotCount, hrow⟩)
    exact ⟨p, hp, t, hfor, hwf.decidesFor hl htoken hvalid hpath hmem⟩

def ranged (id : String) (valid : (⟨id, .dnf, [[.make .included "x"
    (.range (.atLeast .one))]]⟩ : Definition).fault? = none) : Criteria :=
  ⟨_, valid⟩

-- The caveat that is stored came with the first criteria, which is gone. It decides for the second.
theorem caveats_of_token_decide_deleted :
    let token : Token := .caveat .range "1##true#false"
    let q : Posting := ⟨1, "b", .included, .position 0, 0, .zero⟩
    let steps : List Step := [.publish (ranged "a" (by decide +kernel)),
      .publish (ranged "b" (by decide +kernel)), .retire "a", .compact]
    (∀ v, (Caveat.range (.atLeast .one)).accepts v = (Caveat.range (.atLeast (.ofInt 1))).accepts v) ∧
    ∃ row, ((FormIndex.empty .dnf 0).run steps).table.rows.find? 1 = some row ∧
      row.listAt? (.literal "x" token 0) = some ⟨#[q]⟩ ∧
      ∃ p ∈ (FormIndex.empty .dnf 0).publications steps, ∃ t,
        p.FiledFor q t ∧ row.DecidesFor "x" token 0 t.predicate := by
  intro token q steps
  have hfound : (((FormIndex.empty .dnf 0).run steps).table.rows.find? 1).bind
      (·.listAt? (.literal "x" token 0)) = some ⟨#[q]⟩ := by decide +kernel
  obtain ⟨row, hrow, hl⟩ := Option.bind_eq_some_iff.mp hfound
  have hsame := caveats_of_token_decide.1 (.range (.atLeast .one)) (.range (.atLeast (.ofInt 1)))
    "1##true#false" (by decide +kernel) (by decide +kernel) (by decide +kernel) (by decide +kernel)
    (by decide +kernel)
  refine ⟨hsame, row, hrow, hl, ?_⟩
  exact caveats_of_token_decide.2 .dnf 0 steps 1 row "x" token 0 ⟨#[q]⟩ hrow hl
    (by simp [token]) q (List.mem_singleton_self q)

end Targeting.Index
