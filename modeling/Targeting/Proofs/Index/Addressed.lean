import Mathlib
import Targeting.Index.Candidate
import Targeting.Proofs.Caveat
import Targeting.Proofs.Index.Filed
import Targeting.Proofs.Value.KeySet

namespace Targeting

theorem Document.get?_eq (doc : Document) (path : String) :
    doc.get? path = (doc.fields.filter fun _ values => !values.isEmpty).find? path := by
  rw [SortedMap.find?_filter, get?]

theorem Document.toList_eq (doc : Document) :
    doc.toList = (doc.fields.filter fun _ values => !values.isEmpty).entries := by
  rw [SortedMap.entries_filter, toList]

theorem Document.mem_toList {doc : Document} {path : String} {values : List Value} :
    (path, values) ∈ doc.toList ↔ doc.get? path = some values := by
  rw [toList_eq, get?_eq, SortedMap.mem_entries_iff]

theorem Document.nodup_paths (doc : Document) : (doc.toList.map Prod.fst).Nodup := by
  rw [toList_eq]
  exact SortedMap.nodup_keys _

namespace Index

-- A token names one caveat.
theorem Token.Names.unique {token : Token} {c d : Caveat} (hc : token.Names (some c))
    (hd : token.Names (some d)) : c = d := by
  obtain ⟨text, hctext, rfl⟩ := Option.map_eq_some_iff.mp hc.2
  obtain ⟨text', hdtext, htoken⟩ := Option.map_eq_some_iff.mp hd.2
  rw [Token.caveat.injEq] at htoken
  obtain ⟨hkind, rfl⟩ := htoken
  exact Caveat.eq_of_token hc.1 hd.1 hkind.symm hctext hdtext

-- Whether one of the values that a document has under the path of a filing passes its literal.
def Filing.met (doc : Document) (f : Filing) : Bool :=
  match f.place with
  | .sentinel => true
  | .literal path token _ =>
    ((doc.get? path).getD []).any fun v =>
      match f.caveat with
      | some c => c.accepts v
      | none => decide (token = .value v.key)

namespace PathRow

variable {r : PathRow} {values : List Value}

-- The lists that values address.
def addressed (r : PathRow) (values : List Value) : List PostingList :=
  ((KeySet.ofValues values).toList.flatMap fun key => r.listsOf (.value key))
    ++ r.caveats.flatMap fun e => if values.any e.2.accepts then r.listsOf e.1 else []

-- The tokens that values pass, of a value that is among them or of a caveat that one of them passes.
def passed (r : PathRow) (values : List Value) : List Token :=
  ((KeySet.ofValues values).toList.map .value)
    ++ (r.caveats.filter fun e => values.any e.2.accepts).map Prod.fst

theorem mem_passed {token : Token} : token ∈ r.passed values ↔
    (∃ v ∈ values, token = .value v.key) ∨
      ∃ c, (token, c) ∈ r.caveats ∧ ∃ v ∈ values, c.accepts v = true := by
  rw [passed, List.mem_append]
  refine or_congr ?_ ?_
  · simp only [List.mem_map, KeySet.mem_ofValues]
    constructor
    · rintro ⟨_, ⟨v, hv, rfl⟩, rfl⟩
      exact ⟨v, hv, rfl⟩
    · rintro ⟨v, hv, rfl⟩
      exact ⟨v.key, ⟨v, hv, rfl⟩, rfl⟩
  · simp only [List.mem_map, List.mem_filter, List.any_eq_true]
    constructor
    · rintro ⟨e, ⟨he, haccepts⟩, rfl⟩
      exact ⟨e.2, he, haccepts⟩
    · rintro ⟨c, hc, haccepts⟩
      exact ⟨(token, c), ⟨hc, haccepts⟩, rfl⟩

theorem nodup_passed (hr : r.Ordered) (values : List Value) : (r.passed values).Nodup := by
  refine List.Nodup.append ?_ ?_ ?_
  · exact (SortedMap.nodup_keys _).map fun _ _ h => Token.value.inj h
  · exact hr.nodup_caveats.sublist (List.filter_sublist.map _)
  · intro token hvalue hcaveat
    obtain ⟨key, -, rfl⟩ := List.mem_map.mp hvalue
    obtain ⟨e, he, htoken⟩ := List.mem_map.mp hcaveat
    exact hr.caveats e (List.mem_filter.mp he).1 key htoken

theorem addressed_eq (r : PathRow) (values : List Value) :
    r.addressed values = (r.passed values).flatMap r.listsOf := by
  rw [addressed, passed, List.flatMap_append, List.flatMap_map, List.flatMap_map]
  congr 1
  generalize r.caveats = caveats
  induction caveats with
  | nil => rfl
  | cons e rest ih =>
    rw [List.flatMap_cons, ih, List.filter_cons]
    split <;> rfl

theorem addressed_perm (hr : r.WellFormed) (values : List Value) :
    (r.addressed values).Perm
      (r.lists.entries.flatMap fun e => if e.1 ∈ r.passed values then e.2 else []) := by
  rw [addressed_eq]
  exact SortedMap.flatMap_find?_perm r.lists (nodup_passed hr.ordered values)

end PathRow

namespace Row

variable {r : Row} {doc : Document}

-- Whether a document addresses the list at a place.
def meets (r : Row) (doc : Document) : Place → Bool
  | .sentinel => true
  | .literal path token _ =>
    match doc.get? path, r.paths.find? path with
    | some values, some p => decide (token ∈ p.passed values)
    | _, _ => false

theorem addressed_eq (r : Row) (doc : Document) :
    r.addressed doc
      = (r.paths.entries.flatMap fun e => ((doc.get? e.1).map e.2.addressed).getD [])
        ++ [r.sentinel] := by
  have hjoin := SortedMap.flatMap_join (doc.fields.filter fun _ values => !values.isEmpty) r.paths
    fun _ values p => PathRow.addressed p values
  simp only [← Document.get?_eq, ← Document.toList_eq] at hjoin
  rw [addressed, ← hjoin]
  congr 1
  refine List.flatMap_congr fun field _ => ?_
  cases r.paths.find? field.1 <;> rfl

-- The path row of a path, as far as the document addresses it.
theorem filter_filed_pathRow {slotCount : Nat} {path : String} {p : PathRow}
    (hp : r.paths.find? path = some p) :
    ((p.filed slotCount path).filter fun f => r.meets doc f.place).map Filed.posting
      = (((doc.get? path).map fun values =>
          p.lists.entries.flatMap fun e => if e.1 ∈ p.passed values then e.2 else []).getD []).flatMap
          PostingList.toList := by
  rw [PathRow.filed, List.filter_flatMap, List.map_flatMap]
  have hplace (e : Token × List PostingList) : ((listsFiled slotCount path e.1 0 e.2).filter
      fun f => r.meets doc f.place)
        = if r.meets doc (.literal path e.1 0) then listsFiled slotCount path e.1 0 e.2 else [] := by
    have hmeets : ∀ f ∈ listsFiled slotCount path e.1 0 e.2,
        r.meets doc f.place = r.meets doc (.literal path e.1 0) := by
      intro f hf
      obtain ⟨n, l, -, q, -, rfl⟩ := mem_listsFiled.mp hf
      rfl
    rw [List.filter_congr hmeets]
    cases r.meets doc (.literal path e.1 0) <;> simp
  cases hvalues : doc.get? path with
  | none =>
    rw [Option.map_none, Option.getD_none, List.flatMap_nil, List.flatMap_eq_nil_iff]
    intro e _
    rw [hplace, meets, hvalues]
    rfl
  | some values =>
    rw [Option.map_some, Option.getD_some, List.flatMap_assoc]
    refine List.flatMap_congr fun e _ => ?_
    rw [hplace, meets, hvalues, hp]
    by_cases hmem : e.1 ∈ p.passed values
    · simp [hmem, map_posting_listsFiled]
    · simp [hmem]

-- What the addressed lists hold is what is filed in the places that the document addresses.
theorem addressed_perm (hr : r.WellFormed) (slotCount : Nat) :
    ((r.addressed doc).flatMap PostingList.toList).Perm
      (((r.filed slotCount).filter fun f => r.meets doc f.place).map Filed.posting) := by
  rw [addressed_eq, List.flatMap_append, List.flatMap_singleton, filed, List.filter_append,
    List.map_append, List.filter_flatMap, List.map_flatMap, List.flatMap_assoc]
  refine List.Perm.append ?_ (List.Perm.of_eq ?_)
  · refine List.Perm.flatMap_left _ fun e he => ?_
    have hp := SortedMap.mem_entries_iff.mp he
    rw [filter_filed_pathRow hp]
    cases doc.get? e.1 with
    | none => exact List.Perm.refl _
    | some values =>
      exact (PathRow.addressed_perm (hr.paths e.2 (SortedMap.mem_values.mpr ⟨e.1, hp⟩))
        values).flatMap_right _
  · rw [List.filter_map, List.map_map]
    simp [Function.comp_def, meets]

-- What holds of every list of a row holds of those that are addressed.
theorem forall_addressed {P : PostingList → Prop}
    (hpaths : ∀ p ∈ r.paths.values, ∀ lists ∈ p.lists.values, ∀ l ∈ lists, P l)
    (hsentinel : P r.sentinel) : ∀ l ∈ r.addressed doc, P l := by
  intro l hl
  rw [addressed_eq] at hl
  rcases List.mem_append.mp hl with hl | hl
  · obtain ⟨e, he, hl⟩ := List.mem_flatMap.mp hl
    have hp := SortedMap.mem_values.mpr ⟨e.1, SortedMap.mem_entries_iff.mp he⟩
    cases hvalues : doc.get? e.1 with
    | none => simp [hvalues] at hl
    | some values =>
      rw [hvalues, Option.map_some, Option.getD_some, PathRow.addressed_eq] at hl
      obtain ⟨token, -, hl⟩ := List.mem_flatMap.mp hl
      exact hpaths e.2 hp _ (PathRow.listsOf_mem_values hl) l hl
  · rw [List.mem_singleton.mp hl]
    exact hsentinel

theorem ascending_addressed (hr : r.WellFormed) : ∀ l ∈ r.addressed doc, l.AscendingIds :=
  forall_addressed (fun p hp => (hr.paths p hp).ascending) hr.sentinel

theorem Ordered.ids_addressed (hr : r.Ordered) : ∀ l ∈ r.addressed doc, l.OrderedIds :=
  forall_addressed (fun p hp lists hlists l hl => ((hr.paths p hp).lists lists hlists l hl).ids)
    hr.sentinel.ids

theorem mem_passed_value {p : PathRow} (hp : p.Ordered) {values : List Value} {key : Key} :
    Token.value key ∈ p.passed values ↔ ∃ v ∈ values, v.key = key := by
  rw [PathRow.mem_passed]
  constructor
  · rintro (⟨v, hv, hkey⟩ | ⟨c, hc, -⟩)
    · exact ⟨v, hv, (Token.value.inj hkey).symm⟩
    · exact absurd rfl (hp.caveats _ hc key)
  · rintro ⟨v, hv, rfl⟩
    exact .inl ⟨v, hv, rfl⟩

theorem mem_passed_caveat {p : PathRow} (hp : p.WellFormed) {values : List Value} {token : Token}
    {c : Caveat} (hc : token.Names (some c)) (htoken : token ∈ p.lists.keys) :
    token ∈ p.passed values ↔ ∃ v ∈ values, c.accepts v = true := by
  rw [PathRow.mem_passed]
  constructor
  · rintro (⟨v, -, rfl⟩ | ⟨d, hd, haccepts⟩)
    · exact absurd ⟨v.key, rfl⟩ hc.not_value
    · rwa [hc.unique (hp.names _ hd)]
  · intro haccepts
    obtain ⟨e, he, rfl⟩ := List.mem_map.mp ((hp.mem_caveats token).mpr ⟨htoken, hc.not_value⟩)
    refine .inr ⟨e.2, he, ?_⟩
    rwa [← hc.unique (hp.names e he)]

-- Whether a document addresses the list of a filing depends on the filing alone.
theorem meets_eq (hr : r.WellFormed) {f : Filing} (hplaced : f.WellPlaced) {slotCount : Nat}
    {q : Posting} (hfiled : ⟨slotCount, f.place, q⟩ ∈ r.filed slotCount) :
    r.meets doc f.place = f.met doc := by
  unfold Filing.WellPlaced at hplaced
  unfold meets Filing.met
  cases hplace : f.place with
  | sentinel => rfl
  | literal path token occurrence =>
    rw [hplace] at hplaced hfiled
    dsimp only at hplaced ⊢
    rcases List.mem_append.mp hfiled with h | h
    · obtain ⟨e, he, h⟩ := List.mem_flatMap.mp h
      obtain ⟨token', lists, hlists, h⟩ := PathRow.mem_filed.mp h
      obtain ⟨n, l, -, q', -, heq⟩ := mem_listsFiled.mp h
      simp only [Filed.mk.injEq, Place.literal.injEq, true_and] at heq
      obtain ⟨⟨rfl, rfl, -⟩, -⟩ := heq
      have hp := SortedMap.mem_entries_iff.mp he
      have hwf := hr.paths e.2 (SortedMap.mem_values.mpr ⟨e.1, hp⟩)
      rw [hp]
      cases doc.get? e.1 with
      | none => rfl
      | some values =>
        rw [Bool.eq_iff_iff, Option.getD_some, decide_eq_true_eq, List.any_eq_true]
        cases hcaveat : f.caveat with
        | none =>
          rw [hcaveat] at hplaced
          obtain ⟨key, rfl⟩ := hplaced
          rw [mem_passed_value hwf.ordered]
          simp [eq_comm]
        | some c =>
          rw [hcaveat] at hplaced
          exact mem_passed_caveat hwf hplaced (SortedMap.mem_keys.mpr ⟨lists, hlists⟩)
    · obtain ⟨q', -, heq⟩ := List.mem_map.mp h
      simp at heq

end Row

end Index

end Targeting
