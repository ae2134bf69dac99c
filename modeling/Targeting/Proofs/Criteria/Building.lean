import Mathlib
import Targeting.DefinitionText.Message
import Targeting.Proofs.Criteria.Validity
import Targeting.Proofs.Range
import Targeting.Proofs.SortedMap

-- What is built is what is well-formed, and of what is not the first fault is reported. At each
-- level, from a range up to a definition, well-formedness and the first fault are stated apart from
-- the checks and shown to be what these find.
namespace Targeting

namespace Range

variable {r : Range} {fault : RangeFault}

-- The bounds that there are are numbers, of which an infinity is one, and they are in order.
structure WellFormed (r : Range) : Prop where
  number : ∀ x, r.IsBound x → x.isNaN = false
  ordered : ∀ lo hi, r.lo = some lo → r.hi = some hi →
    lo < hi ∨ lo.same hi = true ∧ r.loInclusive = true ∧ r.hiInclusive = true

inductive HasFault (r : Range) : RangeFault → Prop
  | notANumber {x : Binary64} (hx : r.IsBound x) (hnan : x.isNaN = true) : HasFault r .notANumber
  | reversed {lo hi : Binary64} (hlo : r.lo = some lo) (hhi : r.hi = some hi) (hlt : hi < lo) :
    HasFault r (.reversed lo hi)
  | empty {lo hi : Binary64} (hlo : r.lo = some lo) (hhi : r.hi = some hi)
    (hsame : lo.same hi = true) (hopen : (r.loInclusive && r.hiInclusive) = false) :
    HasFault r (.empty lo)

theorem any_isNaN_iff :
    (r.lo.any Binary64.isNaN || r.hi.any Binary64.isNaN) = true ↔
      ∃ x, r.IsBound x ∧ x.isNaN = true := by
  simp only [Bool.or_eq_true, Option.any_eq_true, IsBound, or_and_right, exists_or]

theorem any_isNaN_eq_false {lo hi : Binary64} (hlo : r.lo = some lo) (hhi : r.hi = some hi)
    (hlonan : lo.isNaN = false) (hhinan : hi.isNaN = false) :
    (r.lo.any Binary64.isNaN || r.hi.any Binary64.isNaN) = false := by
  rw [hlo, hhi, Option.any_some, Option.any_some, hlonan, hhinan, Bool.or_self]

theorem hasFault_iff : r.HasFault fault ↔ r.fault? = some fault := by
  rw [fault?]
  constructor
  · intro h
    cases h with
    | notANumber hx hnan => rw [if_pos (any_isNaN_iff.mpr ⟨_, hx, hnan⟩)]
    | reversed hlo hhi hlt =>
      rw [any_isNaN_eq_false hlo hhi hlt.2.1 hlt.1, if_neg Bool.false_ne_true, hlo, hhi]
      exact if_pos hlt
    | empty hlo hhi hsame hopen =>
      obtain ⟨hlonan, hhinan, hrank⟩ := Binary64.same_iff.mp hsame
      rw [any_isNaN_eq_false hlo hhi hlonan hhinan, if_neg Bool.false_ne_true, hlo, hhi]
      dsimp only
      rw [if_neg fun hlt => hlt.2.2.ne' hrank, hsame, hopen]
      rfl
  · intro h
    split at h
    next hnan =>
      cases h
      obtain ⟨x, hx, hnan⟩ := any_isNaN_iff.mp hnan
      exact .notANumber hx hnan
    next =>
      split at h
      next lo hi hlo hhi =>
        split at h
        next hlt => cases h; exact .reversed hlo hhi hlt
        next =>
          split at h
          next hempty =>
            cases h
            simp only [Bool.and_eq_true, Bool.not_eq_true'] at hempty
            exact .empty hlo hhi hempty.1 hempty.2
          next => cases h
      next => cases h

-- Two numbers are in one of three orders, so bounds that are neither reversed nor alike and open are
-- ordered.
theorem wellFormed_iff : r.WellFormed ↔ r.fault? = none := by
  rw [Option.eq_none_iff_forall_ne_some]
  simp only [Ne, ← hasFault_iff]
  constructor
  · intro h fault hfault
    cases hfault with
    | notANumber hx hnan => exact Bool.false_ne_true ((h.number _ hx).symm.trans hnan)
    | reversed hlo hhi hgt =>
      rcases h.ordered _ _ hlo hhi with hlt | ⟨hsame, -⟩
      · exact lt_asymm hlt.2.2 hgt.2.2
      · exact hgt.2.2.ne' (Binary64.same_iff.mp hsame).2.2
    | empty hlo hhi hsame hopen =>
      rcases h.ordered _ _ hlo hhi with hlt | ⟨-, hloInclusive, hhiInclusive⟩
      · exact hlt.2.2.ne (Binary64.same_iff.mp hsame).2.2
      · rw [hloInclusive, hhiInclusive] at hopen
        cases hopen
  · intro h
    have hnumber (x : Binary64) (hx : r.IsBound x) : x.isNaN = false :=
      Bool.eq_false_iff.mpr fun hnan => h _ (.notANumber hx hnan)
    refine ⟨hnumber, fun lo hi hlo hhi => ?_⟩
    have hlonan := hnumber lo (.inl hlo)
    have hhinan := hnumber hi (.inr hhi)
    rcases lt_trichotomy lo.rank hi.rank with hrank | hrank | hrank
    · exact .inl ⟨hlonan, hhinan, hrank⟩
    · have hsame := Binary64.same_iff.mpr ⟨hlonan, hhinan, hrank⟩
      refine .inr ⟨hsame, Bool.and_eq_true_iff.mp ?_⟩
      exact Bool.of_not_eq_false fun hopen => h _ (.empty hlo hhi hsame hopen)
    · exact absurd (.reversed hlo hhi ⟨hhinan, hlonan, hrank⟩) (h _)

end Range

namespace Caveat

variable {c : Caveat} {fault : CaveatFault}

def WellFormed : Caveat → Prop
  | oneOf keys => keys.toList ≠ []
  | pattern p => p.isValid = true
  | range r => r.WellFormed
  | version b => ∃ base, Version.ofText? b.base = some base

inductive HasFault : Caveat → CaveatFault → Prop
  | emptyValueSet {keys : KeySet} (hkeys : keys.toList = []) :
    HasFault (.oneOf keys) .emptyValueSet
  | invalidPattern {p : Pattern} (hpattern : p.isValid = false) :
    HasFault (.pattern p) (.invalidPattern p.source)
  | invalidRange {r : Range} {fault : RangeFault} (hrange : r.HasFault fault) :
    HasFault (.range r) (.invalidRange fault)
  | invalidVersion {b : VersionBound} (hbase : Version.ofText? b.base = none) :
    HasFault (.version b) (.invalidVersion b.base)

theorem isEmpty_keys_iff {keys : KeySet} : SortedMap.isEmpty keys = true ↔ keys.toList = [] := by
  rw [SortedMap.isEmpty_iff, KeySet.toList, SortedMap.keys, List.map_eq_nil_iff]

theorem hasFault_iff : c.HasFault fault ↔ c.fault? = some fault := by
  constructor
  · intro h
    cases h with
    | emptyValueSet hkeys => exact if_pos (isEmpty_keys_iff.mpr hkeys)
    | invalidPattern hpattern => exact if_neg (Bool.eq_false_iff.mp hpattern)
    | invalidRange hrange => rw [fault?, Range.hasFault_iff.mp hrange, Option.map_some]
    | invalidVersion hbase => exact if_pos (Option.isNone_iff_eq_none.mpr hbase)
  · intro h
    cases c with
    | oneOf keys =>
      obtain ⟨hkeys, h⟩ := Option.ite_none_right_eq_some.mp h
      cases h
      exact .emptyValueSet (isEmpty_keys_iff.mp hkeys)
    | pattern p =>
      obtain ⟨hpattern, h⟩ := Option.ite_none_left_eq_some.mp h
      cases h
      exact .invalidPattern (Bool.eq_false_iff.mpr hpattern)
    | range r =>
      obtain ⟨fault, hrange, rfl⟩ := Option.map_eq_some_iff.mp h
      exact .invalidRange (Range.hasFault_iff.mpr hrange)
    | version b =>
      obtain ⟨hbase, h⟩ := Option.ite_none_right_eq_some.mp h
      cases h
      exact .invalidVersion (Option.isNone_iff_eq_none.mp hbase)

theorem wellFormed_iff : c.WellFormed ↔ c.fault? = none := by
  cases c with
  | oneOf keys =>
    rw [fault?, WellFormed, Ne, ← isEmpty_keys_iff]
    simp
  | pattern p =>
    rw [fault?, WellFormed]
    simp
  | range r => rw [fault?, WellFormed, Range.wellFormed_iff, Option.map_eq_none_iff]
  | version b =>
    rw [fault?, WellFormed, VersionBound.version?, ← Option.isSome_iff_exists]
    cases Version.ofText? b.base <;> simp

end Caveat

namespace Predicate

variable {p : Predicate} {fault : PredicateFault}

structure WellFormed (p : Predicate) : Prop where
  path : p.path ≠ ""
  weight : p.weight.isFinite = true
  caveat : p.caveat.WellFormed

inductive HasFault (p : Predicate) : PredicateFault → Prop
  | emptyPath (hpath : p.path = "") : HasFault p .emptyPath
  | invalidWeight (hpath : p.path ≠ "") (hweight : p.weight.isFinite = false) :
    HasFault p (.invalidWeight p.path)
  | caveat {fault : CaveatFault} (hpath : p.path ≠ "") (hweight : p.weight.isFinite = true)
    (hcaveat : p.caveat.HasFault fault) : HasFault p (.caveat p.path fault)

theorem wellFormed_iff : p.WellFormed ↔ p.fault? = none := by
  rw [fault?_eq_none_iff, ← Caveat.wellFormed_iff, String.isEmpty_eq_false_iff]
  exact ⟨fun h => ⟨h.path, h.weight, h.caveat⟩, fun h => ⟨h.1, h.2.1, h.2.2⟩⟩

theorem hasFault_iff : p.HasFault fault ↔ p.fault? = some fault := by
  rw [fault?]
  constructor
  · intro h
    cases h with
    | emptyPath hpath => exact if_pos (String.isEmpty_iff.mpr hpath)
    | invalidWeight hpath hweight =>
      rw [if_neg (mt String.isEmpty_iff.mp hpath), hweight]
      rfl
    | caveat hpath hweight hcaveat =>
      rw [if_neg (mt String.isEmpty_iff.mp hpath), hweight, Caveat.hasFault_iff.mp hcaveat]
      rfl
  · intro h
    split at h
    next hpath =>
      cases h
      exact .emptyPath (String.isEmpty_iff.mp hpath)
    next hpath =>
      have hpath := mt String.isEmpty_iff.mpr hpath
      split at h
      next hweight =>
        cases h
        exact .invalidWeight hpath (Bool.not_eq_true' _ ▸ hweight)
      next hweight =>
        obtain ⟨fault, hcaveat, rfl⟩ := Option.map_eq_some_iff.mp h
        exact .caveat hpath (by simpa using hweight) (Caveat.hasFault_iff.mpr hcaveat)

end Predicate

namespace Clause

variable {id : String} {position : Nat} {c : Clause} {fault : DefinitionFault}

structure WellFormed (c : Clause) : Prop where
  nonempty : c ≠ []
  predicates : ∀ p ∈ c, p.WellFormed

inductive HasFault (id : String) (position : Nat) : Clause → DefinitionFault → Prop
  | emptyClause : HasFault id position [] (.emptyClause id position)
  | predicate {before after : List Predicate} {p : Predicate} {fault : PredicateFault}
    (hbefore : ∀ q ∈ before, q.WellFormed) (hp : p.HasFault fault) :
    HasFault id position (before ++ p :: after) (.predicate fault)

theorem wellFormed_iff_predicates :
    WellFormed c ↔ c ≠ [] ∧ ∀ p ∈ c, p.fault? = none := by
  simp only [← Predicate.wellFormed_iff]
  exact ⟨fun h => ⟨h.nonempty, h.predicates⟩, fun h => ⟨h.1, h.2⟩⟩

-- Where a clause stands does not matter to whether it has a fault.
theorem wellFormed_iff : WellFormed c ↔ Clause.fault? id position c = none := by
  rw [wellFormed_iff_predicates, fault?_eq_none_iff]

theorem hasFault_iff : HasFault id position c fault ↔ Clause.fault? id position c = some fault := by
  constructor
  · intro h
    cases h with
    | emptyClause => rfl
    | @predicate before after p fault hbefore hp =>
      have hfirst : (before ++ p :: after).findSome? Predicate.fault? = some fault :=
        List.findSome?_eq_some_iff.mpr ⟨before, p, after, rfl, Predicate.hasFault_iff.mp hp,
          fun q hq => Predicate.wellFormed_iff.mp (hbefore q hq)⟩
      rw [fault?, hfirst]
      simp
  · intro h
    rw [fault?] at h
    split at h
    next hempty =>
      cases h
      rw [List.isEmpty_iff.mp hempty]
      exact .emptyClause
    next =>
      obtain ⟨fault, hfirst, rfl⟩ := Option.map_eq_some_iff.mp h
      obtain ⟨before, p, after, rfl, hp, hbefore⟩ := List.findSome?_eq_some_iff.mp hfirst
      exact .predicate (fun q hq => Predicate.wellFormed_iff.mpr (hbefore q hq))
        (Predicate.hasFault_iff.mpr hp)

end Clause

namespace Definition

variable {d : Definition} {fault : DefinitionFault}

structure WellFormed (d : Definition) : Prop where
  id : d.id ≠ ""
  nonempty : d.clauses ≠ []
  clauses : ∀ c ∈ d.clauses, Clause.WellFormed c

inductive HasFault (d : Definition) : DefinitionFault → Prop
  | emptyId (hid : d.id = "") : HasFault d .emptyId
  | noClauses (hid : d.id ≠ "") (hclauses : d.clauses = []) : HasFault d (.noClauses d.id)
  | clause {before after : List Clause} {c : Clause} {fault : DefinitionFault} (hid : d.id ≠ "")
    (hclauses : d.clauses = before ++ c :: after) (hbefore : ∀ b ∈ before, Clause.WellFormed b)
    (hc : Clause.HasFault d.id before.length c fault) : HasFault d fault

theorem wellFormed_iff : d.WellFormed ↔ d.fault? = none := by
  simp only [fault?_eq_none_iff, String.isEmpty_eq_false_iff, ← Clause.wellFormed_iff_predicates]
  exact ⟨fun h => ⟨h.id, h.nonempty, h.clauses⟩, fun h => ⟨h.1, h.2.1, h.2.2⟩⟩

theorem findSome?_zipIdx_iff {clauses : List Clause} {id : String} :
    (clauses.zipIdx.findSome? fun e => Clause.fault? id e.2 e.1) = some fault ↔
      ∃ before c after, clauses = before ++ c :: after ∧
        (∀ b ∈ before, Clause.WellFormed b) ∧ Clause.HasFault id before.length c fault := by
  rw [List.findSome?_eq_some_iff]
  constructor
  · rintro ⟨l, e, m, hl, he, hbefore⟩
    obtain ⟨before, rest, rfl, rfl, hrest⟩ := List.zipIdx_eq_append_iff.mp hl
    obtain ⟨c, after, rfl, rfl, -⟩ := List.zipIdx_eq_cons_iff.mp hrest.symm
    rw [Nat.zero_add] at he
    refine ⟨before, c, after, rfl, fun b hb => ?_, Clause.hasFault_iff.mpr he⟩
    obtain ⟨i, hi, rfl⟩ := List.getElem_of_mem hb
    have hmem : (before[i], i) ∈ before.zipIdx :=
      List.mem_zipIdx_iff_getElem?.mpr (List.getElem?_eq_getElem hi)
    exact Clause.wellFormed_iff.mpr (hbefore _ hmem)
  · rintro ⟨before, c, after, rfl, hbefore, hc⟩
    refine ⟨before.zipIdx, (c, before.length), after.zipIdx (before.length + 1), ?_,
      Clause.hasFault_iff.mp hc, fun e he => ?_⟩
    · rw [List.zipIdx_append, List.zipIdx_cons, Nat.zero_add]
    · exact Clause.wellFormed_iff.mp (hbefore e.1 (List.fst_mem_of_mem_zipIdx he))

theorem hasFault_iff : d.HasFault fault ↔ d.fault? = some fault := by
  rw [fault?]
  constructor
  · intro h
    cases h with
    | emptyId hid => exact if_pos (String.isEmpty_iff.mpr hid)
    | noClauses hid hclauses =>
      rw [if_neg (mt String.isEmpty_iff.mp hid), hclauses]
      rfl
    | clause hid hclauses hbefore hc =>
      rw [if_neg (mt String.isEmpty_iff.mp hid), if_neg (by simp [hclauses])]
      exact findSome?_zipIdx_iff.mpr ⟨_, _, _, hclauses, hbefore, hc⟩
  · intro h
    split at h
    next hid =>
      cases h
      exact .emptyId (String.isEmpty_iff.mp hid)
    next hid =>
      have hid := mt String.isEmpty_iff.mpr hid
      split at h
      next hclauses =>
        cases h
        exact .noClauses hid (List.isEmpty_iff.mp hclauses)
      next =>
        obtain ⟨before, c, after, hclauses, hbefore, hc⟩ := findSome?_zipIdx_iff.mp h
        exact .clause hid hclauses hbefore hc

theorem build_of_valid (h : d.fault? = none) : d.build = .ok ⟨d, h⟩ := by
  unfold build
  split
  next => rfl
  next hfault => cases h.symm.trans hfault

theorem build_of_fault (h : d.fault? = some fault) : d.build = .error fault := by
  unfold build
  split
  next hvalid => cases h.symm.trans hvalid
  next hfault => cases h.symm.trans hfault; rfl

theorem build_criteria (c : Criteria) : c.toDefinition.build = .ok c := build_of_valid c.valid

theorem build_eq_ok_iff {c : Criteria} : d.build = .ok c ↔ c.toDefinition = d := by
  constructor
  · intro h
    cases hfault : d.fault? with
    | none => cases (build_of_valid hfault).symm.trans h; rfl
    | some first => cases (build_of_fault hfault).symm.trans h
  · rintro rfl
    exact build_criteria c

theorem build_eq_error_iff : d.build = .error fault ↔ d.HasFault fault := by
  rw [hasFault_iff]
  cases h : d.fault? with
  | none => simp [build_of_valid h]
  | some first => simp [build_of_fault h]

section All

variable {all : List Definition}

theorem buildAll_of_valid (h : ∀ d ∈ all, d.fault? = none) :
    ∃ built, buildAll all = .ok built ∧ built.map Criteria.toDefinition = all := by
  induction all with
  | nil => exact ⟨[], rfl, rfl⟩
  | cons d rest ih =>
    have hd := h d List.mem_cons_self
    obtain ⟨built, hbuilt, hmap⟩ := ih fun e he => h e (List.mem_cons_of_mem _ he)
    refine ⟨⟨d, hd⟩ :: built, ?_, ?_⟩
    · rw [buildAll, build_of_valid hd, hbuilt]
      rfl
    · rw [List.map_cons, hmap]

-- The first definition with a fault decides, whatever comes after it.
theorem buildAll_of_fault {before after : List Definition} (hbefore : ∀ e ∈ before, e.fault? = none)
    (h : d.fault? = some fault) : buildAll (before ++ d :: after) = .error fault := by
  induction before with
  | nil => rw [List.nil_append, buildAll, build_of_fault h]
  | cons e rest ih =>
    have he := hbefore e List.mem_cons_self
    rw [List.cons_append, buildAll, build_of_valid he,
      ih fun e he => hbefore e (List.mem_cons_of_mem _ he)]
    rfl

theorem buildAll_eq_error_iff : buildAll all = .error fault ↔ ∃ before d after,
    all = before ++ d :: after ∧ (∀ e ∈ before, e.WellFormed) ∧ d.HasFault fault := by
  simp only [wellFormed_iff, hasFault_iff]
  constructor
  · intro h
    cases hfirst : all.findSome? fault? with
    | none =>
      obtain ⟨built, hbuilt, -⟩ := buildAll_of_valid (List.findSome?_eq_none_iff.mp hfirst)
      cases h.symm.trans hbuilt
    | some first =>
      obtain ⟨before, d, after, rfl, hd, hbefore⟩ := List.findSome?_eq_some_iff.mp hfirst
      cases (buildAll_of_fault hbefore hd).symm.trans h
      exact ⟨before, d, after, rfl, hbefore, hd⟩
  · rintro ⟨before, d, after, rfl, hbefore, hd⟩
    exact buildAll_of_fault hbefore hd

-- What is built is the definitions themselves.
theorem buildAll_eq_ok_iff {built : List Criteria} :
    buildAll all = .ok built ↔ built.map Criteria.toDefinition = all := by
  constructor
  · intro h
    cases hfirst : all.findSome? fault? with
    | none =>
      obtain ⟨_, hbuilt, hmap⟩ := buildAll_of_valid (List.findSome?_eq_none_iff.mp hfirst)
      cases hbuilt.symm.trans h
      exact hmap
    | some first =>
      obtain ⟨before, d, after, rfl, hd, hbefore⟩ := List.findSome?_eq_some_iff.mp hfirst
      cases (buildAll_of_fault hbefore hd).symm.trans h
  · rintro rfl
    induction built with
    | nil => rfl
    | cons c rest ih => rw [List.map_cons, buildAll, build_criteria, ih]; rfl

end All

end Definition

namespace Criteria

variable {text : String} {all : List Definition}

theorem readAll_eq (h : Definition.readAll text = .ok all) :
    readAll text = (Definition.buildAll all).mapError .definition := by
  rw [readAll, h]
  dsimp only
  cases Definition.buildAll all <;> rfl

theorem readAll_eq_ok_iff {built : List Criteria} :
    readAll text = .ok built ↔ Definition.readAll text = .ok (built.map toDefinition) := by
  cases h : Definition.readAll text with
  | error fault => simp [readAll, h]
  | ok all =>
    rw [readAll_eq h, Except.ok.injEq, eq_comm (a := all), ← Definition.buildAll_eq_ok_iff]
    cases Definition.buildAll all <;> simp [Except.mapError]

theorem readAll_eq_error_iff {fault : DefinitionFault} :
    readAll text = .error (.definition fault) ↔
      ∃ all, Definition.readAll text = .ok all ∧ Definition.buildAll all = .error fault := by
  cases h : Definition.readAll text with
  | error fault => simp [readAll, h]
  | ok all =>
    rw [readAll_eq h]
    cases hall : Definition.buildAll all <;> simp [Except.mapError, hall]

end Criteria

namespace Definition

-- What building gives: the definition itself exactly when it is well-formed, and otherwise its first
-- fault.
structure BuildsExactly (d : Definition) : Prop where
  succeeds : (∃ c, d.build = .ok c) ↔ d.WellFormed
  builds : ∀ c, d.build = .ok c ↔ c.toDefinition = d
  fails : ∀ fault, d.build = .error fault ↔ d.HasFault fault

-- The same of the definitions that a text is read as, where the first fault is that of the first one
-- that is not well-formed.
structure ReadsExactly (text : String) : Prop where
  succeeds : (∃ built, Criteria.readAll text = .ok built) ↔
    ∃ all, readAll text = .ok all ∧ ∀ d ∈ all, d.WellFormed
  builds : ∀ built, Criteria.readAll text = .ok built ↔
    readAll text = .ok (built.map Criteria.toDefinition)
  fails : ∀ fault, Criteria.readAll text = .error (.definition fault) ↔ ∃ before d after,
    readAll text = .ok (before ++ d :: after) ∧ (∀ e ∈ before, e.WellFormed) ∧ d.HasFault fault

theorem buildsExactly (d : Definition) : d.BuildsExactly where
  succeeds := by
    constructor
    · rintro ⟨c, hc⟩
      rw [← build_eq_ok_iff.mp hc]
      exact wellFormed_iff.mpr c.valid
    · intro h
      exact ⟨_, build_of_valid (wellFormed_iff.mp h)⟩
  builds _ := build_eq_ok_iff
  fails _ := build_eq_error_iff

theorem readsExactly (text : String) : ReadsExactly text where
  succeeds := by
    constructor
    · rintro ⟨built, hbuilt⟩
      refine ⟨_, Criteria.readAll_eq_ok_iff.mp hbuilt, fun d hd => ?_⟩
      obtain ⟨c, -, rfl⟩ := List.mem_map.mp hd
      exact wellFormed_iff.mpr c.valid
    · rintro ⟨all, hread, hall⟩
      obtain ⟨built, hbuilt, rfl⟩ := buildAll_of_valid fun d hd => wellFormed_iff.mp (hall d hd)
      exact ⟨built, Criteria.readAll_eq_ok_iff.mpr hread⟩
  builds _ := Criteria.readAll_eq_ok_iff
  fails fault := by
    simp only [Criteria.readAll_eq_error_iff, buildAll_eq_error_iff]
    constructor
    · rintro ⟨all, hread, before, d, after, rfl, hbefore, hd⟩
      exact ⟨before, d, after, hread, hbefore, hd⟩
    · rintro ⟨before, d, after, hread, hbefore, hd⟩
      exact ⟨_, hread, before, d, after, rfl, hbefore, hd⟩

-- Criteria are built of the well-formed definitions, whether these were put together or read.
theorem build_iff_wellFormed (d : Definition) (text : String) :
    d.BuildsExactly ∧ ReadsExactly text := ⟨buildsExactly d, readsExactly text⟩

-- Whether each bound of each range is a finite number.
def FiniteBounds (d : Definition) : Prop :=
  ∀ c ∈ d.clauses, ∀ p ∈ c, ∀ r, p.caveat = .range r → ∀ x, r.IsBound x → x.isFinite = true

-- A range from infinity on is built.
theorem not_build_iff_finiteBounds :
    ¬ ∀ d : Definition, (∃ c, d.build = .ok c) ↔ d.WellFormed ∧ d.FiniteBounds := by
  intro h
  let p := Predicate.make .included "x" (.range (.atLeast .infinity))
  have hvalid : (Definition.mk "a" .dnf [[p]]).fault? = none := by decide
  have hbounds := ((h _).mp ⟨_, build_of_valid hvalid⟩).2
  have hfinite := hbounds [p] List.mem_cons_self p List.mem_cons_self _ rfl .infinity (.inl rfl)
  exact absurd hfinite (by decide)

end Definition

end Targeting
