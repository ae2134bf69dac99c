import Mathlib
import Targeting.Proofs.Index.Filing
import Targeting.Proofs.Index.Meeting

namespace Targeting.Index

-- The number that a filing has among those of one literal, if it is filed under it.
def Filing.occurrence? (path : String) (token : Token) (f : Filing) : Option Nat :=
  match f.place with
  | .literal p t n => if p = path ∧ t = token then some n else none
  | .sentinel => none

section Occurrences

variable {path : String} {token : Token}

def Literal.isUnder (path : String) (token : Token) (l : Literal) : Bool :=
  l.path == path && l.token == token

theorem Literal.occurrence?_filing (l : Literal) (n : Nat) :
    (l.filing n).occurrence? path token = if l.isUnder path token then some n else none := by
  simp [filing, Filing.occurrence?, isUnder]

-- The occurrences of a literal follow on those that came up before.
theorem Literal.occurrences_filings (path : String) (token : Token) (earlier literals : List Literal) :
    (filings earlier literals).filterMap (Filing.occurrence? path token)
      = List.range' (earlier.countP (isUnder path token)) (literals.countP (isUnder path token)) := by
  induction literals generalizing earlier with
  | nil => rfl
  | cons l rest ih =>
    rw [filings, List.filterMap_cons, occurrence?_filing, ih, List.countP_cons, List.countP_cons]
    cases hl : l.isUnder path token with
    | false => simp
    | true =>
      obtain ⟨hpath, htoken⟩ : l.path = path ∧ l.token = token := by simpa [isUnder] using hl
      have hrepeats : earlier.countP l.repeats = earlier.countP (isUnder path token) := by
        refine List.countP_congr fun e _ => ?_
        simp only [repeats, isUnder, hpath, htoken, Bool.and_eq_true, beq_iff_eq]
        exact and_congr eq_comm eq_comm
      simp [hrepeats, List.range'_succ]

theorem nodup_tokens (c : Caveat) : (tokens c).Nodup := by
  cases c with
  | oneOf keys => exact keys.nodup_keys.map fun _ _ h => Token.value.inj h
  | pattern p => simp [tokens, Caveat.token?]
  | range r => simp [tokens, Caveat.token?]
  | version b => simp [tokens, Caveat.token?]

-- Whether a predicate tests a path for a token.
def Term.isUnder (path : String) (token : Token) (t : Term) : Bool :=
  t.predicate.path == path && (tokens t.predicate.caveat).contains token

-- A predicate has each of its literals once.
theorem Term.countP_literals (internalId : Nat) (externalId : String) (t : Term) :
    (t.literals internalId externalId).countP (Literal.isUnder path token)
      = if t.isUnder path token then 1 else 0 := by
  rw [literals, Index.literals, List.countP_map]
  by_cases hpath : t.predicate.path = path
  · have hcount := (nodup_tokens t.predicate.caveat).count (a := token)
    simpa [isUnder, hpath, Literal.isUnder, Function.comp_def, List.count, beq_eq_decide] using hcount
  · simp [isUnder, hpath, Literal.isUnder, Function.comp_def]

theorem Term.countP_flatMap_literals (internalId : Nat) (externalId : String) (terms : List Term) :
    (terms.flatMap (literals internalId externalId)).countP (Literal.isUnder path token)
      = terms.countP (isUnder path token) := by
  induction terms with
  | nil => rfl
  | cons t rest ih => rw [List.flatMap_cons, List.countP_append, countP_literals, ih,
      List.countP_cons, Nat.add_comm]

end Occurrences

section Parts

variable {internalId : Nat} {externalId : String}

-- The filings of a predicate: one under each of its tokens, of which there is one at least, and each
-- with the posting that speaks for the predicate.
structure Term.FiledAs (internalId : Nat) (externalId : String) (t : Term) (fs : List Filing) :
    Prop where
  nonempty : fs ≠ []
  tokens : List.Forall₂ (fun token f => ∃ n, f = ⟨.literal t.predicate.path token n,
    tested t.predicate.caveat, t.posting internalId externalId⟩) (tokens t.predicate.caveat) fs

theorem Literal.filings_append (earlier first second : List Literal) :
    filings earlier (first ++ second)
      = filings earlier first ++ filings (first.reverse ++ earlier) second := by
  induction first generalizing earlier with
  | nil => rfl
  | cons l rest ih => simp [filings, ih]

theorem Literal.forall₂_filings (earlier literals : List Literal) :
    List.Forall₂ (fun l f => ∃ n, f = l.filing n) literals (filings earlier literals) := by
  induction literals generalizing earlier with
  | nil => exact .nil
  | cons l rest ih => exact .cons ⟨_, rfl⟩ (ih (l :: earlier))

theorem Term.filedAs_filings {t : Term} (ht : t.predicate.fault? = none) (earlier : List Literal) :
    t.FiledAs internalId externalId
      (Literal.filings earlier (t.literals internalId externalId)) where
  nonempty := by
    intro hnil
    have hlength := congrArg List.length hnil
    rw [Literal.length_filings] at hlength
    exact literals_ne_nil ht (List.length_eq_zero_iff.mp hlength)
  tokens := by
    have hfilings := Literal.forall₂_filings earlier (t.literals internalId externalId)
    rw [literals, Index.literals, List.forall₂_map_left_iff] at hfilings
    exact hfilings

variable (internalId externalId) in
-- What is filed for some predicates comes predicate by predicate.
theorem Term.exists_parts {terms : List Term} (hvalid : ∀ t ∈ terms, t.predicate.fault? = none)
    (earlier : List Literal) :
    ∃ parts, List.Forall₂ (FiledAs internalId externalId) terms parts ∧
      Literal.filings earlier (terms.flatMap (literals internalId externalId)) = parts.flatten := by
  induction terms generalizing earlier with
  | nil => exact ⟨[], .nil, rfl⟩
  | cons t rest ih =>
    obtain ⟨parts, hparts, hrest⟩ := ih (fun u hu => hvalid u (List.mem_cons_of_mem _ hu))
      ((t.literals internalId externalId).reverse ++ earlier)
    refine ⟨_, .cons (filedAs_filings (hvalid t List.mem_cons_self) earlier) hparts, ?_⟩
    rw [List.flatMap_cons, Literal.filings_append, hrest, List.flatten_cons]

end Parts

-- What is staged as one instance: a conjunction, or a formula of disjunctions.
inductive Body where
  | conjunction (clause : Clause)
  | formula (clauses : List Clause)

namespace Body

def predicates : Body → List Predicate
  | conjunction clause => clause
  | formula clauses => clauses.flatten

-- Each predicate with its slot and its position.
def terms : Body → List Term
  | conjunction clause => Term.ofConjunction clause
  | formula clauses => Term.ofFormula clauses

-- A conjunction has a slot to be filled for each predicate that is included, a formula for each
-- disjunction without exclusion.
def slotCount : Body → Nat
  | conjunction clause => clause.includedCount
  | formula clauses => clauses.countP fun c => c.excludedCount == 0

def seeds : Body → List Int
  | conjunction _ => []
  | formula clauses => clauses.map fun c => -(c.excludedCount : Int)

def stage (internalId : Nat) (externalId : String) : Body → Staged
  | conjunction clause => stageConjunction internalId externalId clause
  | formula clauses => stageFormula internalId externalId clauses

theorem stage_eq (internalId : Nat) (externalId : String) (b : Body) :
    b.stage internalId externalId = .make internalId ⟨externalId, b.slotCount, b.seeds⟩
      (b.terms.flatMap (Term.literals internalId externalId)) := by
  cases b with
  | conjunction clause => exact Term.stageConjunction_eq internalId externalId clause
  | formula clauses => exact Term.stageFormula_eq internalId externalId clauses

theorem predicate_mem {b : Body} {t : Term} (ht : t ∈ b.terms) : t.predicate ∈ b.predicates := by
  cases b with
  | conjunction clause => exact List.mem_of_getElem? (Term.mem_ofConjunction.mp ht).1
  | formula clauses =>
    obtain ⟨c, hc, hp⟩ := Term.predicate_mem_of_mem_ofFormula ht
    exact List.mem_flatten.mpr ⟨c, List.mem_of_getElem? hc, hp⟩

-- What is staged for a body: the lists that its postings go to are all different, those of one
-- literal are numbered from zero on, and it has the filings of its predicates and, when there is no
-- slot to be filled, the sentinel.
structure StagedApart (b : Body) (internalId : Nat) (externalId : String) (s : Staged) : Prop where
  metadata : s.internalId = internalId ∧ s.metadata = ⟨externalId, b.slotCount, b.seeds⟩
  places : (s.filings.map Filing.place).Nodup
  occurrences : ∀ path token, s.filings.filterMap (Filing.occurrence? path token)
    = List.range (b.terms.countP (Term.isUnder path token))
  predicates : ∃ parts, List.Forall₂ (Term.FiledAs internalId externalId) b.terms parts ∧
    s.filings = parts.flatten ++
      if b.slotCount = 0 then [⟨.sentinel, none, .sentinel internalId externalId⟩] else []
  sentinel : (∃ f ∈ s.filings, f.place = .sentinel) ↔ b.slotCount = 0

theorem stagedApart {b : Body} (hvalid : ∀ p ∈ b.predicates, p.fault? = none) (internalId : Nat)
    (externalId : String) :
    b.StagedApart internalId externalId (b.stage internalId externalId) := by
  have hfilings : (b.stage internalId externalId).filings
      = Literal.filings [] (b.terms.flatMap (Term.literals internalId externalId)) ++
        if b.slotCount = 0 then [⟨.sentinel, none, .sentinel internalId externalId⟩] else [] := by
    rw [stage_eq, Staged.make]
  constructor
  case metadata =>
    rw [stage_eq]
    exact ⟨rfl, rfl⟩
  case places =>
    rw [stage_eq]
    exact Staged.nodup_places_make _ _ _
  case occurrences =>
    intro path token
    have hsentinel : (if b.slotCount = 0 then
        [(⟨.sentinel, none, .sentinel internalId externalId⟩ : Filing)] else []).filterMap
        (Filing.occurrence? path token) = [] := by split <;> rfl
    rw [hfilings, List.filterMap_append, hsentinel, List.append_nil, Literal.occurrences_filings,
      Term.countP_flatMap_literals, List.countP_nil, List.range_eq_range']
  case predicates =>
    obtain ⟨parts, hparts, hflatten⟩ := Term.exists_parts internalId externalId
      (fun t ht => hvalid _ (predicate_mem ht)) []
    exact ⟨parts, hparts, by rw [hfilings, hflatten]⟩
  case sentinel =>
    rw [hfilings]
    constructor
    · rintro ⟨f, hf, hplace⟩
      rcases List.mem_append.mp hf with hf | hf
      · obtain ⟨l, -, n, rfl, -⟩ := Literal.mem_filings hf
        cases hplace
      · by_contra hslots
        simp [hslots] at hf
    · intro hslots
      exact ⟨_, List.mem_append_right _ (by rw [if_pos hslots]; exact List.mem_cons_self), rfl⟩

end Body

section Filing

theorem Body.internalId_of_mem_stage {b : Body} {internalId : Nat} {externalId : String} :
    ∀ f ∈ (b.stage internalId externalId).filings, f.posting.internalId = internalId := by
  rw [stage_eq]
  exact Staged.internalId_of_mem_make fun l hl => (Term.ids_of_mem_literals hl).1

theorem Body.internalId_stage (b : Body) (internalId : Nat) (externalId : String) :
    (b.stage internalId externalId).internalId = internalId := by
  rw [stage_eq, Staged.make]

-- What staging gives for some body.
def Staged.OfBody (s : Staged) : Prop :=
  ∃ (b : Body) (internalId : Nat) (externalId : String), b.stage internalId externalId = s

-- Filing instances under new ids adds their postings to a table, whatever is in it.
theorem Table.filed_foldl_file {t : Table} {all : List Staged} (hall : ∀ s ∈ all, s.OfBody)
    (hids : (all.map Staged.internalId).Nodup)
    (hnew : ∀ f ∈ t.filed, f.posting.internalId ∉ all.map Staged.internalId) :
    (all.foldl Table.file t).filed.Perm (t.filed ++ all.flatMap Staged.filed) := by
  induction all generalizing t with
  | nil => simp
  | cons s rest ih =>
    obtain ⟨b, internalId, externalId, rfl⟩ := hall s List.mem_cons_self
    rw [List.map_cons, List.nodup_cons, b.internalId_stage] at hids
    have hfile : (t.file (b.stage internalId externalId)).filed.Perm
        (t.filed ++ (b.stage internalId externalId).filed) := by
      refine filed_file ?_ (fun f hf => ?_) fun f hf hid => ?_
      · rw [b.stage_eq]
        exact Staged.nodup_places_make _ _ _
      · rw [b.internalId_stage, Body.internalId_of_mem_stage f hf]
      · exact hnew f hf (by rw [hid]; exact List.mem_cons_self)
    have hrest := ih (t := t.file (b.stage internalId externalId))
      (fun u hu => hall u (List.mem_cons_of_mem _ hu)) hids.2 fun f hf hid => by
        rcases List.mem_append.mp (hfile.mem_iff.mp hf) with hf | hf
        · exact hnew f hf (List.mem_cons_of_mem _ hid)
        · obtain ⟨g, hg, rfl⟩ := List.mem_map.mp hf
          rw [Body.internalId_of_mem_stage g hg] at hid
          exact hids.1 hid
    rw [List.foldl_cons, List.flatMap_cons, ← List.append_assoc]
    exact hrest.trans (hfile.append_right _)

-- The literals of an instance are told apart, so that instances with ids of their own can be filed
-- in any table without taking the place of anything.
theorem Body.stage_separates :
    (∀ b : Body, (∀ p ∈ b.predicates, p.fault? = none) → ∀ internalId externalId,
      b.StagedApart internalId externalId (b.stage internalId externalId)) ∧
    ∀ (t : Table) (all : List Staged), (∀ s ∈ all, s.OfBody) →
      (all.map Staged.internalId).Nodup →
      (∀ p ∈ t.postings, p.internalId ∉ all.map Staged.internalId) →
      (all.foldl Table.file t).filed.Perm (t.filed ++ all.flatMap Staged.filed) ∧
        (all.foldl Table.file t).postingCount
          = t.postingCount + (all.map fun s => s.filings.length).sum := by
  refine ⟨fun b hvalid => b.stagedApart hvalid, fun t all hall hids hnew => ?_⟩
  have hfiled := Table.filed_foldl_file hall hids fun f hf => hnew f.posting (by
    rw [← t.map_posting_filed]
    exact List.mem_map_of_mem hf)
  refine ⟨hfiled, ?_⟩
  rw [Table.postingCount_eq, Table.postingCount_eq, hfiled.length_eq, List.length_append,
    List.length_flatMap]
  simp only [Staged.filed, List.length_map]

def oneOfTexts (path : String) (texts : List String) : Predicate :=
  .make .included path (.oneOf (.ofValues (texts.map .text)))

-- The first literal is repeated, and the other way round too.
def repeating : Body :=
  .conjunction [oneOfTexts "a" ["x"], oneOfTexts "a" ["x", "y"], (oneOfTexts "a" ["y"]).negate]

def opposing : Body :=
  .formula [[oneOfTexts "a" ["x"], (oneOfTexts "a" ["x"]).negate], [(oneOfTexts "a" ["x", "y"]).negate]]

theorem stage_separates_repeating :
    repeating.StagedApart 1 "c" (repeating.stage 1 "c") ∧
      opposing.StagedApart 2 "d" (opposing.stage 2 "d") ∧
      (∀ p ∈ (Table.empty.file (repeating.stage 0 "b")).postings, p.internalId ∉ [1, 2]) ∧
      ([repeating.stage 1 "c", opposing.stage 2 "d"].foldl Table.file
        (Table.empty.file (repeating.stage 0 "b"))).postingCount = 4 + (4 + 5) := by
  have hnew : ∀ p ∈ (Table.empty.file (repeating.stage 0 "b")).postings, p.internalId ∉ [1, 2] := by
    decide +kernel
  refine ⟨Body.stage_separates.1 repeating (by decide +kernel) 1 "c",
    Body.stage_separates.1 opposing (by decide +kernel) 2 "d", hnew, ?_⟩
  have hcount := (Body.stage_separates.2 (Table.empty.file (repeating.stage 0 "b"))
    [repeating.stage 1 "c", opposing.stage 2 "d"] (by simp [Staged.OfBody]) (by decide +kernel) hnew).2
  rw [hcount]
  decide +kernel

end Filing

end Targeting.Index
