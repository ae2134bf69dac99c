import Mathlib
import Targeting.Json.Flattening
import Targeting.Proofs.Document
import Targeting.Proofs.Json.Place

namespace Targeting

namespace Json

-- The integer that a number is written as, if it has neither a point nor an exponent.
def Number.toInt? : Number → Option Int
  | natural n => some n.toNat
  | negative n => some n.toInt
  | float _ => none

-- A scalar is recorded as it is, and a number as an integer where there is one of 64 bits with a
-- sign.
inductive RecordedAs : Json → Value → Prop where
  | bool (b : Bool) : RecordedAs (bool b) (.bool b)
  | int {n : Number} {i : Int64} : n.toInt? = some i.toInt → RecordedAs (number n) (.int i)
  | float {n : Number} : (∀ i : Int64, n.toInt? ≠ some i.toInt) →
    RecordedAs (number n) (.float n.asFloat)
  | text (s : String) : RecordedAs (text s) (.text s)

-- The path of a place, one name after the other.
def pathOf (place : Place) : String := place.keys.foldl childPath ""

-- How a document comes of a value: which scalars are visited, and in what order.
structure Flattens (json : Json) (doc : Document) (visited : List (Place × Value)) : Prop where
  scalars : ∀ place v, (place, v) ∈ visited ↔ ∃ leaf, json.at? place = some leaf ∧ leaf.RecordedAs v
  ordered : (visited.map Prod.fst).Pairwise Place.Before
  recorded : ∀ path, doc.valuesAt path = (visited.filter (pathOf ·.1 = path)).map Prod.snd
  filled : doc.Filled

section Numbers

variable {n : Number} {v : Value}

theorem Number.asInt?_eq_some_iff {i : Int64} : n.asInt? = some i ↔ n.toInt? = some i.toInt := by
  cases n with
  | natural m =>
    have hmax : Int64.maxValue.toInt = 2 ^ 63 - 1 := rfl
    rw [asInt?, toInt?, Option.some.injEq]
    constructor
    · intro h
      split at h
      next hle =>
        cases h
        exact (Int64.toInt_ofNat_of_lt (by omega)).symm
      next => cases h
    · intro h
      have hle := i.toInt_le
      have hlt := Int64.toInt_ofNat_of_lt (n := m.toNat) (by omega)
      rw [if_pos (h ▸ hle), Option.some.injEq, ← Int64.toInt_inj, hlt, h]
  | negative m => rw [asInt?, toInt?, Option.some.injEq, Option.some.injEq, Int64.toInt_inj]
  | float x => simp [asInt?, toInt?]

theorem recordedAs_number_iff : (number n).RecordedAs v ↔ v = n.value := by
  rw [Number.value]
  constructor
  · intro h
    cases h with
    | int h => rw [Number.asInt?_eq_some_iff.mpr h]
    | float h =>
      have hnone : n.asInt? = none :=
        Option.eq_none_iff_forall_ne_some.mpr fun i hi => h i (Number.asInt?_eq_some_iff.mp hi)
      rw [hnone]
  · rintro rfl
    cases h : n.asInt? with
    | some i => exact .int (Number.asInt?_eq_some_iff.mp h)
    | none =>
      refine .float fun i hi => ?_
      rw [Number.asInt?_eq_some_iff.mpr hi] at h
      cases h

end Numbers

def stepTo (s : Step) (e : Place × Value) : Place × Value := (s :: e.1, e.2)

mutual

-- The scalars in a value with their places.
def scalars : Json → List (Place × Value)
  | null => []
  | bool b => [([], .bool b)]
  | number n => [([], n.value)]
  | text s => [([], .text s)]
  | array items => itemScalars 0 items
  | object members => memberScalars members

def itemScalars (i : Nat) : List Json → List (Place × Value)
  | [] => []
  | v :: rest => v.scalars.map (stepTo (.item i)) ++ itemScalars (i + 1) rest

def memberScalars : List (String × Json) → List (Place × Value)
  | [] => []
  | (name, v) :: rest => v.scalars.map (stepTo (.member name)) ++ memberScalars rest

end

theorem itemScalars_eq (i : Nat) (items : List Json) : itemScalars i items
    = (items.zipIdx i).flatMap fun e => e.1.scalars.map (stepTo (.item e.2)) := by
  induction items generalizing i with
  | nil => rfl
  | cons v rest ih => rw [itemScalars, ih, List.zipIdx_cons, List.flatMap_cons]

theorem memberScalars_eq (members : List (String × Json)) : memberScalars members
    = members.flatMap fun e => e.2.scalars.map (stepTo (.member e.1)) := by
  induction members with
  | nil => rfl
  | cons e rest ih => rw [memberScalars, ih, List.flatMap_cons]

theorem itemLeaves_eq (path : String) (items : List Json) :
    itemLeaves path items = items.flatMap (leaves path) := by
  induction items with
  | nil => rfl
  | cons v rest ih => rw [itemLeaves, ih, List.flatMap_cons]

theorem memberLeaves_eq (path : String) (members : List (String × Json)) :
    memberLeaves path members = members.flatMap fun e => leaves (childPath path e.1) e.2 := by
  induction members with
  | nil => rfl
  | cons e rest ih => rw [memberLeaves, ih, List.flatMap_cons]

section Scalars

variable {json : Json} {place : Place} {v : Value}

-- Leaves are scalars with their paths.
theorem leaves_eq (h : json.Ordered) (path : String) :
    json.leaves path = json.scalars.map fun e => (e.1.keys.foldl childPath path, e.2) := by
  induction h generalizing path with
  | null => rfl
  | bool b => rfl
  | number n => rfl
  | text s => rfl
  | @array items _ ih =>
    rw [leaves, scalars, itemLeaves_eq, itemScalars_eq, List.map_flatMap]
    calc items.flatMap (leaves path)
        = (items.zipIdx.map Prod.fst).flatMap (leaves path) := by rw [List.zipIdx_map_fst]
      _ = items.zipIdx.flatMap fun e => e.1.leaves path := List.flatMap_map _ _ _
      _ = _ := List.flatMap_congr fun e he => by
        rw [ih e.1 (List.fst_mem_of_mem_zipIdx he) path, List.map_map]
        rfl
  | @object members _ _ ih =>
    rw [leaves, scalars, memberLeaves_eq, memberScalars_eq, List.map_flatMap]
    refine List.flatMap_congr fun e he => ?_
    rw [ih e he, List.map_map]
    rfl

theorem mem_map_stepTo_iff {s : Step} {visited : List (Place × Value)} :
    (place, v) ∈ visited.map (stepTo s) ↔ ∃ rest, place = s :: rest ∧ (rest, v) ∈ visited := by
  rw [List.mem_map]
  constructor
  · rintro ⟨⟨rest, w⟩, he, heq⟩
    cases heq
    exact ⟨rest, rfl, he⟩
  · rintro ⟨rest, rfl, he⟩
    exact ⟨(rest, v), he, rfl⟩

theorem mem_scalars_array {items : List Json} : (place, v) ∈ (array items).scalars ↔
    ∃ i rest w, place = .item i :: rest ∧ items[i]? = some w ∧ (rest, v) ∈ w.scalars := by
  rw [scalars, itemScalars_eq, List.mem_flatMap]
  simp only [mem_map_stepTo_iff, Prod.exists, List.mk_mem_zipIdx_iff_getElem?]
  constructor
  · rintro ⟨w, i, hw, rest, hplace, hv⟩
    exact ⟨i, rest, w, hplace, hw, hv⟩
  · rintro ⟨i, rest, w, hplace, hw, hv⟩
    exact ⟨w, i, hw, rest, hplace, hv⟩

theorem mem_scalars_object {members : List (String × Json)} : (place, v) ∈ (object members).scalars ↔
    ∃ name rest w, place = .member name :: rest ∧ (name, w) ∈ members ∧ (rest, v) ∈ w.scalars := by
  rw [scalars, memberScalars_eq, List.mem_flatMap]
  simp only [mem_map_stepTo_iff, Prod.exists]
  constructor
  · rintro ⟨name, w, hw, rest, hplace, hv⟩
    exact ⟨name, rest, w, hplace, hw, hv⟩
  · rintro ⟨name, rest, w, hplace, hw, hv⟩
    exact ⟨name, w, hw, rest, hplace, hv⟩

-- In a scalar there is nothing but the scalar itself.
theorem exists_at?_iff_of_scalar (json : Json) (h : ∀ s, json.child? s = none) :
    (∃ leaf, json.at? place = some leaf ∧ leaf.RecordedAs v) ↔ place = [] ∧ json.RecordedAs v := by
  cases place with
  | nil => simp [at?]
  | cons s rest => simp [at?, h]

theorem not_recordedAs_array {items : List Json} : ¬ (array items).RecordedAs v := nofun

theorem not_recordedAs_object {members : List (String × Json)} : ¬ (object members).RecordedAs v :=
  nofun

theorem mem_scalars_iff (h : json.Ordered) :
    (place, v) ∈ json.scalars ↔ ∃ leaf, json.at? place = some leaf ∧ leaf.RecordedAs v := by
  induction h generalizing place v with
  | null =>
    have hnot : ¬ null.RecordedAs v := nofun
    simp [exists_at?_iff_of_scalar null fun _ => rfl, hnot, scalars]
  | bool b =>
    have hiff : (bool b).RecordedAs v ↔ v = .bool b :=
      ⟨fun h => by cases h; rfl, fun h => h ▸ .bool b⟩
    simp [exists_at?_iff_of_scalar (bool b) fun _ => rfl, hiff, scalars]
  | number n =>
    simp [exists_at?_iff_of_scalar (number n) fun _ => rfl, recordedAs_number_iff, scalars]
  | text s =>
    have hiff : (text s).RecordedAs v ↔ v = .text s :=
      ⟨fun h => by cases h; rfl, fun h => h ▸ .text s⟩
    simp [exists_at?_iff_of_scalar (text s) fun _ => rfl, hiff, scalars]
  | @array items _ ih =>
    rw [mem_scalars_array]
    constructor
    · rintro ⟨i, rest, w, rfl, hw, hv⟩
      obtain ⟨leaf, hleaf, hrecorded⟩ := (ih w (List.mem_of_getElem? hw)).mp hv
      exact ⟨leaf, by rw [at?, child?, hw]; exact hleaf, hrecorded⟩
    · rintro ⟨leaf, hleaf, hrecorded⟩
      match place, hleaf with
      | [], hleaf => exact absurd (Option.some.inj hleaf ▸ hrecorded) not_recordedAs_array
      | .item i :: rest, hleaf =>
        obtain ⟨w, hw, hleaf⟩ := Option.bind_eq_some_iff.mp hleaf
        exact ⟨i, rest, w, rfl, hw, (ih w (List.mem_of_getElem? hw)).mpr ⟨leaf, hleaf, hrecorded⟩⟩
      | .member name :: rest, hleaf => cases hleaf
  | @object members hmembers _ ih =>
    rw [mem_scalars_object]
    constructor
    · rintro ⟨name, rest, w, rfl, hw, hv⟩
      obtain ⟨leaf, hleaf, hrecorded⟩ := (ih (name, w) hw).mp hv
      rw [SortedMap.mem_iff_lookUp? hmembers] at hw
      exact ⟨leaf, by rw [at?, child?, hw]; exact hleaf, hrecorded⟩
    · rintro ⟨leaf, hleaf, hrecorded⟩
      match place, hleaf with
      | [], hleaf => exact absurd (Option.some.inj hleaf ▸ hrecorded) not_recordedAs_object
      | .item i :: rest, hleaf => cases hleaf
      | .member name :: rest, hleaf =>
        obtain ⟨w, hw, hleaf⟩ := Option.bind_eq_some_iff.mp hleaf
        have hmem := (SortedMap.mem_iff_lookUp? hmembers).mpr hw
        exact ⟨name, rest, w, rfl, hmem, (ih (name, w) hmem).mpr ⟨leaf, hleaf, hrecorded⟩⟩

theorem pairwise_stepTo {s : Step} {visited : List (Place × Value)}
    (h : (visited.map Prod.fst).Pairwise Place.Before) :
    ((visited.map (stepTo s)).map Prod.fst).Pairwise Place.Before := by
  rw [List.map_map]
  rw [List.pairwise_map] at h ⊢
  exact h.imp fun hbefore => .cons hbefore

theorem before_of_step {s t : Step} (h : s.Before t) {visited others : List (Place × Value)} :
    ∀ p ∈ (visited.map (stepTo s)).map Prod.fst, ∀ q ∈ (others.map (stepTo t)).map Prod.fst,
      Place.Before p q := by
  simp only [List.map_map, List.mem_map]
  rintro _ ⟨e, -, rfl⟩ _ ⟨e', -, rfl⟩
  exact .rel h

theorem scalars_ordered (h : json.Ordered) : (json.scalars.map Prod.fst).Pairwise Place.Before := by
  induction h with
  | null => exact .nil
  | bool b => exact List.pairwise_singleton _ _
  | number n => exact List.pairwise_singleton _ _
  | text s => exact List.pairwise_singleton _ _
  | @array items _ ih =>
    have hpositions : items.zipIdx.Pairwise fun a b => a.2 < b.2 := by
      refine List.pairwise_map.mp ?_
      rw [List.zipIdx_map_snd]
      exact List.pairwise_lt_range'
    rw [scalars, itemScalars_eq, List.map_flatMap, List.pairwise_flatMap]
    exact ⟨fun e he => pairwise_stepTo (ih e.1 (List.fst_mem_of_mem_zipIdx he)),
      hpositions.imp fun hlt => before_of_step (.item hlt)⟩
  | @object members hmembers _ ih =>
    rw [scalars, memberScalars_eq, List.map_flatMap, List.pairwise_flatMap]
    exact ⟨fun e he => pairwise_stepTo (ih e he), hmembers.imp fun hlt => before_of_step (.member hlt)⟩

theorem flattens_scalars (h : json.Ordered) : json.Flattens (Document.ofJson json) json.scalars where
  scalars _ _ := mem_scalars_iff h
  ordered := scalars_ordered h
  recorded path := by
    rw [Document.ofJson, Document.valuesAt_ofList, leaves_eq h, List.filter_map, List.map_map]
    rfl
  filled := Document.filled_ofList _

end Scalars

-- A value in an array of its own, or an array with one more item that holds no scalar, anywhere in
-- a value.
inductive Pads : Json → Json → Prop where
  | wrap (v : Json) : Pads v (array [v])
  | insert {blank : Json} (before after : List Json) : blank ∈ [null, array [], object []] →
    Pads (array (before ++ after)) (array (before ++ blank :: after))
  | item {v w : Json} (before after : List Json) : Pads v w →
    Pads (array (before ++ v :: after)) (array (before ++ w :: after))
  | member {v w : Json} (name : String) (before after : List (String × Json)) : Pads v w →
    Pads (object (before ++ (name, v) :: after)) (object (before ++ (name, w) :: after))

theorem Pads.leaves_eq {json other : Json} (h : json.Pads other) (path : String) :
    json.leaves path = other.leaves path := by
  induction h generalizing path with
  | wrap v => rw [leaves, itemLeaves, itemLeaves, List.append_nil]
  | @insert blank before after hblank =>
    have hnone : blank.leaves path = [] := by
      simp only [List.mem_cons, List.not_mem_nil, or_false] at hblank
      rcases hblank with rfl | rfl | rfl <;> rfl
    simp [leaves, itemLeaves_eq, hnone]
  | item before after _ ih => simp [leaves, itemLeaves_eq, ih]
  | member name before after _ ih => simp [leaves, memberLeaves_eq, ih]

end Json

namespace Document

open Json

theorem ofJson_eq_of_pads {json other : Json} (h : Relation.EqvGen Pads json other) :
    ofJson json = ofJson other := by
  induction h with
  | rel json other h => rw [ofJson, ofJson, h.leaves_eq]
  | refl => rfl
  | symm _ _ _ ih => exact ih.symm
  | trans _ _ _ _ _ ih ih' => exact ih.trans ih'

-- Every scalar of a value is recorded once, in the order of the places, and nothing else is,
-- whatever is around the scalars.
theorem flattens_ofJson {json : Json} (h : json.Ordered) :
    (∃ visited, json.Flattens (ofJson json) visited) ∧
      ∀ other, Relation.EqvGen Pads json other → ofJson other = ofJson json :=
  ⟨⟨json.scalars, flattens_scalars h⟩, fun _ hpads => (ofJson_eq_of_pads hpads).symm⟩

def meeting : Json :=
  object [("a", object [("b", array [number (.natural 1), array [number (.negative (-2))]])]),
    ("a.b", number (.natural 0xffffffffffffffff))]

def padded : Json :=
  object [("a", array [object [("b",
      array [number (.natural 1), object [], array [number (.negative (-2))]])]]),
    ("a.b", number (.natural 0xffffffffffffffff))]

-- Two places with one path, and an integer that is too large for a sign.
theorem flattens_meeting : meeting.Ordered ∧ Relation.EqvGen Pads meeting padded ∧
    (∃ visited, meeting.Flattens (ofJson meeting) visited) ∧ ofJson padded = ofJson meeting ∧
    (ofJson meeting).toList = [("a.b", [.int 1, .int (-2), .float (.ofInt 0xffffffffffffffff)])] := by
  have hordered : meeting.Ordered := by
    refine .object (by decide +kernel) ?_
    simp only [List.forall_mem_cons, List.not_mem_nil, false_implies, implies_true, and_true]
    refine ⟨.object (by simp) ?_, .number _⟩
    simp only [List.forall_mem_cons, List.not_mem_nil, false_implies, implies_true, and_true]
    refine .array ?_
    simp only [List.forall_mem_cons, List.not_mem_nil, false_implies, implies_true, and_true]
    exact ⟨.number _, .array (by simp [Json.Ordered.number])⟩
  have hpads : Relation.EqvGen Pads meeting padded := by
    have hinsert : Pads (array [number (.natural 1), array [number (.negative (-2))]])
        (array [number (.natural 1), object [], array [number (.negative (-2))]]) :=
      .insert [_] [_] (by simp)
    have hfirst := Pads.member "a" [] [("a.b", number (.natural 0xffffffffffffffff))]
      (.member "b" [] [] hinsert)
    exact .trans _ _ _ (.rel _ _ hfirst) (.rel _ _ (.member "a" [] _ (.wrap _)))
  have hflattens := flattens_ofJson hordered
  exact ⟨hordered, hpads, hflattens.1, hflattens.2 padded hpads, by decide +kernel⟩

end Document

end Targeting
