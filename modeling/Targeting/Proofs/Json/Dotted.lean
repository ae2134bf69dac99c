import Mathlib
import Targeting.Proofs.Json.Flattening
import Targeting.Proofs.Json.Reading

namespace Targeting

namespace Json

-- Names with dots between them.
def dotted (keys : List String) : String := ".".intercalate keys

-- The names on the way without the empty ones at the start.
def Place.namedKeys (place : Place) : List String := place.keys.dropWhile (·.isEmpty)

-- The first name is not empty, or it is the only one.
def Place.Plain (place : Place) : Prop := place.keys.head? ≠ some "" ∨ place.keys.length = 1

-- The paths of what is visited are the names with dots between them, but that empty names at the
-- start are left out: where there is one before other names this is another path.
structure JoinsNames (visited : List (Place × Value)) : Prop where
  path : ∀ e ∈ visited, pathOf e.1 = dotted e.1.namedKeys
  plain : ∀ e ∈ visited, pathOf e.1 = dotted e.1.keys ↔ e.1.Plain
  shared : ∀ e ∈ visited, ∀ e' ∈ visited, e.1.Plain → e'.1.Plain →
    (pathOf e.1 = pathOf e'.1 ↔ dotted e.1.keys = dotted e'.1.keys)

section Paths

variable {place : Place} {keys : List String}

theorem childPath_of_ne {path : String} (h : path ≠ "") (name : String) :
    childPath path name = path ++ "." ++ name := by
  rw [childPath, if_neg (by simpa using h)]

-- Once a path is not empty all names are added to it.
theorem foldl_childPath {path : String} (h : path ≠ "") (keys : List String) :
    keys.foldl childPath path = dotted (path :: keys) := by
  induction keys generalizing path with
  | nil => rw [List.foldl_nil, dotted, String.intercalate_singleton]
  | cons name keys ih =>
    have hne : path ++ "." ++ name ≠ "" := by
      intro hempty
      have hlength := congrArg String.length hempty
      simp at hlength
    rw [List.foldl_cons, childPath_of_ne h, ih hne, dotted, dotted, String.intercalate_cons_cons]
    cases keys with
    | nil => simp
    | cons next keys => simp [String.intercalate_cons_cons, String.append_assoc]

theorem foldl_childPath_empty (keys : List String) :
    keys.foldl childPath "" = dotted (keys.dropWhile (·.isEmpty)) := by
  induction keys with
  | nil => rfl
  | cons name keys ih =>
    have hname : childPath "" name = name := rfl
    rw [List.foldl_cons, hname, List.dropWhile_cons]
    by_cases hempty : name = ""
    · subst hempty
      exact ih
    · rw [foldl_childPath hempty, if_neg (by simpa using hempty)]

theorem pathOf_eq (place : Place) : pathOf place = dotted place.namedKeys :=
  foldl_childPath_empty place.keys

theorem length_dotted_cons_lt (name : String) (h : keys ≠ []) :
    (dotted keys).length < (dotted (name :: keys)).length := by
  have hdot : ".".length = 1 := rfl
  rw [dotted, dotted, String.intercalate_cons_of_ne_nil h, String.length_append,
    String.length_append, hdot]
  omega

theorem length_dotted_le (keys : List String) :
    (dotted (keys.dropWhile (·.isEmpty))).length ≤ (dotted keys).length := by
  induction keys with
  | nil => exact Nat.le_refl _
  | cons name keys ih =>
    rw [List.dropWhile_cons]
    split
    · cases keys with
      | nil => exact Nat.zero_le _
      | cons next keys => exact ih.trans (length_dotted_cons_lt name (by simp)).le
    · exact Nat.le_refl _

theorem dotted_eq_iff (hne : keys ≠ []) :
    dotted (keys.dropWhile (·.isEmpty)) = dotted keys ↔ keys.head? ≠ some "" ∨ keys.length = 1 := by
  obtain ⟨name, rest, rfl⟩ := List.exists_cons_of_ne_nil hne
  by_cases hname : name = ""
  · subst hname
    have hdrop : ("" :: rest).dropWhile (·.isEmpty) = rest.dropWhile (·.isEmpty) := rfl
    cases rest with
    | nil => simp [hdrop, dotted]
    | cons next rest =>
      have hlt := (length_dotted_le (next :: rest)).trans_lt (length_dotted_cons_lt "" (by simp))
      have hlength : dotted ((next :: rest).dropWhile (·.isEmpty)) ≠ dotted ("" :: next :: rest) :=
        fun heq => absurd (congrArg String.length heq) hlt.ne
      rw [hdrop]
      simp [hlength]
  · rw [List.dropWhile_cons, if_neg (by simpa using hname)]
    simp [hname]

-- What is in an object is under a name.
theorem keys_ne_nil {json : Json} {place : Place} {v : Value} (h : json.isObject = true)
    (hmem : (place, v) ∈ json.scalars) : place.keys ≠ [] := by
  cases json with
  | object members =>
    obtain ⟨name, rest, w, rfl, -⟩ := mem_scalars_object.mp hmem
    simp [Place.keys, Step.key?]
  | _ => cases h

theorem joinsNames_scalars {json : Json} (h : json.isObject = true) : JoinsNames json.scalars := by
  have hplain : ∀ e ∈ json.scalars, pathOf e.1 = dotted e.1.keys ↔ e.1.Plain := fun e he => by
    rw [pathOf_eq]
    exact dotted_eq_iff (keys_ne_nil h he)
  refine ⟨fun e _ => pathOf_eq e.1, hplain, ?_⟩
  intro e he e' he' hfirst hsecond
  rw [(hplain e he).mpr hfirst, (hplain e' he').mpr hsecond]

end Paths

end Json

namespace Document

open Json

theorem ofText_eq {s : String} {json : Json} (h : Json.read? s = some json)
    (hobject : json.isObject = true) : ofText s = .ok (ofJson json) := by
  rw [ofText, h]
  exact if_pos hobject

-- A text of an object gives a document, in which its scalars stand under their names with dots
-- between them, if an empty name comes first only where it is alone.
theorem ofText_joinsNames {s : String} {json : Json} (h : Json.read? s = some json)
    (hobject : json.isObject = true) : ∃ doc visited, ofText s = .ok doc ∧
      json.Flattens doc visited ∧ JoinsNames visited :=
  ⟨ofJson json, json.scalars, ofText_eq h hobject, flattens_scalars (ordered_of_read? h),
    joinsNames_scalars hobject⟩

def nestedText : String := "\x7b\"a\": \x7b\"\": [1, \x7b\"b.c\": true\x7d]\x7d, \"\": \x7b\"\": 2\x7d\x7d"

theorem ofText_nested : ∃ json doc visited, Json.read? nestedText = some json ∧
    json.isObject = true ∧ ofText nestedText = .ok doc ∧ json.Flattens doc visited ∧
    JoinsNames visited ∧
    doc.toList = [("", [.int 2]), ("a.", [.int 1]), ("a..b.c", [.bool true])] := by
  have hread : (Json.read? nestedText).any Json.isObject = true := by decide +kernel
  have hlist : (ofText nestedText).toOption.map toList
      = some [("", [.int 2]), ("a.", [.int 1]), ("a..b.c", [.bool true])] := by decide +kernel
  obtain ⟨json, hjson, hobject⟩ := (Option.any_eq_true _ _).mp hread
  obtain ⟨doc, visited, hdoc, hflattens, hjoins⟩ := ofText_joinsNames hjson hobject
  rw [hdoc] at hlist
  exact ⟨json, doc, visited, hjson, hobject, hdoc, hflattens, hjoins, Option.some.inj hlist⟩

def hiddenText : String := "\x7b\"\": \x7b\"a\": 1\x7d\x7d"

-- An empty name before another one adds no dot.
theorem not_ofText_dotted : ¬ ∀ (s : String) (json : Json) (doc : Document) (place : Place)
    (leaf : Json) (v : Value), Json.read? s = some json → json.isObject = true →
    ofText s = .ok doc → json.at? place = some leaf → leaf.RecordedAs v →
    v ∈ doc.valuesAt (dotted place.keys) := by
  intro h
  have hread : (Json.read? hiddenText).map (fun json => (json.isObject, json.scalars))
      = some (true, [([.member "", .member "a"], .int 1)]) := by decide +kernel
  have hnone : (ofText hiddenText).toOption.map (·.valuesAt ".a") = some [] := by decide +kernel
  obtain ⟨json, hjson, heq⟩ := Option.map_eq_some_iff.mp hread
  obtain ⟨hobject, hscalars⟩ := Prod.mk.inj heq
  have hdoc := ofText_eq hjson hobject
  have hmem : ([.member "", .member "a"], .int 1) ∈ json.scalars := by simp [hscalars]
  obtain ⟨leaf, hleaf, hrecorded⟩ := (mem_scalars_iff (ordered_of_read? hjson)).mp hmem
  have hvalue := h hiddenText json _ _ leaf (.int 1) hjson hobject hdoc hleaf hrecorded
  rw [hdoc] at hnone
  have hempty : (ofJson json).valuesAt ".a" = [] := Option.some.inj hnone
  rw [show dotted (Place.keys [.member "", .member "a"]) = ".a" from rfl, hempty] at hvalue
  cases hvalue

end Document

end Targeting
