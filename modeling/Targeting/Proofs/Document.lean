import Mathlib
import Targeting.Value.Basic
import Targeting.Proofs.SortedMap

namespace Targeting.Document

variable {pairs : List (String × Value)} {path : String}

-- The values of a field, of which there are none when it is absent.
def valuesAt (doc : Document) (path : String) : List Value := (doc.get? path).getD []

theorem get?_eq_valuesAt (doc : Document) (path : String) :
    doc.get? path = if doc.valuesAt path = [] then none else some (doc.valuesAt path) := by
  rw [valuesAt, get?]
  cases doc.fields.find? path with
  | none => rfl
  | some values => cases values <;> rfl

theorem get?_set (doc : Document) (field : String) (v : Value) :
    (doc.set field v).get? path = if path = field then some [v] else doc.get? path := by
  rw [get?, set, SortedMap.find?_insert]
  split <;> rfl

theorem valuesAt_push (doc : Document) (field : String) (v : Value) :
    (doc.push field v).valuesAt path
      = if path = field then doc.valuesAt path ++ [v] else doc.valuesAt path := by
  have hvalues (d : Document) : d.valuesAt path = (d.fields.find? path).getD [] := by
    rw [valuesAt, get?]
    cases d.fields.find? path with
    | none => rfl
    | some values => cases values <;> rfl
  rw [hvalues, hvalues, push, SortedMap.find?_upsert]
  split
  next h => rw [h, Option.getD_some]
  next => rfl

theorem valuesAt_ofList :
    (ofList pairs).valuesAt path = (pairs.filter (·.1 = path)).map Prod.snd := by
  have hfold (doc : Document) : (pairs.foldl (fun doc e => doc.push e.1 e.2) doc).valuesAt path
      = doc.valuesAt path ++ (pairs.filter (·.1 = path)).map Prod.snd := by
    induction pairs generalizing doc with
    | nil => simp
    | cons e rest ih =>
      rw [List.foldl_cons, ih, valuesAt_push, List.filter_cons]
      by_cases h : e.1 = path
      · simp [h]
      · simp [h, Ne.symm h]
  exact hfold empty

-- No field is without a value.
def Filled (doc : Document) : Prop := ∀ e ∈ doc.fields.entries, e.2 ≠ []

theorem filled_push {doc : Document} (h : doc.Filled) (field : String) (v : Value) :
    (doc.push field v).Filled := by
  rintro ⟨path, values⟩ he
  rw [SortedMap.mem_entries_iff, push, SortedMap.find?_upsert] at he
  split at he
  next => simp [← Option.some.inj he]
  next => exact h (path, values) (SortedMap.mem_entries_iff.mpr he)

theorem filled_ofList (pairs : List (String × Value)) : (ofList pairs).Filled := by
  have hfold (doc : Document) (h : doc.Filled) :
      (pairs.foldl (fun doc e => doc.push e.1 e.2) doc).Filled := by
    induction pairs generalizing doc with
    | nil => exact h
    | cons e rest ih => exact ih _ (filled_push h e.1 e.2)
  exact hfold empty fun _ he => absurd he List.not_mem_nil

end Targeting.Document
