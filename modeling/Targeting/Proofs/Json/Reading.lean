import Mathlib
import Targeting.Json.Reader
import Targeting.Proofs.Json.Place

namespace Targeting.Json

variable {cs rest : List Char} {v : Json}

section Numbers

theorem number_of_finish {negative : Bool} {significand : Nat} {exponent : Int}
    (h : finish negative significand exponent cs = some (v, rest)) : ∃ n, v = number n := by
  obtain ⟨x, -, heq⟩ := Option.map_eq_some_iff.mp h
  cases heq
  exact ⟨_, rfl⟩

theorem number_of_readExponent {negative : Bool} {significand : Nat} {exponent : Int}
    (h : readExponent negative significand exponent cs = some (v, rest)) : ∃ n, v = number n := by
  cases cs with
  | nil => exact number_of_finish h
  | cons c cs =>
    rw [readExponent] at h
    split at h
    · dsimp only at h
      split at h
      · cases h
      · exact number_of_finish h
    · exact number_of_finish h

theorem number_of_readFraction {negative : Bool} {significand : Nat} {exponent : Int}
    (h : readFraction negative significand exponent cs = some (v, rest)) : ∃ n, v = number n := by
  rw [readFraction] at h
  split at h
  · exact number_of_readExponent h
  · cases h

theorem number_of_ofSignificand (negative : Bool) (significand : Nat) :
    ∃ n, ofSignificand negative significand = number n := by
  rw [ofSignificand]
  split
  · exact ⟨_, rfl⟩
  · split <;> exact ⟨_, rfl⟩

theorem number_of_readNumber {negative : Bool} (h : readNumber negative cs = some (v, rest)) :
    ∃ n, v = number n := by
  rw [readNumber] at h
  split at h
  · cases h
  · dsimp only at h
    split at h
    · cases h
    · split at h
      · exact number_of_readFraction h
      · split at h
        · exact number_of_readExponent h
        · cases h
          exact number_of_ofSignificand _ _

end Numbers

theorem ordered_insertMember {members : List (String × Json)} (h : (object members).Ordered)
    (hv : v.Ordered) (name : String) : (object (insertMember name v members)).Ordered := by
  cases h with
  | object hascending hmembers =>
    have hinserted := SortedMap.alterEntries_ascending (k := name) (f := fun _ => some v) hascending
    refine .object hinserted ?_
    rintro ⟨key, w⟩ he
    rw [insertMember, SortedMap.mem_iff_lookUp? hinserted,
      SortedMap.lookUp?_alterEntries hascending] at he
    split at he
    · cases he
      exact hv
    · exact hmembers (key, w) ((SortedMap.mem_iff_lookUp? hascending).mpr he)

-- The names of what is read are put in order member by member.
theorem ordered_of_fuel (fuel : Nat) :
    (∀ depth cs v rest, readValue fuel depth cs = some (v, rest) → v.Ordered) ∧
    (∀ depth items cs v rest, (∀ w ∈ items, w.Ordered) →
      readItems fuel depth items cs = some (v, rest) → v.Ordered) ∧
    ∀ depth members cs v rest, (object members).Ordered →
      readMembers fuel depth members cs = some (v, rest) → v.Ordered := by
  induction fuel with
  | zero => exact ⟨nofun, nofun, nofun⟩
  | succ fuel ih =>
    obtain ⟨hvalue, hitems, hmembers⟩ := ih
    refine ⟨?_, ?_, ?_⟩
    · intro depth cs v rest h
      rw [readValue] at h
      split at h
      · cases h; exact .null
      · cases h; exact .bool _
      · cases h; exact .bool _
      · obtain ⟨⟨s, left⟩, -, heq⟩ := Option.map_eq_some_iff.mp h
        cases heq
        exact .text s
      · obtain ⟨n, rfl⟩ := number_of_readNumber h
        exact .number n
      · split at h
        · cases h
        · split at h
          · cases h; exact .array (by simp)
          · exact hitems _ _ _ _ _ (by simp) h
      · split at h
        · cases h
        · split at h
          · cases h; exact .object .nil (by simp)
          · exact hmembers _ _ _ _ _ (.object .nil (by simp)) h
      · obtain ⟨n, rfl⟩ := number_of_readNumber h
        exact .number n
    · intro depth items cs v rest hread h
      rw [readItems] at h
      split at h
      · cases h
      next w left hw =>
        have hall : ∀ x ∈ w :: items, x.Ordered :=
          List.forall_mem_cons.mpr ⟨hvalue _ _ _ _ hw, hread⟩
        split at h
        · exact hitems _ _ _ _ _ hall h
        · cases h
          exact .array fun x hx => hall x (List.mem_reverse.mp hx)
        · cases h
    · intro depth members cs v rest hread h
      rw [readMembers] at h
      split at h
      · split at h
        · cases h
        next name left _ =>
          split at h
          · split at h
            · cases h
            next w left hw =>
              have hinserted := ordered_insertMember hread (hvalue _ _ _ _ hw) name
              split at h
              · exact hmembers _ _ _ _ _ hinserted h
              · cases h
                exact hinserted
              · cases h
          · cases h
      · cases h

theorem ordered_of_read? {s : String} (h : read? s = some v) : v.Ordered := by
  rw [read?] at h
  split at h
  next w rest hread =>
    split at h
    · cases h
      exact (ordered_of_fuel _).1 _ _ _ _ hread
    · cases h
  next => cases h

end Targeting.Json
