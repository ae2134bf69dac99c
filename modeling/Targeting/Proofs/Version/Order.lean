import Targeting.Proofs.Version.Spelling

namespace Targeting.Version

-- The versions `v` and `w` in two texts compare by the segments in these, zeros standing for those
-- that are missing, unless one release is over where the other goes on with a text. The former
-- comes first then.
structure ComparesBySegments (s t : String) (v w : Version) : Prop where
  padded_iff : compare v w =
      comparePadded Segment.compareTo (.num 0) (segments s) (segments t) ↔
    ¬ EndsBeforeText (segments s) (segments t) ∧ ¬ EndsBeforeText (segments t) (segments s)
  before_text : EndsBeforeText (segments s) (segments t) → compare v w = .lt
  after_text : EndsBeforeText (segments t) (segments s) → compare v w = .gt
  zeros_left : ∀ n, ofText? (String.ofList (appendZeros n s.toList)) = some v
  zeros_right : ∀ n, ofText? (String.ofList (appendZeros n t.toList)) = some w

theorem comparesBySegments {s t : String} {v w : Version} (hv : ofText? s = some v)
    (hw : ofText? t = some w) (hqualifiers : v.qualifier = none ∧ w.qualifier = none)
    (hfits : ∀ n, .num n ∈ segments s ++ segments t → n < 2 ^ 64) : ComparesBySegments s t v w := by
  have hrelease : v.release = dropZeros (segments s) :=
    release_of_ofText? hv fun n hn => hfits n (List.mem_append_left _ hn)
  have hrelease' : w.release = dropZeros (segments t) :=
    release_of_ofText? hw fun n hn => hfits n (List.mem_append_right _ hn)
  have hcompare : compare v w = compareReleases (dropZeros (segments s)) (dropZeros (segments t)) := by
    rw [compare_of_unqualified hqualifiers.1 hqualifiers.2, hrelease, hrelease']
  constructor
  case padded_iff =>
    rw [hcompare]
    exact compareReleases_dropZeros_iff _ _
  case before_text =>
    intro h
    rw [hcompare]
    exact compareReleases_of_endsBeforeText h
  case after_text =>
    intro h
    rw [hcompare, ← compareReleases_swap, compareReleases_of_endsBeforeText h]
    rfl
  case zeros_left => exact ofText?_appendZeros hv
  case zeros_right => exact ofText?_appendZeros hw

theorem comparesBySegments_mixed :
    (∀ n, .num n ∈ segments " v1.Rc.007-" ++ segments "1.rc.+7.b" → n < 2 ^ 64) ∧
      ComparesBySegments " v1.Rc.007-" "1.rc.+7.b" ⟨[.num 1, .text "rc", .num 7], none⟩
        ⟨[.num 1, .text "rc", .num 7, .text "b"], none⟩ := by
  have hsegments : segments " v1.Rc.007-" ++ segments "1.rc.+7.b" =
      [.num 1, .text "rc", .num 7, .num 1, .text "rc", .num 7, .text "b"] := by decide +kernel
  have hfits (n : Nat) (hn : .num n ∈ segments " v1.Rc.007-" ++ segments "1.rc.+7.b") :
      n < 2 ^ 64 := by
    rw [hsegments] at hn
    simp at hn
    omega
  exact ⟨hfits, comparesBySegments (by decide +kernel) (by decide +kernel) ⟨rfl, rfl⟩ hfits⟩

-- A text sorts before the zero that is left out at the end of a release, and after its end.
theorem compare_ne_padded :
    ofText? "1.0" = some ⟨[.num 1], none⟩ ∧
      ofText? "1.rc" = some ⟨[.num 1, .text "rc"], none⟩ ∧
      segments "1.0" = [.num 1, .num 0] ∧ segments "1.rc" = [.num 1, .text "rc"] ∧
      compare (⟨[.num 1], none⟩ : Version) ⟨[.num 1, .text "rc"], none⟩ = .lt ∧
      comparePadded Segment.compareTo (.num 0) (segments "1.0") (segments "1.rc") = .gt := by
  refine ⟨by decide +kernel, by decide +kernel, by decide +kernel, by decide +kernel, rfl, ?_⟩
  decide +kernel

end Targeting.Version
