import Mathlib
import Targeting.Caveat
import Targeting.Proofs.Pattern.EnclosedBody

namespace Targeting.Pattern

theorem anchored_eq (source : String) :
    anchored source = '^' :: '(' :: '?' :: ':' :: (source.toList ++ closing) := by
  simp [anchored, closing]

-- No parenthesis stands behind the one that is written after the source.
theorem eq_append_closing {cs rest : List Char} (h : ')' :: rest <:+ cs ++ closing) :
    ∃ left, ')' :: rest = left ++ closing := by
  rcases List.suffix_or_suffix_of_suffix h (List.suffix_append cs closing) with hshort | hlong
  · refine ⟨[], ?_⟩
    simp only [closing, List.suffix_cons_iff, List.suffix_nil] at hshort
    rcases hshort with heq | heq | heq
    · exact heq
    · cases heq
    · cases heq
  · obtain ⟨left, hleft⟩ := hlong
    exact ⟨left, hleft.symm⟩

variable [Engine]

-- Read by itself, the source comes to a parenthesis that closes a group it does not open.
def closesGroup (source : String) : Bool :=
  match readBody .initial [] [] [] (source.toList.length + 1) source.toList with
  | some (_, _, ')' :: _) => true
  | _ => false

theorem read?_of_closesGroup {source : String} (h : closesGroup source = true) :
    read? source.toList = none := by
  rw [closesGroup] at h
  split at h
  next hread => rw [read?, hread]
  next => cases h

theorem readBody_anchored (fuel : Nat) (cs : List Char) :
    readBody .initial [] [] [] (fuel + 2) ('^' :: '(' :: '?' :: ':' :: cs) =
      match readBody .initial [] [] [] fuel cs with
      | some (n, names, ')' :: rest) =>
        readBody .initial names [] [.node ⟨n.expr, n.depth + 1⟩, leaf (.look .textStart)] fuel rest
      | _ => none := by
  rw [readBody_atom rfl rfl]
  rfl

theorem readBody_dollar (fuel : Nat) (names : List String) (items : List Item) :
    readBody .initial names [] items (fuel + 2) ['$'] =
      some (sequence (leaf (.look .textEnd) :: items), names, []) := by
  rw [readBody_atom rfl rfl]
  rfl

-- The inside of the group ends at the parenthesis written after the source, with the source read
-- whole, or else at one of the source.
theorem readBody_append_closing {source : String} {fuel : Nat} {n : Node} {names : List String}
    {rest : List Char}
    (h : readBody .initial [] [] [] fuel (source.toList ++ closing) = some (n, names, ')' :: rest))
    (hopen : closesGroup source = false) :
    rest = ['$'] ∧
      readBody .initial [] [] [] (source.toList.length + 1) source.toList = some (n, names, []) := by
  have henclosed := enclosed_readBody h
  obtain ⟨left, hleft⟩ := eq_append_closing henclosed.suffix
  have hread := henclosed.before _ left rfl hleft _ (Nat.lt_succ_self _)
  cases left with
  | nil =>
    cases hleft
    exact ⟨rfl, hread⟩
  | cons c left =>
    cases hleft
    rw [closesGroup, hread] at hopen
    cases hopen

-- A source that is well formed between the anchors is well formed by itself, unless it closes the
-- group around it.
theorem read?_of_anchored {source : String} {n : Node} (h : read? (anchored source) = some n)
    (hopen : closesGroup source = false) :
    ∃ inner, read? source.toList = some inner ∧
      n.expr = .seq (.seq (.look .textStart) inner.expr) (.look .textEnd) := by
  rw [read?] at h
  split at h
  next hread =>
    cases h
    rw [anchored_eq, List.length_cons, List.length_cons, readBody_anchored] at hread
    split at hread
    next inner names rest hinner =>
      obtain ⟨rfl, hsource⟩ := readBody_append_closing hinner hopen
      rw [List.length_cons, readBody_dollar] at hread
      cases hread
      exact ⟨inner, by rw [read?, hsource], rfl⟩
    next => cases hread
  next => cases h

-- A source that is well formed between the anchors, and is not by itself, has taken the place of the
-- group.
theorem closesGroup_iff_of_anchored {source : String} (h : (read? (anchored source)).isSome = true) :
    closesGroup source = true ↔ read? source.toList = none := by
  refine ⟨read?_of_closesGroup, fun hnone => ?_⟩
  by_contra hopen
  obtain ⟨n, hn⟩ := Option.isSome_iff_exists.mp h
  obtain ⟨inner, hinner, -⟩ := read?_of_anchored hn (Bool.eq_false_of_not_eq_true hopen)
  rw [hnone] at hinner
  cases hinner

end Targeting.Pattern
