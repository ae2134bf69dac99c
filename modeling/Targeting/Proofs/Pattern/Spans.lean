import Mathlib
import Targeting.Pattern.Expr

namespace Targeting.Pattern

section Relations

-- That many steps of a relation between places.
def Steps (r : Nat → Nat → Prop) : Nat → Nat → Nat → Prop
  | 0, i, j => i = j
  | n + 1, i, j => ∃ k, r i k ∧ Steps r n k j

-- A relation that goes on in a text of `size` characters.
structure Forward (size : Nat) (r : Nat → Nat → Prop) : Prop where
  le {i j : Nat} : r i j → i ≤ j
  bound {i j : Nat} : r i j → i ≤ size → j ≤ size

variable {r : Nat → Nat → Prop} {size n i j : Nat}

theorem Steps.trans {m k : Nat} (h : Steps r m i k) (hnext : Steps r n k j) : Steps r (m + n) i j := by
  induction m generalizing i with
  | zero =>
    cases h
    rwa [Nat.zero_add]
  | succ m ih =>
    obtain ⟨mid, hfirst, hrest⟩ := h
    rw [Nat.add_right_comm]
    exact ⟨mid, hfirst, ih hrest⟩

theorem Steps.split {m : Nat} (h : Steps r (m + n) i j) : ∃ k, Steps r m i k ∧ Steps r n k j := by
  induction m generalizing i with
  | zero =>
    rw [Nat.zero_add] at h
    exact ⟨i, rfl, h⟩
  | succ m ih =>
    rw [Nat.add_right_comm] at h
    obtain ⟨mid, hfirst, hrest⟩ := h
    obtain ⟨k, hbefore, hafter⟩ := ih hrest
    exact ⟨k, ⟨mid, hfirst, hbefore⟩, hafter⟩

theorem Forward.steps (hr : Forward size r) (n : Nat) : Forward size (Steps r n) := by
  induction n with
  | zero => exact ⟨fun h => Nat.le_of_eq h, fun h hi => h ▸ hi⟩
  | succ n ih =>
    constructor
    · rintro i j ⟨k, hfirst, hrest⟩
      exact (hr.le hfirst).trans (ih.le hrest)
    · rintro i j ⟨k, hfirst, hrest⟩ hi
      exact ih.bound hrest (hr.bound hfirst hi)

-- With more steps than places on the way, one step stands still. It can be left out or taken twice.
theorem Steps.stutter (hr : Forward size r) (h : Steps r (n + 1) i j) (hshort : j ≤ i + n) :
    Steps r n i j ∧ Steps r (n + 2) i j := by
  induction n generalizing i with
  | zero =>
    obtain ⟨k, hfirst, hk⟩ := h
    have hle := hr.le hfirst
    obtain rfl : k = j := hk
    obtain rfl : i = k := by omega
    exact ⟨rfl, i, hfirst, i, hfirst, rfl⟩
  | succ n ih =>
    obtain ⟨k, hfirst, hrest⟩ := h
    by_cases hstill : k = i
    · subst hstill
      exact ⟨hrest, k, hfirst, k, hfirst, hrest⟩
    · have hle := hr.le hfirst
      obtain ⟨hfewer, hmore⟩ := ih hrest (by omega)
      exact ⟨⟨k, hfirst, hfewer⟩, k, hfirst, hmore⟩

theorem steps_succ_iff (hr : Forward size r) (hi : i ≤ size) (hn : size < n) :
    Steps r (n + 1) i j ↔ Steps r n i j := by
  constructor
  · intro h
    have hj := (hr.steps _).bound h hi
    exact (h.stutter hr (by omega)).1
  · intro h
    have hj := (hr.steps _).bound h hi
    obtain ⟨n, rfl⟩ := Nat.exists_eq_succ_of_ne_zero (by omega : n ≠ 0)
    exact (h.stutter hr (by omega)).2

-- More steps than there are places make no difference.
theorem steps_min_iff (hr : Forward size r) (hi : i ≤ size) (n : Nat) :
    Steps r (min (size + 1) n) i j ↔ Steps r n i j := by
  induction n with
  | zero => rw [Nat.min_zero]
  | succ n ih =>
    by_cases hn : n ≤ size
    · rw [Nat.min_eq_right (by omega)]
    · rw [steps_succ_iff hr hi (by omega), ← ih, Nat.min_eq_left (by omega),
        Nat.min_eq_left (by omega)]

-- Steps that may stand still are fewer steps.
theorem steps_or_eq_iff : Steps (fun i j => i = j ∨ r i j) n i j ↔ ∃ m ≤ n, Steps r m i j := by
  induction n generalizing i with
  | zero =>
    constructor
    · intro h
      exact ⟨0, Nat.le_refl 0, h⟩
    · rintro ⟨m, hm, h⟩
      obtain rfl := Nat.le_zero.mp hm
      exact h
  | succ n ih =>
    constructor
    · rintro ⟨k, hfirst, hrest⟩
      obtain ⟨m, hm, hrest⟩ := ih.mp hrest
      rcases hfirst with rfl | hfirst
      · exact ⟨m, by omega, hrest⟩
      · exact ⟨m + 1, by omega, k, hfirst, hrest⟩
    · rintro ⟨m, hm, h⟩
      cases m with
      | zero => exact ⟨i, .inl rfl, ih.mpr ⟨0, by omega, h⟩⟩
      | succ m =>
        obtain ⟨k, hfirst, hrest⟩ := h
        exact ⟨k, .inr hfirst, ih.mpr ⟨m, by omega, hrest⟩⟩

end Relations

section Matches

-- The character before a place.
def charBefore (text : List Char) : Nat → Option Char
  | 0 => none
  | i + 1 => text[i]?

-- The expression matches what stands between two places of the text. There are as many repetitions as
-- the bounds allow, and an upper bound below the lower one allows just those that are needed.
def Expr.Spans (text : List Char) : Expr → Nat → Nat → Prop
  | empty, i, j => i = j
  | oneOf chars, i, j => j = i + 1 ∧ ∃ c, text[i]? = some c ∧ chars.contains c = true
  | look condition, i, j => i = j ∧ condition.holds (charBefore text i) text[i]? = true
  | seq first second, i, j => ∃ k, first.Spans text i k ∧ second.Spans text k j
  | either left right, i, j => left.Spans text i j ∨ right.Spans text i j
  | repeated body least most, i, j =>
    ∃ n, least ≤ n ∧ (∀ m ∈ most, n ≤ max least m) ∧ Steps (body.Spans text) n i j

theorem Expr.forward_spans (text : List Char) (e : Expr) : Forward text.length (e.Spans text) := by
  induction e with
  | empty => exact ⟨fun h => Nat.le_of_eq h, fun h hi => h ▸ hi⟩
  | oneOf chars =>
    constructor
    · rintro i j ⟨rfl, -⟩
      exact Nat.le_succ i
    · rintro i j ⟨rfl, c, hc, -⟩ -
      exact (List.getElem?_eq_some_iff.mp hc).1
  | look condition => exact ⟨fun h => Nat.le_of_eq h.1, fun h hi => h.1 ▸ hi⟩
  | seq first second ihFirst ihSecond =>
    constructor
    · rintro i j ⟨k, hfirst, hsecond⟩
      exact (ihFirst.le hfirst).trans (ihSecond.le hsecond)
    · rintro i j ⟨k, hfirst, hsecond⟩ hi
      exact ihSecond.bound hsecond (ihFirst.bound hfirst hi)
  | either left right ihLeft ihRight =>
    exact ⟨fun h => h.elim ihLeft.le ihRight.le, fun h => h.elim ihLeft.bound ihRight.bound⟩
  | repeated body least most ih =>
    constructor
    · rintro i j ⟨n, -, -, hsteps⟩
      exact (ih.steps n).le hsteps
    · rintro i j ⟨n, -, -, hsteps⟩
      exact (ih.steps n).bound hsteps

end Matches

section Places

-- The place is in the set.
def At (places : List Bool) (i : Nat) : Prop := places[i]? = some true

-- A function on sets of places of a text of `size` characters takes each of them along a relation.
structure Follows (size : Nat) (f : List Bool → List Bool) (r : Nat → Nat → Prop) : Prop where
  length {places : List Bool} : places.length = size + 1 → (f places).length = size + 1
  at_iff {places : List Bool} (j : Nat) :
    places.length = size + 1 → (At (f places) j ↔ ∃ i, At places i ∧ r i j)

theorem At.le {places : List Bool} {size i : Nat} (h : At places i)
    (hlength : places.length = size + 1) : i ≤ size := by
  have hi := (List.getElem?_eq_some_iff.mp h).1
  omega

theorem At.replicate_iff {n i : Nat} : At (List.replicate n true) i ↔ i < n := by
  rw [At, List.getElem?_replicate]
  split
  next hi => simp [hi]
  next hi => simp [hi]

theorem at_join_iff {a b : List Bool} (h : a.length = b.length) (j : Nat) :
    At (join a b) j ↔ At a j ∨ At b j := by
  rw [At, At, At, join, List.getElem?_zipWith]
  cases ha : a[j]? with
  | none =>
    have hb : b[j]? = none := by
      rw [List.getElem?_eq_none_iff] at ha ⊢
      omega
    simp [hb]
  | some x =>
    cases hb : b[j]? with
    | none =>
      rw [List.getElem?_eq_none_iff] at hb
      have hj := (List.getElem?_eq_some_iff.mp ha).1
      omega
    | some y => simp

theorem length_join {a b : List Bool} (h : a.length = b.length) : (join a b).length = a.length := by
  rw [join, List.length_zipWith, ← h, Nat.min_self]

theorem iterate_succ (f : List Bool → List Bool) (n : Nat) (places : List Bool) :
    iterate f (n + 1) places = iterate f n (f places) := by
  rw [iterate]
  split
  next hfixed =>
    rw [hfixed]
    cases n with
    | zero => rfl
    | succ n => rw [iterate, if_pos hfixed]
  next => rfl

namespace Follows

variable {size : Nat} {f g : List Bool → List Bool} {r s : Nat → Nat → Prop}

theorem congr (h : Follows size f r) (hrs : ∀ i j, i ≤ size → (r i j ↔ s i j)) : Follows size f s := by
  refine ⟨h.length, fun {places} j hlength => ?_⟩
  rw [h.at_iff j hlength]
  exact exists_congr fun i => and_congr_right fun hi => hrs i j (hi.le hlength)

theorem id : Follows size (fun places => places) (fun i j => i = j) :=
  ⟨fun h => h, fun j _ => ⟨fun h => ⟨j, h, rfl⟩, fun ⟨_, hi, hij⟩ => hij ▸ hi⟩⟩

theorem comp (hf : Follows size f r) (hg : Follows size g s) :
    Follows size (fun places => g (f places)) (fun i j => ∃ k, r i k ∧ s k j) := by
  refine ⟨fun h => hg.length (hf.length h), fun {places} j hlength => ?_⟩
  rw [hg.at_iff j (hf.length hlength)]
  constructor
  · rintro ⟨k, hk, hs⟩
    obtain ⟨i, hi, hr⟩ := (hf.at_iff k hlength).mp hk
    exact ⟨i, hi, k, hr, hs⟩
  · rintro ⟨i, hi, k, hr, hs⟩
    exact ⟨k, (hf.at_iff k hlength).mpr ⟨i, hi, hr⟩, hs⟩

theorem join (hf : Follows size f r) (hg : Follows size g s) :
    Follows size (fun places => Pattern.join (f places) (g places)) (fun i j => r i j ∨ s i j) := by
  have hsame {places : List Bool} (hlength : places.length = size + 1) :
      (f places).length = (g places).length := (hf.length hlength).trans (hg.length hlength).symm
  refine ⟨fun h => (length_join (hsame h)).trans (hf.length h), fun {places} j hlength => ?_⟩
  rw [at_join_iff (hsame hlength), hf.at_iff j hlength, hg.at_iff j hlength, ← exists_or]
  exact exists_congr fun i => and_or_left.symm

theorem iterate (hf : Follows size f r) (n : Nat) :
    Follows size (Pattern.iterate f n) (Steps r n) := by
  induction n with
  | zero => exact id
  | succ n ih =>
    have hfirst : Pattern.iterate f (n + 1) = fun places => Pattern.iterate f n (f places) :=
      funext (iterate_succ f n)
    rw [hfirst]
    exact hf.comp ih

end Follows

-- Both the repetitions that are needed and those that are allowed are cut short where there are more of
-- them than places.
theorem exists_cut_iff {size least : Nat} {most : Option Nat} {p : Nat → Prop}
    (hcut : ∀ n, p (min (size + 1) n) ↔ p n) :
    (∃ m ≤ most.elim (size + 1) (fun m => min (size + 1) (m - least)), p (min (size + 1) least + m)) ↔
      ∃ n, least ≤ n ∧ (∀ m ∈ most, n ≤ max least m) ∧ p n := by
  have hsame {a b : Nat} (hab : min (size + 1) a = min (size + 1) b) : p a ↔ p b := by
    rw [← hcut a, ← hcut b, hab]
  constructor
  · rintro ⟨m, hm, h⟩
    refine ⟨least + m, Nat.le_add_right least m, ?_, (hsame (by omega)).mp h⟩
    rintro k rfl
    rw [Option.elim_some] at hm
    omega
  · rintro ⟨n, hleast, hmost, h⟩
    refine ⟨min (size + 1) (n - least), ?_, (hsame (by omega)).mpr h⟩
    cases most with
    | none => exact Nat.min_le_left _ _
    | some k =>
      have hk := hmost k rfl
      rw [Option.elim_some]
      omega

end Places

section Reaching

variable {text : List Char}

theorem getElem?_neighbours (before : Option Char) (text : List Char) {i : Nat} (hi : i ≤ text.length) :
    (neighbours before text)[i]? = some (if i = 0 then before else charBefore text i, text[i]?) := by
  induction text generalizing before i with
  | nil =>
    obtain rfl := Nat.le_zero.mp hi
    rfl
  | cons c rest ih =>
    cases i with
    | zero => rfl
    | succ i =>
      rw [List.length_cons] at hi
      rw [neighbours, List.getElem?_cons_succ, ih (some c) (by omega)]
      cases i <;> rfl

theorem length_neighbours (before : Option Char) (text : List Char) :
    (neighbours before text).length = text.length + 1 := by
  induction text generalizing before with
  | nil => rfl
  | cons c rest ih => rw [neighbours, List.length_cons, ih, List.length_cons]

theorem follows_advance (chars : CharClass) (text : List Char) :
    Follows text.length (advance chars text) ((Expr.oneOf chars).Spans text) := by
  constructor
  · intro places hlength
    rw [advance, List.length_cons, List.length_zipWith, hlength, Nat.min_eq_right (Nat.le_succ _)]
  · intro places j hlength
    cases j with
    | zero =>
      constructor
      · rintro ⟨⟩
      · rintro ⟨i, -, hj, -⟩
        cases hj
    | succ j =>
      rw [At, advance, List.getElem?_cons_succ, List.getElem?_zipWith_eq_some]
      constructor
      · rintro ⟨here, c, hhere, hc, h⟩
        rw [Bool.and_eq_true] at h
        obtain ⟨rfl, hmem⟩ := h
        exact ⟨j, hhere, rfl, c, hc, hmem⟩
      · rintro ⟨i, hi, hj, c, hc, hmem⟩
        cases hj
        exact ⟨true, c, hi, hc, by rw [hmem, Bool.and_true]⟩

theorem follows_look (condition : Look) (text : List Char) :
    Follows text.length ((Expr.look condition).reach text) ((Expr.look condition).Spans text) := by
  have haround {i : Nat} (hi : i ≤ text.length) :
      (neighbours none text)[i]? = some (charBefore text i, text[i]?) := by
    rw [getElem?_neighbours none text hi]
    cases i <;> rfl
  constructor
  · intro places hlength
    rw [Expr.reach, List.length_zipWith, hlength, length_neighbours, Nat.min_self]
  · intro places j hlength
    rw [At, Expr.reach, List.getElem?_zipWith_eq_some]
    constructor
    · rintro ⟨here, around, hhere, hj, h⟩
      rw [Bool.and_eq_true] at h
      obtain ⟨rfl, hholds⟩ := h
      rw [haround (At.le hhere hlength)] at hj
      cases hj
      exact ⟨j, hhere, rfl, hholds⟩
    · rintro ⟨i, hi, rfl, hholds⟩
      exact ⟨true, _, hi, haround (hi.le hlength), by rw [hholds, Bool.and_true]⟩

theorem Expr.follows_reach (text : List Char) (e : Expr) :
    Follows text.length (e.reach text) (e.Spans text) := by
  induction e with
  | empty => exact .id
  | oneOf chars => exact follows_advance chars text
  | look condition => exact follows_look condition text
  | seq first second ihFirst ihSecond => exact ihFirst.comp ihSecond
  | either left right ihLeft ihRight => exact ihLeft.join ihRight
  | repeated body least most ih =>
    have hfollows := (ih.iterate (min (text.length + 1) least)).comp
      ((Follows.id.join ih).iterate (most.elim (text.length + 1)
        fun m => min (text.length + 1) (m - least)))
    have hreach : (repeated body least most).reach text = fun places =>
        iterate (fun p => join p (body.reach text p))
          (most.elim (text.length + 1) fun m => min (text.length + 1) (m - least))
          (iterate (body.reach text) (min (text.length + 1) least) places) := by
      funext places
      cases most <;> rfl
    rw [hreach]
    refine hfollows.congr fun i j hi => ?_
    simp only [steps_or_eq_iff]
    have hmin (n : Nat) := @steps_min_iff _ _ i j (body.forward_spans text) hi n
    rw [Spans, ← @exists_cut_iff _ _ _ (fun n => Steps (body.Spans text) n i j) hmin]
    constructor
    · rintro ⟨k, hneeded, m, hm, hallowed⟩
      exact ⟨m, hm, hneeded.trans hallowed⟩
    · rintro ⟨m, hm, hsteps⟩
      obtain ⟨k, hneeded, hallowed⟩ := hsteps.split
      exact ⟨k, hneeded, m, hm, hallowed⟩

-- Somewhere in the text there is a match.
theorem Expr.findsIn_iff (text : List Char) (e : Expr) :
    e.findsIn text = true ↔ ∃ i j, i ≤ text.length ∧ e.Spans text i j := by
  have hlength : (List.replicate (text.length + 1) true).length = text.length + 1 :=
    List.length_replicate
  have hany : e.findsIn text = true ↔ ∃ j, At (e.reach text (List.replicate (text.length + 1) true)) j := by
    rw [findsIn, List.any_eq_true]
    constructor
    · rintro ⟨_, hmem, rfl⟩
      exact List.mem_iff_getElem?.mp hmem
    · rintro ⟨j, hj⟩
      exact ⟨true, List.mem_iff_getElem?.mpr ⟨j, hj⟩, rfl⟩
  rw [hany]
  constructor
  · rintro ⟨j, hj⟩
    obtain ⟨i, hi, hspans⟩ := ((e.follows_reach text).at_iff j hlength).mp hj
    exact ⟨i, j, hi.le hlength, hspans⟩
  · rintro ⟨i, j, hi, hspans⟩
    exact ⟨j, ((e.follows_reach text).at_iff j hlength).mpr
      ⟨i, At.replicate_iff.mpr (Nat.lt_succ_of_le hi), hspans⟩⟩

theorem holds_textStart_iff {text : List Char} {i : Nat} (hi : i ≤ text.length) :
    Look.textStart.holds (charBefore text i) text[i]? = true ↔ i = 0 := by
  cases i with
  | zero => exact ⟨fun _ => rfl, fun _ => rfl⟩
  | succ i =>
    rw [Look.holds, charBefore, List.getElem?_eq_getElem hi]
    exact ⟨fun h => (by cases h), fun h => (by cases h)⟩

theorem holds_textEnd_iff {text : List Char} {j : Nat} (hj : j ≤ text.length) (before : Option Char) :
    Look.textEnd.holds before text[j]? = true ↔ j = text.length := by
  rw [Look.holds, Option.isNone_iff_eq_none, List.getElem?_eq_none_iff]
  omega

-- Between the two anchors an expression matches the whole text.
theorem Expr.findsIn_anchored_iff (text : List Char) (e : Expr) :
    (Expr.seq (.seq (.look .textStart) e) (.look .textEnd)).findsIn text = true ↔
      e.Spans text 0 text.length := by
  rw [findsIn_iff]
  constructor
  · rintro ⟨i, j, hi, k, ⟨start, ⟨rfl, hstart⟩, hspans⟩, rfl, hend⟩
    obtain rfl := (holds_textStart_iff hi).mp hstart
    rw [(holds_textEnd_iff ((e.forward_spans text).bound hspans hi) _).mp hend] at hspans
    exact hspans
  · intro hspans
    exact ⟨0, text.length, Nat.zero_le _, text.length,
      ⟨0, ⟨rfl, (holds_textStart_iff (Nat.zero_le _)).mpr rfl⟩, hspans⟩, rfl,
      (holds_textEnd_iff (Nat.le_refl _) _).mpr rfl⟩

end Reaching

end Targeting.Pattern
