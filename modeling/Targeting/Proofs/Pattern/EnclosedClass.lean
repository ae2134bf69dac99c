import Mathlib
import Targeting.Pattern.Class
import Targeting.Proofs.Pattern.Enclosed

namespace Targeting.Pattern

section Ahead

-- What is only looked at does not depend on the closing.
variable {flags : Flags} {cs : List Char}

theorem isBlank_closing : Unicode.isBlank ')' = false := by decide +kernel

theorem head?_closing (cs : List Char) : (cs ++ closing).head? = cs.head?.or (some ')') := by
  cases cs <;> rfl

theorem Flags.peekNext_closing (hne : cs ≠ []) :
    flags.peekNext (cs ++ closing) = (flags.peekNext cs).or (some ')') := by
  obtain ⟨c, more, rfl⟩ := List.exists_cons_of_ne_nil hne
  rw [peekNext, peekNext]
  simp only [List.cons_append, List.drop_one, List.tail_cons, dropWhile_closing isBlank_closing]
  split
  · generalize more.dropWhile Unicode.isBlank = next
    cases next with
    | nil => rfl
    | cons d next =>
      rw [List.cons_append]
      split
      next rest heq =>
        cases heq
        rw [dropWhile_closing isBlank_closing, head?_closing]
        rfl
      next hnumber =>
        split
        next heq =>
          cases heq
          exact absurd rfl (hnumber _)
        next => rfl
  · exact head?_closing more

theorem rangeFollows_closing (hne : cs ≠ []) :
    rangeFollows flags (cs ++ closing) = rangeFollows flags cs := by
  rw [rangeFollows, rangeFollows, flags.peekNext_closing hne, head?_closing]
  obtain ⟨c, more, rfl⟩ := List.exists_cons_of_ne_nil hne
  cases flags.peekNext (c :: more) <;> rfl

theorem two_of_append_closing {c d : Char} {rest : List Char} (hc : c ≠ ')') (hd : d ≠ ')')
    (h : cs ++ closing = c :: d :: rest) : ∃ more, cs = c :: d :: more := by
  match cs with
  | [] =>
    cases h
    exact absurd rfl hc
  | [_] =>
    cases h
    exact absurd rfl hd
  | _ :: _ :: more =>
    cases h
    exact ⟨more, rfl⟩

theorem readOperator?_closing (cs : List Char) :
    readOperator? (cs ++ closing) = (readOperator? cs).map fun e => (e.1, e.2 ++ closing) := by
  rw [readOperator?.eq_def cs]
  split
  next => rfl
  next => rfl
  next => rfl
  next hinter hdiff hsymm =>
    unfold readOperator?
    split
    next heq =>
      obtain ⟨more, rfl⟩ := two_of_append_closing (by decide) (by decide) heq
      exact absurd rfl (hinter more)
    next heq =>
      obtain ⟨more, rfl⟩ := two_of_append_closing (by decide) (by decide) heq
      exact absurd rfl (hdiff more)
    next heq =>
      obtain ⟨more, rfl⟩ := two_of_append_closing (by decide) (by decide) heq
      exact absurd rfl (hsymm more)
    next => rfl

theorem takeWhile_closing {p : Char → Bool} (hne : cs.dropWhile p ≠ []) :
    (cs ++ closing).takeWhile p = cs.takeWhile p := by
  induction cs with
  | nil => exact absurd rfl hne
  | cons c cs ih =>
    rw [List.cons_append, List.takeWhile_cons, List.takeWhile_cons]
    rw [List.dropWhile_cons] at hne
    split
    next hc => rw [ih (by rwa [if_pos hc] at hne)]
    next => rfl

-- The name of a class stops at a colon, which the closing does not have.
theorem readPosixName?_closing (cs : List Char) :
    readPosixName? (cs ++ closing) = (readPosixName? cs).map fun e => (e.1, e.2 ++ closing) := by
  rw [readPosixName?, readPosixName?, List.dropWhile_append]
  cases hcolon : cs.dropWhile (· != ':') with
  | nil => rfl
  | cons d more =>
    have htake := takeWhile_closing (List.ne_nil_of_length_pos (by rw [hcolon]; simp) :
      cs.dropWhile (· != ':') ≠ [])
    rw [if_neg (by simp), htake]
    split
    next heq =>
      obtain ⟨after, hafter⟩ := two_of_append_closing (by decide) (by decide) heq
      rw [hafter] at heq ⊢
      cases heq
      cases CharClass.posix? _ <;> rfl
    next hname =>
      split
      next after heq =>
        rw [heq] at hname
        exact absurd rfl (hname (after ++ closing))
      next => rfl

theorem posixNegation_closing (cs : List Char) :
    posixNegation (cs ++ closing) = ((posixNegation cs).1, (posixNegation cs).2 ++ closing) := by
  cases cs with
  | nil => rfl
  | cons c cs =>
    by_cases hc : c = '^'
    · subst hc
      rfl
    · have hother (more : List Char) : posixNegation (c :: more) = (false, c :: more) := by
        unfold posixNegation
        split
        next heq => cases heq; exact absurd rfl hc
        next => rfl
      rw [List.cons_append, hother, hother, List.cons_append]

theorem readPosix?_closing (cs : List Char) :
    readPosix? (cs ++ closing)
      = (readPosix? cs).map fun e => (e.1, e.2.1, e.2.2 ++ closing) := by
  cases cs with
  | nil => rfl
  | cons c cs =>
    by_cases hc : c = ':'
    · subst hc
      rw [List.cons_append, readPosix?, readPosix?, posixNegation_closing, readPosixName?_closing,
        Option.map_map, Option.map_map]
      rfl
    · have hother (more : List Char) : readPosix? (c :: more) = none := by
        unfold readPosix?
        split
        next heq => cases heq; exact absurd rfl hc
        next => rfl
      rw [List.cons_append, hother, hother, Option.map_none]

end Ahead

-- Inside a class its end is still to come, so the readers of its parts matter only where they leave
-- something.
section Parts

variable {flags : Flags} {cs rest : List Char}

theorem enclosed_readHyphens {fuel : Nat} {m n : Members}
    (h : readHyphens flags fuel m cs = some (n, rest)) :
    Enclosed cs rest fun cs' rest' => ∀ enough, cs'.length < enough → rest' ≠ [] →
      readHyphens flags enough m cs' = some (n, rest') := by
  induction fuel generalizing m cs with
  | zero => cases h
  | succ fuel ih =>
    refine .fueled ?_
    cases cs with
    | nil => cases h
    | cons c more =>
      rw [readHyphens] at h
      split at h
      next hhyphen =>
        refine ((Enclosed.cons c more).trans ((flags.enclosed_skip more).trans (ih h))).imp ?_
        rintro _ rest' ⟨more', -, rfl, mid, -, rfl, hread⟩ enough henough hne
        rw [List.length_cons] at henough
        have hle := flags.length_skip_le more'
        rw [readHyphens, if_pos hhyphen]
        exact hread _ (by omega) hne
      next hhyphen =>
        cases h
        refine .same fun cs' hcs enough henough hne => ?_
        obtain ⟨d, more', rfl⟩ := List.exists_cons_of_ne_nil hne
        cases hcs
        rw [readHyphens, if_neg hhyphen]

theorem enclosed_readNegation (cs : List Char) :
    Enclosed cs (readNegation flags cs).2 fun cs' rest' =>
      readNegation flags cs' = ((readNegation flags cs).1, rest') := by
  rw [readNegation]
  split
  next hhead =>
    obtain ⟨more, rfl⟩ : ∃ more, cs = '^' :: more := by
      cases cs with
      | nil => cases hhead
      | cons c more => exact ⟨more, by rw [Option.some.inj (eq_of_beq hhead)]⟩
    refine ((Enclosed.cons _ more).trans (flags.enclosed_skip more)).imp ?_
    rintro _ rest' ⟨more', -, rfl, rfl⟩
    rfl
  next hhead =>
    refine .same fun cs' hcs => ?_
    rw [hcs, head?_closing] at hhead
    rw [readNegation, if_neg]
    intro hcaret
    rw [eq_of_beq hcaret] at hhead
    exact hhead rfl

theorem enclosed_readFirstBracket {m n : Members}
    (h : readFirstBracket flags m cs = some (n, rest)) :
    Enclosed cs rest fun cs' rest' =>
      rest' ≠ [] → readFirstBracket flags m cs' = some (n, rest') := by
  unfold readFirstBracket at h
  split at h
  next more =>
    split at h
    next hcount =>
      split at h
      next => cases h
      next hmore =>
        cases h
        refine ((Enclosed.cons _ more).trans (flags.enclosed_skip more)).imp ?_
        rintro _ rest' ⟨more', -, rfl, rfl⟩ hne
        rw [readFirstBracket, if_pos hcount, if_neg (by simpa using hne)]
    next hcount =>
      cases h
      refine .same fun cs' hcs hne => ?_
      obtain ⟨d, more', rfl⟩ := List.exists_cons_of_ne_nil hne
      cases hcs
      rw [readFirstBracket, if_neg hcount]
  next hbracket =>
    cases h
    refine .same fun cs' hcs hne => ?_
    unfold readFirstBracket
    split
    next more' => exact absurd hcs (hbracket (more' ++ closing))
    next => rfl

theorem enclosed_readClassStart {negated : Bool} {m : Members}
    (h : readClassStart flags cs = some (negated, m, rest)) :
    Enclosed cs rest fun cs' rest' =>
      rest' ≠ [] → readClassStart flags cs' = some (negated, m, rest') := by
  rw [readClassStart] at h
  dsimp only at h
  obtain ⟨⟨n, more⟩, hhyphens, h⟩ := Option.bind_eq_some_iff.mp h
  obtain ⟨⟨m, rest⟩, hbracket, h⟩ := Option.map_eq_some_iff.mp h
  cases h
  refine ((flags.enclosed_skip cs).trans ((enclosed_readNegation _).trans
    ((enclosed_readHyphens hhyphens).trans (enclosed_readFirstBracket hbracket)))).imp ?_
  rintro cs' rest' ⟨_, -, rfl, inner', -, hnegation', more', -, hhyphens', hbracket'⟩ hne
  have hbracket' := hbracket' hne
  have hmore' : more' ≠ [] := by
    rintro rfl
    exact hne (List.suffix_nil.mp (enclosed_readFirstBracket hbracket').suffix)
  rw [readClassStart]
  simp only [hnegation', hhyphens' _ (Nat.lt_succ_self _) hmore', Option.bind_eq_bind,
    Option.bind_some, hbracket', Option.map_some]

theorem classMember?_look (condition : Look) : classMember? flags (.look condition) = none := rfl

theorem classRange?_look_left (condition : Look) (e : Escape) :
    classRange? flags (.look condition) e = none := rfl

theorem classRange?_look_right (condition : Look) (e : Escape) :
    classRange? flags e (.look condition) = none := by cases e <;> rfl

variable [Engine]

theorem enclosed_readClassAtom {e : Escape} (h : readClassAtom flags cs = some (e, rest)) :
    Enclosed cs rest fun cs' rest' => readClassAtom flags cs' = some (e, rest') ∨
      ∃ condition, e = .look condition := by
  unfold readClassAtom at h
  split at h
  next => cases h
  next more =>
    refine ((Enclosed.cons _ more).trans (enclosed_readEscape h)).imp ?_
    rintro _ rest' ⟨more', -, rfl, hread' | ⟨hlook, -⟩⟩
    · exact .inl hread'
    · exact .inr hlook
  next c more hbackslash =>
    cases h
    refine (Enclosed.cons c _).imp fun cs' rest' hcs' => .inl ?_
    unfold readClassAtom
    rw [hcs']
    split
    next heq => cases heq
    next heq => cases heq; exact absurd rfl hbackslash
    next heq => cases heq; rfl

theorem enclosed_readClassRange {chars : CharClass}
    (h : readClassRange flags cs = some (chars, rest)) :
    Enclosed cs rest fun cs' rest' =>
      rest' ≠ [] → readClassRange flags cs' = some (chars, rest') := by
  rw [readClassRange] at h
  obtain ⟨⟨atom, more⟩, hatom, h⟩ := Option.bind_eq_some_iff.mp h
  have henclosed := (enclosed_readClassAtom hatom).trans (flags.enclosed_skip more)
  dsimp only at h
  generalize hnext : flags.skip more = next at h henclosed
  split at h
  next => cases h
  next =>
    split at h
    next hrange =>
      obtain ⟨⟨last, after⟩, hlast, h⟩ := Option.bind_eq_some_iff.mp h
      obtain ⟨chars, hchars, h⟩ := Option.map_eq_some_iff.mp h
      cases h
      obtain ⟨second, rfl⟩ : ∃ second, next = '-' :: second := by
        cases next with
        | nil => cases hrange
        | cons c second =>
          rw [rangeFollows, Bool.and_assoc, Bool.and_eq_true, beq_iff_eq, List.head?_cons] at hrange
          exact ⟨second, by rw [Option.some.inj hrange.1]⟩
      refine (henclosed.trans ((Enclosed.cons _ second).trans ((flags.enclosed_skip second).trans
        (enclosed_readClassAtom hlast)))).imp ?_
      rintro cs' rest' ⟨next', hnext', ⟨more', -, hatom', hskip'⟩, second', -, rfl, _, -, rfl, hlast'⟩
        hne
      rcases hatom' with hatom' | ⟨condition, rfl⟩
      · rcases hlast' with hlast' | ⟨condition, rfl⟩
        · rw [hnext', rangeFollows_closing (by simp)] at hrange
          rw [readClassRange, hatom']
          simp only [Option.bind_eq_bind, Option.bind_some, hskip', List.isEmpty_cons, hrange, if_true]
          rw [Flags.next, List.drop_one, List.tail_cons, hlast']
          simp only [Bool.false_eq_true, if_false, Option.bind_some, hchars, Option.map_some]
        · rw [classRange?_look_right] at hchars
          cases hchars
      · rw [classRange?_look_left] at hchars
        cases hchars
    next hrange =>
      obtain ⟨chars, hchars, h⟩ := Option.map_eq_some_iff.mp h
      cases h
      refine henclosed.imp_of_eq ?_
      rintro cs' rest' hrest' ⟨more', -, hatom', hskip'⟩ hne
      rcases hatom' with hatom' | ⟨condition, rfl⟩
      · rw [hrest', rangeFollows_closing hne] at hrange
        have hempty : rest'.isEmpty = false := by simpa using hne
        rw [readClassRange, hatom']
        simp only [Option.bind_eq_bind, Option.bind_some, hskip', hempty, hrange, hchars,
          Option.map_some]
        rfl
      · rw [classMember?_look] at hchars
        cases hchars

end Parts

section Classes

variable {flags : Flags} {cs rest : List Char}

theorem enclosed_readPosix? {negated : Bool} {named : CharClass}
    (h : readPosix? cs = some (negated, named, rest)) :
    Enclosed cs rest fun cs' rest' => readPosix? cs' = some (negated, named, rest') := by
  refine ⟨?_, fun cs' rest' hcs hrest => ?_⟩
  · unfold readPosix? at h
    split at h
    next more =>
      obtain ⟨⟨chars, after⟩, hname, h⟩ := Option.map_eq_some_iff.mp h
      cases h
      have hnegation : (posixNegation more).2 <:+ more := by
        unfold posixNegation
        split
        · exact List.suffix_cons _ _
        · exact List.suffix_rfl
      have hafter : rest <:+ (posixNegation more).2 := by
        rw [readPosixName?] at hname
        split at hname
        next heq =>
          obtain ⟨_, -, h⟩ := Option.map_eq_some_iff.mp hname
          cases h
          have hdrop := List.dropWhile_suffix (l := (posixNegation more).2) (· != ':')
          rw [heq] at hdrop
          exact ((List.suffix_cons _ _).trans (List.suffix_cons _ _)).trans hdrop
        next => cases hname
      exact (hafter.trans hnegation).trans (List.suffix_cons _ _)
    next => cases h
  · rw [hcs, readPosix?_closing] at h
    obtain ⟨⟨_, _, after⟩, hread, h⟩ := Option.map_eq_some_iff.mp h
    simp only [Prod.mk.injEq] at h
    obtain ⟨rfl, rfl, hafter⟩ := h
    rw [hread, List.append_cancel_right (hafter.trans hrest)]

theorem enclosed_readOperator? {operator : SetOperator}
    (h : readOperator? cs = some (operator, rest)) :
    Enclosed cs rest fun cs' rest' => readOperator? cs' = some (operator, rest') := by
  refine ⟨?_, fun cs' rest' hcs hrest => ?_⟩
  · unfold readOperator? at h
    split at h
    all_goals cases h
    all_goals exact (List.suffix_cons _ _).trans (List.suffix_cons _ _)
  · rw [hcs, readOperator?_closing] at h
    obtain ⟨⟨_, after⟩, hread, h⟩ := Option.map_eq_some_iff.mp h
    simp only [Prod.mk.injEq] at h
    obtain ⟨rfl, hafter⟩ := h
    rw [hread, List.append_cancel_right (hafter.trans hrest)]

theorem length_lt_of_readOperator? {operator : SetOperator}
    (h : readOperator? cs = some (operator, rest)) : rest.length < cs.length := by
  unfold readOperator? at h
  split at h
  all_goals cases h
  all_goals simp only [List.length_cons]; omega

variable [Engine]

theorem length_lt_of_readClassAtom {e : Escape} (h : readClassAtom flags cs = some (e, rest)) :
    rest.length < cs.length := by
  unfold readClassAtom at h
  split at h
  next => cases h
  next more => exact Nat.lt_succ_of_le (enclosed_readEscape h).length_le
  next c more _ =>
    cases h
    exact Nat.lt_succ_self _

theorem length_lt_of_readClassRange {chars : CharClass}
    (h : readClassRange flags cs = some (chars, rest)) : rest.length < cs.length := by
  rw [readClassRange] at h
  obtain ⟨⟨atom, more⟩, hatom, h⟩ := Option.bind_eq_some_iff.mp h
  have hmore := length_lt_of_readClassAtom hatom
  have hskip := flags.length_skip_le more
  dsimp only at h
  split at h
  next => cases h
  next =>
    split at h
    next =>
      obtain ⟨⟨last, after⟩, hlast, h⟩ := Option.bind_eq_some_iff.mp h
      obtain ⟨_, -, h⟩ := Option.map_eq_some_iff.mp h
      cases h
      have hafter := length_lt_of_readClassAtom hlast
      have hdrop := flags.length_skip_le ((flags.skip more).drop 1)
      rw [List.length_drop] at hdrop
      rw [Flags.next] at hafter
      dsimp only
      omega
    next =>
      obtain ⟨_, -, h⟩ := Option.map_eq_some_iff.mp h
      cases h
      omega

end Classes

variable [Engine]

-- A class is read alike where the closing does not follow it, with fuel for every character.
def EnclosedClass (flags : Flags) (negated : Bool) (left : Option LeftSide) (m : Members)
    (cs : List Char) (value : CharClass × Nat) (rest : List Char) : Prop :=
  Enclosed cs rest fun cs' rest' => ∀ enough, cs'.length < enough →
    readClass flags negated enough left m cs' = some (value, rest')

-- One rule for each way in which a class goes on.
namespace EnclosedClass

variable {flags : Flags} {negated : Bool} {left : Option LeftSide} {m : Members}
  {cs more inside rest : List Char} {chars : CharClass} {value : CharClass × Nat}

theorem close (hskip : flags.skip cs = ']' :: rest)
    (hchars : flags.allow? (.negated negated (flags.fold (combine flags left m).1)) = some chars) :
    EnclosedClass flags negated left m cs (chars, (combine flags left m).2 + 1) rest := by
  refine .fueled ((flags.enclosed_skip_cons hskip).imp fun cs' rest' hskip' enough henough => ?_)
  rw [readClass]
  simp only [hskip', hchars, Option.map_some]

theorem posix {negatedName : Bool} {named : CharClass} (hskip : flags.skip cs = '[' :: more)
    (hposix : readPosix? more = some (negatedName, named, inside))
    (hchars : flags.allow? (.negated negatedName (flags.fold named)) = some chars)
    (h : EnclosedClass flags negated left (m.add chars 0) inside value rest) :
    EnclosedClass flags negated left m cs value rest := by
  refine .fueled (((flags.enclosed_skip_cons hskip).trans
    ((enclosed_readPosix? hposix).trans h)).imp ?_)
  rintro cs' rest' ⟨more', -, hskip', after', -, hposix', hread'⟩ enough henough
  have hmore := flags.length_lt_of_skip hskip'
  have hafter := (enclosed_readPosix? hposix').length_le
  rw [readClass]
  simp only [hskip', hposix', hchars, Option.bind_eq_bind, Option.bind_some]
  exact hread' _ (by omega)

theorem nested {negatedInner : Bool} {first : Members} {depth : Nat} {after : List Char}
    (hskip : flags.skip cs = '[' :: more) (hposix : readPosix? more = none)
    (hstart : readClassStart flags more = some (negatedInner, first, inside))
    (hinner : EnclosedClass flags negatedInner none first inside (chars, depth) after)
    (h : EnclosedClass flags negated left (m.add chars depth) after value rest) :
    EnclosedClass flags negated left m cs value rest := by
  refine .fueled (((flags.enclosed_skip_cons hskip).trans ((enclosed_readClassStart hstart).trans
    (hinner.trans h))).imp ?_)
  rintro cs' rest' ⟨more', hmore', hskip', inner', hinside, hstart', after', houtside, hinner', hread'⟩
    enough henough
  have hposix' : readPosix? more' = none := by
    rwa [hmore', readPosix?_closing, Option.map_eq_none_iff] at hposix
  have hstart' := hstart' (ne_nil_of_readClass (hinner' _ (Nat.lt_succ_self _)))
  have hmore := flags.length_lt_of_skip hskip'
  have hinnerLength := (enclosed_readClassStart hstart').length_le
  have hafterLength := hinner.length_le
  rw [hinside, houtside, List.length_append, List.length_append, Nat.add_le_add_iff_right]
    at hafterLength
  rw [readClass]
  simp only [hskip', hposix', hstart', hinner' enough (by omega), Option.bind_eq_bind,
    Option.bind_some]
  exact hread' _ (by omega)

section Members

variable {c : Char} (hskip : flags.skip cs = c :: more) (hclose : c ≠ ']') (hopen : c ≠ '[')

include hskip hclose hopen

theorem operator {operator : SetOperator}
    (hoperator : readOperator? (c :: more) = some (operator, inside))
    (h : EnclosedClass flags negated
      (some ⟨operator, (combine flags left m).1, (combine flags left m).2⟩) .none inside value rest) :
    EnclosedClass flags negated left m cs value rest := by
  have henclosed := flags.enclosed_skip cs
  rw [hskip] at henclosed
  refine .fueled ((henclosed.trans ((enclosed_readOperator? hoperator).trans h)).imp ?_)
  rintro cs' rest' ⟨next', hnext', hskip', after', -, hoperator', hread'⟩ enough henough
  have hlength := length_lt_of_readOperator? hoperator'
  obtain ⟨more', rfl⟩ := cons_of_length_lt hlength hnext'
  have hlt := flags.length_lt_of_skip hskip'
  rw [List.length_cons] at hlength
  rw [readClass_other hskip' hclose hopen, hoperator']
  exact hread' _ (by omega)

theorem range (hoperator : readOperator? (c :: more) = none)
    (hrange : readClassRange flags (c :: more) = some (chars, inside))
    (h : EnclosedClass flags negated left (m.add chars 0) inside value rest) :
    EnclosedClass flags negated left m cs value rest := by
  have henclosed := flags.enclosed_skip cs
  rw [hskip] at henclosed
  refine .fueled ((henclosed.trans ((enclosed_readClassRange hrange).trans h)).imp ?_)
  rintro cs' rest' ⟨next', hnext', hskip', after', -, hrange', hread'⟩ enough henough
  have hrange' := hrange' (ne_nil_of_readClass (hread' _ (Nat.lt_succ_self _)))
  have hlength := length_lt_of_readClassRange hrange'
  have hoperator' : readOperator? next' = none := by
    rwa [hnext', readOperator?_closing, Option.map_eq_none_iff] at hoperator
  obtain ⟨more', rfl⟩ := cons_of_length_lt hlength hnext'
  have hlt := flags.length_lt_of_skip hskip'
  rw [List.length_cons] at hlength
  rw [readClass_other hskip' hclose hopen, hoperator']
  simp only [hrange', Option.bind_some]
  exact hread' _ (by omega)

end Members

end EnclosedClass

theorem enclosed_readClass {flags : Flags} {negated : Bool} {fuel : Nat} {left : Option LeftSide}
    {m : Members} {cs rest : List Char} {value : CharClass × Nat}
    (h : readClass flags negated fuel left m cs = some (value, rest)) :
    EnclosedClass flags negated left m cs value rest := by
  induction fuel generalizing negated left m cs value rest with
  | zero => cases h
  | succ fuel ih =>
    rw [readClass] at h
    dsimp only at h
    split at h
    next => cases h
    next more hskip =>
      obtain ⟨chars, hchars, h⟩ := Option.map_eq_some_iff.mp h
      cases h
      exact .close hskip hchars
    next more hskip =>
      split at h
      next negatedName named inside hposix =>
        obtain ⟨chars, hchars, h⟩ := Option.bind_eq_some_iff.mp h
        exact .posix hskip hposix hchars (ih h)
      next hposix =>
        obtain ⟨⟨negatedInner, first, inside⟩, hstart, h⟩ := Option.bind_eq_some_iff.mp h
        obtain ⟨⟨⟨chars, depth⟩, after⟩, hinner, h⟩ := Option.bind_eq_some_iff.mp h
        exact .nested hskip hposix hstart (ih hinner) (ih h)
    next hnil hclose hopen =>
      obtain ⟨c, more, hskip⟩ := List.exists_cons_of_ne_nil hnil
      have hnotClose : c ≠ ']' := fun hc => hclose more (by rw [hskip, hc])
      have hnotOpen : c ≠ '[' := fun hc => hopen more (by rw [hskip, hc])
      rw [hskip] at h
      split at h
      next operator inside hoperator =>
        exact .operator hskip hnotClose hnotOpen hoperator (ih h)
      next hoperator =>
        obtain ⟨⟨chars, inside⟩, hrange, h⟩ := Option.bind_eq_some_iff.mp h
        exact .range hskip hnotClose hnotOpen hoperator hrange (ih h)

end Targeting.Pattern
