import Mathlib
import Targeting.Pattern.Reader
import Targeting.Proofs.Pattern.EnclosedClass

namespace Targeting.Pattern

section Bounds

variable {flags : Flags} {cs rest : List Char}

theorem enclosed_skipLazy (cs : List Char) :
    Enclosed cs (skipLazy cs) fun cs' rest' => skipLazy cs' = rest' := by
  unfold skipLazy
  split
  next more =>
    refine (Enclosed.cons _ more).imp ?_
    rintro _ rest' rfl
    rfl
  next hlazy =>
    refine .same fun cs' hcs => ?_
    split
    next more => exact absurd hcs (hlazy _)
    next => rfl

theorem enclosed_skipDigits {fuel : Nat} (read : List Char) (hfuel : cs.length < fuel) :
    Enclosed cs (skipDigits flags fuel read cs).2 fun cs' rest' => ∀ enough, cs'.length < enough →
      skipDigits flags enough read cs' = ((skipDigits flags fuel read cs).1, rest') := by
  induction fuel generalizing read cs with
  | zero => omega
  | succ fuel ih =>
    refine .fueled ?_
    cases cs with
    | nil =>
      refine .same fun cs' hcs => ?_
      exact absurd hcs.symm (append_closing_ne_nil cs')
    | cons c more =>
      rw [List.length_cons] at hfuel
      have hle := flags.length_skip_le more
      rw [skipDigits]
      split
      next hdigit =>
        refine ((Enclosed.cons c more).trans ((flags.enclosed_skip more).trans
          (ih (c :: read) (by omega)))).imp ?_
        rintro _ rest' ⟨more', -, rfl, _, -, rfl, hread⟩ enough henough
        rw [List.length_cons] at henough
        have hle' := flags.length_skip_le more'
        rw [skipDigits]
        simp only [hdigit, if_true]
        exact hread _ (by omega)
      next hdigit =>
        refine .same fun cs' hcs enough henough => ?_
        cases cs' with
        | nil => rfl
        | cons d more' =>
          cases hcs
          rw [skipDigits]
          simp only [hdigit]
          rfl

theorem enclosed_readBound (cs : List Char) :
    Enclosed cs (readBound flags cs).2 fun cs' rest' =>
      readBound flags cs' = ((readBound flags cs).1, rest') := by
  have hdigits := @enclosed_skipDigits flags (cs.dropWhile Unicode.isBlank) _ [] (Nat.lt_succ_self _)
  refine ((Enclosed.dropWhile isBlank_closing cs).trans (hdigits.trans
    ((Enclosed.dropWhile isBlank_closing _).trans (flags.enclosed_skip _)))).imp ?_
  rintro cs' rest' ⟨_, -, rfl, after', -, hread', _, -, rfl, rfl⟩
  rw [readBound]
  simp only [hread' _ (Nat.lt_succ_self _)]
  rfl

theorem enclosed_readMost {least : Nat} {most : Option Nat}
    (h : readMost flags least cs = some (most, rest)) :
    Enclosed cs rest fun cs' rest' => readMost flags least cs' = some (most, rest') := by
  unfold readMost at h
  split at h
  next more =>
    split at h
    next after hskip =>
      cases h
      have henclosed := flags.enclosed_skip more
      rw [hskip] at henclosed
      refine ((Enclosed.cons _ more).trans henclosed).imp_of_eq ?_
      rintro _ rest' hrest' ⟨more', -, rfl, hskip'⟩
      obtain ⟨after', rfl, -⟩ := cons_of_append_closing (by decide) hrest'
      rw [readMost, hskip']
      rfl
    next hbrace =>
      obtain ⟨n, hn, h⟩ := Option.map_eq_some_iff.mp h
      cases h
      refine ((Enclosed.cons _ more).trans ((flags.enclosed_skip more).trans
        (enclosed_readBound _))).imp ?_
      rintro _ rest' ⟨more', -, rfl, next', hnext', hskip', hread'⟩
      rw [readMost, hskip']
      split
      next => exact absurd hnext' (hbrace _)
      next => rw [hread', hn, Option.map_some]
  next hcomma =>
    cases h
    refine .same fun cs' hcs => ?_
    unfold readMost
    split
    next more' => exact absurd hcs (hcomma _)
    next => rfl

theorem enclosed_readBounds {least : Nat} {most : Option Nat}
    (h : readBounds flags cs = some (least, most, rest)) :
    Enclosed cs rest fun cs' rest' => readBounds flags cs' = some (least, most, rest') := by
  rw [readBounds] at h
  obtain ⟨least, hleast, h⟩ := Option.bind_eq_some_iff.mp h
  obtain ⟨⟨most, next⟩, hmost, h⟩ := Option.bind_eq_some_iff.mp h
  dsimp only at h
  split at h
  next after =>
    split at h
    next hordered =>
      cases h
      refine ((flags.enclosed_skip cs).trans ((enclosed_readBound _).trans
        ((enclosed_readMost hmost).trans ((Enclosed.cons _ after).trans
          ((flags.enclosed_skip after).trans (enclosed_skipLazy _)))))).imp ?_
      rintro cs' rest' ⟨_, -, rfl, _, -, hread', _, -, hmost', after', -, rfl, _, -, rfl, rfl⟩
      rw [readBounds, hread']
      simp only [hleast, hmost', hordered, Option.bind_eq_bind, Option.bind_some, if_true]
    next => cases h
  next => cases h

-- A brace that is not finished begins no bounds.
theorem readBounds_of_closing (h : flags.skip cs = closing) : readBounds flags cs = none := by
  have hblank : closing.dropWhile Unicode.isBlank = closing :=
    List.dropWhile_cons_of_neg (by simp [isBlank_closing])
  have hnone : (readBound flags closing).1 = none := by
    rw [readBound, hblank]
    rfl
  rw [readBounds, h, hnone]
  rfl

end Bounds

section Openings

variable {flags : Flags} {cs rest : List Char}

theorem enclosed_readFlags {seen : List Flag} {negating dangling closed : Bool} {result : Flags}
    (h : readFlags seen negating dangling flags cs = some (closed, result, rest)) :
    Enclosed cs rest fun cs' rest' =>
      readFlags seen negating dangling flags cs' = some (closed, result, rest') := by
  induction cs generalizing seen negating dangling flags with
  | nil => cases h
  | cons c more ih =>
    unfold readFlags at h
    split at h
    next heq => cases heq
    next heq =>
      cases heq
      split at h
      next => cases h
      next hdangling =>
        cases h
        refine (Enclosed.cons _ _).imp fun cs' rest' hcs' => ?_
        rw [hcs', readFlags, if_neg hdangling]
    next heq =>
      cases heq
      split at h
      next => cases h
      next hseen =>
        cases h
        refine (Enclosed.cons _ _).imp fun cs' rest' hcs' => ?_
        rw [hcs', readFlags, if_neg hseen]
    next heq =>
      cases heq
      split at h
      next => cases h
      next hnegating =>
        refine ((Enclosed.cons _ more).trans (ih h)).imp ?_
        rintro _ rest' ⟨more', -, rfl, hread'⟩
        rw [readFlags, if_neg hnegating]
        exact hread'
    next hcolon hclose hminus heq =>
      cases heq
      split at h
      next => cases h
      next flag hflag =>
        split at h
        next => cases h
        next hseen =>
          refine ((Enclosed.cons _ more).trans (ih h)).imp ?_
          rintro _ rest' ⟨more', -, rfl, hread'⟩
          have hstep : readFlags seen negating dangling flags (c :: more')
              = readFlags (flag :: seen) negating false (flags.set flag (!negating)) more' := by
            rw [readFlags, hflag]
            simp only [hseen]
            rfl
            all_goals assumption
          rw [hstep, hread']

theorem enclosed_readName {names : List String} {name : String}
    (h : readName names cs = some (name, rest)) :
    Enclosed cs rest fun cs' rest' => readName names cs' = some (name, rest') := by
  rw [readName] at h
  split at h
  next c more _ hname hend =>
    split at h
    next hvalid =>
      cases h
      have hsuffix := List.dropWhile_suffix (l := cs) (· != '>')
      rw [hend] at hsuffix
      refine ⟨(List.suffix_cons _ _).trans hsuffix, fun cs' rest' hcs hrest => ?_⟩
      have hend' : cs'.dropWhile (· != '>') = '>' :: rest' := by
        rw [hcs, List.dropWhile_append] at hend
        split at hend
        next => cases hend
        next =>
          rw [hrest, ← List.cons_append] at hend
          exact List.append_cancel_right hend
      have hname' : cs'.takeWhile (· != '>') = c :: more := by
        rw [hcs, takeWhile_closing (by rw [hend']; simp)] at hname
        exact hname
      rw [readName, hname', hend']
      simp only
      rw [hname] at hvalid
      rw [if_pos hvalid, hname]
    next => cases h
  next => cases h

theorem enclosed_readExtension {names : List String} {opening : Opening}
    (h : readExtension flags names cs = some (opening, rest)) :
    Enclosed cs rest fun cs' rest' => readExtension flags names cs' = some (opening, rest') := by
  unfold readExtension at h
  split at h
  next => cases h
  next => cases h
  next => cases h
  next => cases h
  next more =>
    obtain ⟨⟨name, after⟩, hname, h⟩ := Option.map_eq_some_iff.mp h
    cases h
    refine ((Enclosed.cons _ _).trans ((Enclosed.cons _ more).trans (enclosed_readName hname))).imp ?_
    rintro _ rest' ⟨_, -, rfl, more', -, rfl, hname'⟩
    rw [readExtension, hname', Option.map_some]
  next more hahead hbehind =>
    obtain ⟨⟨name, after⟩, hname, h⟩ := Option.map_eq_some_iff.mp h
    cases h
    refine ((Enclosed.cons _ more).trans (enclosed_readName hname)).imp ?_
    rintro _ rest' ⟨more', hmore', rfl, hname'⟩
    unfold readExtension
    split
    next heq => cases heq
    next heq => cases heq
    next heq => cases heq; exact absurd hmore' (hahead _)
    next heq => cases heq; exact absurd hmore' (hbehind _)
    next heq => cases heq
    next heq => cases heq; rw [hname', Option.map_some]
    next hnamed => exact absurd rfl (hnamed _)
  next hequals hbang hahead hbehind hpnamed hnamed =>
    obtain ⟨⟨closed, inner, after⟩, hflags, h⟩ := Option.map_eq_some_iff.mp h
    cases h
    have henclosed := enclosed_readFlags hflags
    refine ⟨henclosed.suffix, fun cs' rest' hcs hrest => ?_⟩
    unfold readExtension
    split
    next => exact absurd hcs (hequals _)
    next => exact absurd hcs (hbang _)
    next => exact absurd hcs (hahead _)
    next => exact absurd hcs (hbehind _)
    next => exact absurd hcs (hpnamed _)
    next => exact absurd hcs (hnamed _)
    next => rw [henclosed.before cs' rest' hcs hrest, Option.map_some]

theorem enclosed_readOpening {names : List String} {opening : Opening}
    (h : readOpening flags names cs = some (opening, rest)) :
    Enclosed cs rest fun cs' rest' => readOpening flags names cs' = some (opening, rest') := by
  unfold readOpening at h
  split at h
  next more hskip =>
    refine ((flags.enclosed_skip_cons hskip).trans (enclosed_readExtension h)).imp ?_
    rintro cs' rest' ⟨more', -, hskip', hread'⟩
    rw [readOpening, hskip']
    exact hread'
  next hquestion =>
    cases h
    refine (flags.enclosed_skip cs).imp_of_eq fun cs' rest' hrest' hskip' => ?_
    rw [readOpening, hskip']
    split
    next more' => exact absurd hrest' (hquestion _)
    next => rfl

theorem Flags.skip_brace (flags : Flags) (cs : List Char) : flags.skip ('\x7b' :: cs) = '\x7b' :: cs := by
  have hblank : Unicode.isBlank '\x7b' = false := by decide +kernel
  rw [skip, skipSpace, hblank]
  split <;> rfl

end Openings

variable [Engine]

section Bodies

variable {flags : Flags} {cs rest : List Char}

theorem enclosed_readAtom {e : Expr} (h : readAtom flags cs = some (e, rest)) :
    Enclosed cs rest fun cs' rest' =>
      readAtom flags cs' = some (e, rest') ∨ Unfinished flags rest' := by
  unfold readAtom at h
  split at h
  next => cases h
  next more =>
    obtain ⟨⟨escape, after⟩, hescape, h⟩ := Option.bind_eq_some_iff.mp h
    obtain ⟨e, he, h⟩ := Option.map_eq_some_iff.mp h
    cases h
    refine ((Enclosed.cons _ more).trans (enclosed_readEscape hescape)).imp ?_
    rintro _ rest' ⟨more', -, rfl, hescape' | ⟨-, hunfinished⟩⟩
    · refine .inl ?_
      rw [readAtom, hescape']
      simp only [Option.bind_eq_bind, Option.bind_some, he, Option.map_some]
    · exact .inr hunfinished
  next more =>
    obtain ⟨chars, hchars, h⟩ := Option.map_eq_some_iff.mp h
    cases h
    refine (Enclosed.cons _ _).imp fun cs' rest' hcs' => .inl ?_
    rw [hcs', readAtom, hchars, Option.map_some]
  next more =>
    cases h
    refine (Enclosed.cons _ _).imp fun cs' rest' hcs' => .inl ?_
    rw [hcs', readAtom]
  next more =>
    cases h
    refine (Enclosed.cons _ _).imp fun cs' rest' hcs' => .inl ?_
    rw [hcs', readAtom]
  next c more hbackslash hdot hcaret hdollar =>
    obtain ⟨e, he, h⟩ := Option.map_eq_some_iff.mp h
    cases h
    refine (Enclosed.cons _ _).imp fun cs' rest' hcs' => .inl ?_
    rw [hcs', readAtom, he, Option.map_some] <;> assumption

theorem length_lt_of_readAtom {e : Expr} (h : readAtom flags cs = some (e, rest)) :
    rest.length < cs.length := by
  unfold readAtom at h
  split at h
  next => cases h
  next more =>
    obtain ⟨⟨escape, after⟩, hescape, h⟩ := Option.bind_eq_some_iff.mp h
    obtain ⟨e, -, h⟩ := Option.map_eq_some_iff.mp h
    cases h
    exact Nat.lt_succ_of_le (enclosed_readEscape hescape).length_le
  next =>
    obtain ⟨_, -, h⟩ := Option.map_eq_some_iff.mp h
    cases h
    exact Nat.lt_succ_self _
  next => cases h; exact Nat.lt_succ_self _
  next => cases h; exact Nat.lt_succ_self _
  next =>
    obtain ⟨_, -, h⟩ := Option.map_eq_some_iff.mp h
    cases h
    exact Nat.lt_succ_self _

-- A body goes no further than a brace that is not finished.
theorem readBody_unfinished {names : List String} {branches : List Node} {items : List Item}
    (fuel : Nat) (h : Unfinished flags cs) :
    readBody flags names branches items fuel (cs ++ closing) = none := by
  obtain ⟨more, rfl, hmore⟩ := h
  cases fuel with
  | zero => rfl
  | succ fuel =>
    rw [readBody]
    dsimp only
    rw [List.cons_append, flags.skip_brace]
    simp only [readBounds_of_closing hmore]
    rfl

end Bodies

-- A body is read alike where the closing does not follow it, with fuel for every character.
def EnclosedBody (flags : Flags) (names : List String) (branches : List Node) (items : List Item)
    (cs : List Char) (n : Node) (allNames : List String) (rest : List Char) : Prop :=
  Enclosed cs rest fun cs' rest' => ∀ enough, cs'.length < enough →
    readBody flags names branches items enough cs' = some (n, allNames, rest')

-- One rule for each way in which a body goes on.
namespace EnclosedBody

variable {flags : Flags} {names allNames : List String} {branches : List Node} {items : List Item}
  {cs more after rest : List Char} {n : Node}

-- Where the group is closed by what stands after the pattern, the pattern ends.
theorem close (hskip : flags.skip cs = ')' :: rest) :
    EnclosedBody flags names branches items cs
      (if branches.isEmpty then sequence items else alternatives (sequence items :: branches)) names
      (')' :: rest) := by
  have henclosed := flags.enclosed_skip cs
  rw [hskip] at henclosed
  refine .fueled (henclosed.imp_of_eq fun cs' rest' hrest' hskip' enough henough => ?_)
  rw [readBody]
  dsimp only
  rw [hskip']
  cases rest' with
  | nil => rfl
  | cons c more' =>
    cases hrest'
    rfl

theorem bar (hskip : flags.skip cs = '|' :: more)
    (h : EnclosedBody flags names (sequence items :: branches) [] more n allNames rest) :
    EnclosedBody flags names branches items cs n allNames rest := by
  refine .fueled (((flags.enclosed_skip_cons hskip).trans h).imp ?_)
  rintro cs' rest' ⟨more', -, hskip', hread'⟩ enough henough
  have hlt := flags.length_lt_of_skip hskip'
  rw [readBody]
  simp only [hskip']
  exact hread' _ (by omega)

theorem modes {changed : Flags} (hskip : flags.skip cs = '(' :: more)
    (hopening : readOpening flags names more = some (.modes changed, after))
    (h : EnclosedBody changed names branches (.modes :: items) after n allNames rest) :
    EnclosedBody flags names branches items cs n allNames rest := by
  refine .fueled (((flags.enclosed_skip_cons hskip).trans
    ((enclosed_readOpening hopening).trans h)).imp ?_)
  rintro cs' rest' ⟨more', -, hskip', after', -, hopening', hread'⟩ enough henough
  have hlt := flags.length_lt_of_skip hskip'
  have hle := (enclosed_readOpening hopening').length_le
  rw [readBody]
  simp only [hskip', hopening']
  exact hread' _ (by omega)

theorem group {inner : Flags} {innerNames groupNames : List String} {group : Node} {outer : List Char}
    (hskip : flags.skip cs = '(' :: more)
    (hopening : readOpening flags names more = some (.group inner innerNames, after))
    (hgroup : EnclosedBody inner innerNames [] [] after group groupNames (')' :: outer))
    (h : EnclosedBody flags groupNames branches (.node ⟨group.expr, group.depth + 1⟩ :: items) outer n
      allNames rest) :
    EnclosedBody flags names branches items cs n allNames rest := by
  refine .fueled (((flags.enclosed_skip_cons hskip).trans ((enclosed_readOpening hopening).trans
    (hgroup.trans ((Enclosed.cons _ outer).trans h)))).imp ?_)
  rintro cs' rest' ⟨more', -, hskip', after', hafter, hopening', _, houter, hgroup', outer', -, rfl,
    hread'⟩ enough henough
  have hlt := flags.length_lt_of_skip hskip'
  have hle := (enclosed_readOpening hopening').length_le
  have hgroupLength := hgroup.length_le
  rw [houter, hafter, List.length_append, List.length_append, Nat.add_le_add_iff_right,
    List.length_cons] at hgroupLength
  rw [readBody]
  simp only [hskip', hopening', hgroup' enough (by omega)]
  exact hread' _ (by omega)

theorem bracketed {negated : Bool} {first : Members} {chars : CharClass} {depth : Nat}
    {inner : List Char} {fuel : Nat} (hskip : flags.skip cs = '[' :: more)
    (hstart : readClassStart flags more = some (negated, first, inner))
    (hinner : readClass flags negated fuel none first inner = some ((chars, depth), after))
    (h : EnclosedBody flags names branches (.node ⟨.oneOf chars, depth⟩ :: items) after n allNames
      rest) :
    EnclosedBody flags names branches items cs n allNames rest := by
  refine .fueled (((flags.enclosed_skip_cons hskip).trans ((enclosed_readClassStart hstart).trans
    ((enclosed_readClass hinner).trans h))).imp ?_)
  rintro cs' rest' ⟨more', -, hskip', inner', -, hstart', after', -, hinner', hread'⟩ enough henough
  have hinner' := hinner' _ (Nat.lt_succ_self _)
  have hstart' := hstart' (ne_nil_of_readClass hinner')
  have hlt := flags.length_lt_of_skip hskip'
  have hle := (enclosed_readClassStart hstart').length_le
  have hinnerLength := (enclosed_readClass hinner').length_le
  rw [readBody]
  simp only [hskip', hstart', hinner', Option.bind_eq_bind, Option.bind_some]
  exact hread' _ (by omega)

theorem operator {c : Char} {least : Nat} {most : Option Nat} {repeated : List Item}
    (hc : (c, least, most) ∈ [('?', 0, some 1), ('*', 0, none), ('+', 1, none)])
    (hskip : flags.skip cs = c :: more) (hrepeat : repeatLast least most items = some repeated)
    (h : EnclosedBody flags names branches repeated (skipLazy more) n allNames rest) :
    EnclosedBody flags names branches items cs n allNames rest := by
  refine .fueled (((flags.enclosed_skip_cons hskip).trans ((enclosed_skipLazy more).trans h)).imp ?_)
  rintro cs' rest' ⟨more', -, hskip', _, -, rfl, hread'⟩ enough henough
  have hlt := flags.length_lt_of_skip hskip'
  have hle := (enclosed_skipLazy more').length_le
  rw [readBody_operator hc hskip', hrepeat, Option.bind_some]
  exact hread' _ (by omega)

theorem bounded {least : Nat} {most : Option Nat} {repeated : List Item}
    (hskip : flags.skip cs = '\x7b' :: more)
    (hbounds : readBounds flags more = some (least, most, after))
    (hrepeat : repeatLast least most items = some repeated)
    (h : EnclosedBody flags names branches repeated after n allNames rest) :
    EnclosedBody flags names branches items cs n allNames rest := by
  refine .fueled (((flags.enclosed_skip_cons hskip).trans
    ((enclosed_readBounds hbounds).trans h)).imp ?_)
  rintro cs' rest' ⟨more', -, hskip', after', -, hbounds', hread'⟩ enough henough
  have hlt := flags.length_lt_of_skip hskip'
  have hle := (enclosed_readBounds hbounds').length_le
  rw [readBody]
  simp only [hskip', hbounds', hrepeat, Option.bind_eq_bind, Option.bind_some]
  exact hread' _ (by omega)

-- After an edge of a word the closing makes a difference only where the body cannot be read.
theorem atom {c : Char} {e : Expr} {fuel : Nat} (hskip : flags.skip cs = c :: more)
    (hc : beginsAtom c = true) (hatom : readAtom flags (c :: more) = some (e, after))
    (hread : readBody flags names branches (leaf e :: items) fuel after = some (n, allNames, rest))
    (h : EnclosedBody flags names branches (leaf e :: items) after n allNames rest) :
    EnclosedBody flags names branches items cs n allNames rest := by
  have henclosed := flags.enclosed_skip cs
  rw [hskip] at henclosed
  refine .fueled ((henclosed.trans ((enclosed_readAtom hatom).trans h)).imp ?_)
  rintro cs' rest' ⟨next', hnext', hskip', after', hafter', hatom' | hunfinished, hread'⟩ enough henough
  · have hlength := length_lt_of_readAtom hatom'
    obtain ⟨more', rfl⟩ := cons_of_length_lt hlength hnext'
    have hlt := flags.length_lt_of_skip hskip'
    rw [List.length_cons] at hlength
    rw [readBody_atom hskip' hc, hatom', Option.bind_some]
    exact hread' _ (by omega)
  · rw [hafter', readBody_unfinished fuel hunfinished] at hread
    cases hread

end EnclosedBody

theorem enclosed_readBody {flags : Flags} {names allNames : List String} {branches : List Node}
    {items : List Item} {cs rest : List Char} {fuel : Nat} {n : Node}
    (h : readBody flags names branches items fuel cs = some (n, allNames, rest)) :
    EnclosedBody flags names branches items cs n allNames rest := by
  induction fuel generalizing flags names allNames branches items n cs rest with
  | zero => cases h
  | succ fuel ih =>
    cases hskip : flags.skip cs with
    | nil =>
      rw [readBody] at h
      simp only [hskip] at h
      cases h
      exact ⟨List.nil_suffix, fun cs' rest' _ hrest => absurd hrest.symm (append_closing_ne_nil rest')⟩
    | cons c more =>
      cases hc : beginsAtom c with
      | true =>
        rw [readBody_atom hskip hc] at h
        obtain ⟨⟨e, after⟩, hatom, h⟩ := Option.bind_eq_some_iff.mp h
        exact .atom hskip hc hatom h (ih h)
      | false =>
        rw [beginsAtom, Bool.not_eq_false', List.contains_iff_mem] at hc
        simp only [List.mem_cons, List.not_mem_nil, or_false] at hc
        rw [readBody] at h
        rcases hc with rfl | rfl | rfl | rfl | rfl | rfl | rfl | rfl
        all_goals simp only [hskip] at h
        · cases h
          exact .close hskip
        · exact .bar hskip (ih h)
        · split at h
          next => cases h
          next changed after hopening => exact .modes hskip hopening (ih h)
          next inner innerNames after hopening =>
            split at h
            next group groupNames outer hgroup => exact .group hskip hopening (ih hgroup) (ih h)
            next => cases h
        · obtain ⟨⟨negated, first, inner⟩, hstart, h⟩ := Option.bind_eq_some_iff.mp h
          obtain ⟨⟨⟨chars, depth⟩, after⟩, hinner, h⟩ := Option.bind_eq_some_iff.mp h
          exact .bracketed hskip hstart hinner (ih h)
        · obtain ⟨repeated, hrepeat, h⟩ := Option.bind_eq_some_iff.mp h
          exact .operator (by simp) hskip hrepeat (ih h)
        · obtain ⟨repeated, hrepeat, h⟩ := Option.bind_eq_some_iff.mp h
          exact .operator (by simp) hskip hrepeat (ih h)
        · obtain ⟨repeated, hrepeat, h⟩ := Option.bind_eq_some_iff.mp h
          exact .operator (by simp) hskip hrepeat (ih h)
        · obtain ⟨⟨least, most, after⟩, hbounds, h⟩ := Option.bind_eq_some_iff.mp h
          obtain ⟨repeated, hrepeat, h⟩ := Option.bind_eq_some_iff.mp h
          exact .bounded hskip hbounds hrepeat (ih h)

end Targeting.Pattern
