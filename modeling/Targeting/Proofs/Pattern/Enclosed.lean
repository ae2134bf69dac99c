import Mathlib
import Targeting.Pattern.Escape

namespace Targeting.Pattern

-- What stands after a pattern that is written into a group.
def closing : List Char := [')', '$']

theorem dropWhile_closing {p : Char → Bool} (hp : p ')' = false) (cs : List Char) :
    (cs ++ closing).dropWhile p = cs.dropWhile p ++ closing := by
  rw [List.dropWhile_append]
  split
  next hempty =>
    rw [List.isEmpty_iff.mp hempty, List.nil_append, closing, List.dropWhile_cons_of_neg (by simp [hp])]
  next => rfl

-- Reading `cs` leaves `rest`. Where both of them end with the closing of the group, what comes before it
-- is related.
structure Enclosed (cs rest : List Char) (related : List Char → List Char → Prop) : Prop where
  suffix : rest <:+ cs
  before : ∀ cs' rest', cs = cs' ++ closing → rest = rest' ++ closing → related cs' rest'

namespace Enclosed

variable {cs mid rest : List Char} {related next : List Char → List Char → Prop}

theorem imp (h : Enclosed cs rest related)
    (himp : ∀ cs' rest', related cs' rest' → next cs' rest') : Enclosed cs rest next :=
  ⟨h.suffix, fun cs' rest' hcs hrest => himp cs' rest' (h.before cs' rest' hcs hrest)⟩

theorem imp_of_eq (h : Enclosed cs rest related)
    (himp : ∀ cs' rest', rest = rest' ++ closing → related cs' rest' → next cs' rest') :
    Enclosed cs rest next :=
  ⟨h.suffix, fun cs' rest' hcs hrest => himp cs' rest' hrest (h.before cs' rest' hcs hrest)⟩

theorem refl (cs : List Char) : Enclosed cs cs fun cs' rest' => cs' = rest' :=
  ⟨List.suffix_rfl, fun _ _ hcs hrest => List.append_cancel_right (hcs.symm.trans hrest)⟩

theorem same (h : ∀ cs', cs = cs' ++ closing → related cs' cs') : Enclosed cs cs related := by
  refine ⟨List.suffix_rfl, fun cs' rest' hcs hrest => ?_⟩
  rw [← List.append_cancel_right (hcs.symm.trans hrest)]
  exact h cs' hcs

-- One reading after another.
theorem trans (h : Enclosed cs mid related) (hnext : Enclosed mid rest next) :
    Enclosed cs rest fun cs' rest' =>
      ∃ mid', mid = mid' ++ closing ∧ related cs' mid' ∧ next mid' rest' := by
  refine ⟨hnext.suffix.trans h.suffix, fun cs' rest' hcs hrest => ?_⟩
  obtain ⟨used, hused⟩ := hnext.suffix
  have hmid : mid = used ++ rest' ++ closing := by rw [← hused, hrest, List.append_assoc]
  exact ⟨used ++ rest', hmid, h.before _ _ hcs hmid, hnext.before _ _ hmid hrest⟩

theorem cons (c : Char) (rest : List Char) :
    Enclosed (c :: rest) rest fun cs' rest' => cs' = c :: rest' := by
  refine ⟨List.suffix_cons c rest, fun cs' rest' hcs hrest => ?_⟩
  rw [hrest, ← List.cons_append] at hcs
  exact (List.append_cancel_right hcs).symm

theorem length_le (h : Enclosed cs rest related) : rest.length ≤ cs.length := h.suffix.length_le

-- With fuel for every character there is some left after the first step.
theorem fueled {p : List Char → List Char → Nat → Prop}
    (h : Enclosed cs rest fun cs' rest' => ∀ enough, cs'.length ≤ enough → p cs' rest' (enough + 1)) :
    Enclosed cs rest fun cs' rest' => ∀ enough, cs'.length < enough → p cs' rest' enough := by
  refine h.imp fun cs' rest' hfuel enough henough => ?_
  obtain ⟨enough, rfl⟩ := Nat.exists_eq_succ_of_ne_zero (by omega : enough ≠ 0)
  exact hfuel enough (by omega)

theorem dropWhile {p : Char → Bool} (hp : p ')' = false) (cs : List Char) :
    Enclosed cs (cs.dropWhile p) fun cs' rest' => cs'.dropWhile p = rest' := by
  refine ⟨List.dropWhile_suffix p, fun cs' rest' hcs hrest => ?_⟩
  rw [hcs, dropWhile_closing hp] at hrest
  exact List.append_cancel_right hrest

end Enclosed

theorem append_closing_ne_nil (cs : List Char) : cs ++ closing ≠ [] := by simp [closing]

theorem cons_of_append_closing {c : Char} {cs more : List Char} (hc : c ≠ ')')
    (h : c :: more = cs ++ closing) : ∃ more', cs = c :: more' ∧ more = more' ++ closing := by
  cases cs with
  | nil =>
    cases h
    exact absurd rfl hc
  | cons d more' =>
    cases h
    exact ⟨more', rfl, rfl⟩

theorem cons_of_length_lt {c : Char} {cs more rest : List Char} (hlength : rest.length < cs.length)
    (h : c :: more = cs ++ closing) : ∃ more', cs = c :: more' := by
  cases cs with
  | nil => exact absurd hlength (Nat.not_lt_zero _)
  | cons d more' =>
    cases h
    exact ⟨more', rfl⟩

section Skip

theorem skipSpace_suffix (inComment : Bool) (cs : List Char) : skipSpace inComment cs <:+ cs := by
  induction cs generalizing inComment with
  | nil => exact List.suffix_rfl
  | cons c cs ih =>
    have hsuffix (b : Bool) : skipSpace b cs <:+ c :: cs := (ih b).trans (List.suffix_cons c cs)
    rw [skipSpace]
    split
    · exact hsuffix _
    · split
      · exact hsuffix _
      · split
        · exact hsuffix _
        · exact List.suffix_rfl

-- Skipping comes to the closing as it comes to the end, or passes over it in a comment.
theorem skipSpace_closing (inComment : Bool) (cs : List Char) :
    skipSpace inComment (cs ++ closing) = skipSpace inComment cs ++ closing ∨
      skipSpace inComment (cs ++ closing) = [] := by
  induction cs generalizing inComment with
  | nil => cases inComment <;> decide +kernel
  | cons c cs ih =>
    rw [List.cons_append, skipSpace, skipSpace]
    split
    · exact ih _
    · split
      · exact ih _
      · split
        · exact ih _
        · exact .inl rfl

theorem Flags.skip_closing (flags : Flags) (cs : List Char) :
    flags.skip (cs ++ closing) = flags.skip cs ++ closing ∨ flags.skip (cs ++ closing) = [] := by
  rw [skip, skip]
  split
  · exact skipSpace_closing false cs
  · exact .inl rfl

theorem Flags.enclosed_skip (flags : Flags) (cs : List Char) :
    Enclosed cs (flags.skip cs) fun cs' rest' => flags.skip cs' = rest' := by
  refine ⟨?_, fun cs' rest' hcs hrest => ?_⟩
  · rw [skip]
    split
    · exact skipSpace_suffix false cs
    · exact List.suffix_rfl
  · rw [hcs] at hrest
    rcases flags.skip_closing cs' with h | h
    · exact List.append_cancel_right (h.symm.trans hrest)
    · exact absurd (hrest.symm.trans h) (append_closing_ne_nil rest')

-- Past what is skipped and one character.
theorem Flags.enclosed_skip_cons (flags : Flags) {cs rest : List Char} {c : Char}
    (h : flags.skip cs = c :: rest) :
    Enclosed cs rest fun cs' rest' => flags.skip cs' = c :: rest' := by
  have hskip := flags.enclosed_skip cs
  rw [h] at hskip
  refine (hskip.trans (.cons c rest)).imp fun cs' rest' => ?_
  rintro ⟨mid, -, hmid, rfl⟩
  exact hmid

theorem Flags.length_skip_le (flags : Flags) (cs : List Char) :
    (flags.skip cs).length ≤ cs.length := (flags.enclosed_skip cs).length_le

theorem Flags.length_lt_of_skip (flags : Flags) {cs rest : List Char} {c : Char}
    (h : flags.skip cs = c :: rest) : rest.length < cs.length := by
  have hle := flags.length_skip_le cs
  rw [h] at hle
  exact hle

end Skip

section Hex

variable {flags : Flags} {cs rest : List Char}

theorem enclosed_readHexDigits {k value code : Nat}
    (h : readHexDigits flags k value cs = some (code, rest)) :
    Enclosed cs rest fun cs' rest' => readHexDigits flags k value cs' = some (code, rest') := by
  induction k generalizing value cs with
  | zero =>
    rw [readHexDigits] at h
    cases h
    refine (Enclosed.refl _).imp fun cs' rest' hsame => ?_
    rw [readHexDigits, hsame]
  | succ k ih =>
    cases cs with
    | nil => cases h
    | cons c cs =>
      rw [readHexDigits] at h
      split at h
      next hdigit =>
        refine ((Enclosed.cons c cs).trans ((flags.enclosed_skip cs).trans (ih h))).imp ?_
        rintro _ rest' ⟨more, -, rfl, skipped, -, rfl, hread⟩
        rw [readHexDigits, if_pos hdigit]
        exact hread
      next => cases h

theorem enclosed_readBraced {fuel : Nat} {read name : List Char}
    (h : readBraced flags fuel read cs = some (name, rest)) :
    Enclosed cs rest fun cs' rest' => ∀ enough, cs'.length < enough →
      readBraced flags enough read cs' = some (name, rest') := by
  induction fuel generalizing read cs with
  | zero => cases h
  | succ fuel ih =>
    refine .fueled ?_
    rw [readBraced] at h
    split at h
    next => cases h
    next more hskip =>
      cases h
      refine (flags.enclosed_skip_cons hskip).imp fun cs' rest' hskip' enough henough => ?_
      rw [readBraced, hskip']
      rfl
    next c more hbrace hskip =>
      refine ((flags.enclosed_skip_cons hskip).trans (ih h)).imp ?_
      rintro cs' rest' ⟨more', -, hskip', hread⟩ enough henough
      have hlt := flags.length_lt_of_skip hskip'
      rw [readBraced, hskip']
      split
      next heq => cases heq
      next heq => cases heq; exact absurd rfl hbrace
      next heq => cases heq; exact hread _ (by omega)

theorem enclosed_readHex {digits : Nat} {e : Escape}
    (h : readHex flags digits cs = some (e, rest)) :
    Enclosed cs rest fun cs' rest' => readHex flags digits cs' = some (e, rest') := by
  rw [readHex] at h
  split at h
  next more hskip =>
    obtain ⟨⟨code, after⟩, hread, h⟩ := Option.bind_eq_some_iff.mp h
    dsimp only at h
    split at h
    next => cases h
    next hdigits =>
      obtain ⟨c, hc, h⟩ := Option.bind_eq_some_iff.mp h
      cases h
      refine ((flags.enclosed_skip_cons hskip).trans
        ((enclosed_readBraced hread).trans (flags.enclosed_skip after))).imp ?_
      rintro cs' rest' ⟨more', -, hskip', after', -, hread', rfl⟩
      rw [readHex, hskip']
      simp only [hread' _ (Nat.lt_succ_self _), Option.bind_eq_bind, Option.bind_some, hdigits, hc]
      rfl
  next start hbrace =>
    obtain ⟨⟨code, after⟩, hread, h⟩ := Option.bind_eq_some_iff.mp h
    obtain ⟨c, hc, h⟩ := Option.bind_eq_some_iff.mp h
    cases h
    refine ((flags.enclosed_skip cs).trans (enclosed_readHexDigits hread)).imp ?_
    rintro cs' rest' ⟨start', hstart, hskip', hread'⟩
    rw [readHex, hskip']
    split
    next more' => exact absurd hstart (hbrace _)
    next => simp [hread', hc]

end Hex

section Escapes

variable {flags : Flags} {cs rest : List Char} {e : Escape}

theorem enclosed_readPropertyText {text : List Char} {braced : Bool}
    (h : readPropertyText flags cs = some (text, braced, rest)) :
    Enclosed cs rest fun cs' rest' => readPropertyText flags cs' = some (text, braced, rest') := by
  rw [readPropertyText] at h
  split at h
  next => cases h
  next more hskip =>
    obtain ⟨⟨text, after⟩, hread, h⟩ := Option.map_eq_some_iff.mp h
    cases h
    refine ((flags.enclosed_skip_cons hskip).trans (enclosed_readBraced hread)).imp ?_
    rintro cs' rest' ⟨more', -, hskip', hread'⟩
    rw [readPropertyText, hskip']
    simp only [hread' _ (Nat.lt_succ_self _), Option.map_some]
  next c more hbrace hskip =>
    split at h
    next => cases h
    next hletter =>
      cases h
      refine ((flags.enclosed_skip_cons hskip).trans (flags.enclosed_skip more)).imp ?_
      rintro cs' rest' ⟨more', -, hskip', rfl⟩
      rw [readPropertyText, hskip']
      split
      next heq => cases heq
      next heq => cases heq; exact absurd rfl hbrace
      next heq => cases heq; rw [if_neg hletter]

variable [Engine]

theorem enclosed_readProperty {negated : Bool}
    (h : readProperty flags negated cs = some (e, rest)) :
    Enclosed cs rest fun cs' rest' => readProperty flags negated cs' = some (e, rest') := by
  rw [readProperty] at h
  obtain ⟨⟨text, braced, after⟩, htext, h⟩ := Option.bind_eq_some_iff.mp h
  dsimp only at h
  split at h
  next => cases h
  next hunicode =>
    obtain ⟨holds, hholds, h⟩ := Option.map_eq_some_iff.mp h
    cases h
    refine (enclosed_readPropertyText htext).imp fun cs' rest' htext' => ?_
    rw [readProperty, htext']
    simp only [Option.bind_eq_bind, Option.bind_some, hunicode, hholds, Option.map_some]
    rfl

-- A brace after which there is nothing but the closing. Here it names no edge of a word, and no
-- repetition either.
def Unfinished (flags : Flags) (cs : List Char) : Prop :=
  ∃ rest, cs = '\x7b' :: rest ∧ flags.skip (rest ++ closing) = closing

theorem enclosed_readWordEdge (h : readWordEdge flags cs = some (e, rest)) :
    Enclosed cs rest fun cs' rest' => readWordEdge flags cs' = some (e, rest') ∨
      (∃ condition, e = .look condition) ∧ Unfinished flags rest' := by
  unfold readWordEdge at h
  split at h
  next more =>
    split at h
    next => cases h
    next c after hskip =>
      -- what follows the brace is the same without the closing, unless nothing does
      have hcut (more' : List Char) (hmore : more = more' ++ closing) :
          (∃ after', flags.skip more' = c :: after') ∨
            flags.skip more = closing ∧ isEdgeNameChar c = false := by
        have hclosing := flags.skip_closing more'
        rw [← hmore, hskip] at hclosing
        rcases hclosing with hclosing | hclosing
        · cases hmid : flags.skip more' with
          | nil =>
            rw [hmid] at hclosing
            rw [hskip]
            cases hclosing
            exact .inr ⟨rfl, by decide⟩
          | cons d after' =>
            rw [hmid] at hclosing
            cases hclosing
            exact .inl ⟨after', rfl⟩
        · cases hclosing
      split at h
      next hname =>
        obtain ⟨⟨name, after⟩, hread, h⟩ := Option.bind_eq_some_iff.mp h
        obtain ⟨edge, hedge, h⟩ := Option.bind_eq_some_iff.mp h
        cases h
        refine ((Enclosed.cons _ more).trans (enclosed_readBraced hread)).imp ?_
        rintro _ rest' ⟨more', hmore, rfl, hread'⟩
        rcases hcut more' hmore with ⟨after', hskip'⟩ | ⟨-, hother⟩
        · refine .inl ?_
          unfold readWordEdge
          simp only [hskip', hname, if_true, hread' _ (Nat.lt_succ_self _), Option.bind_eq_bind,
            Option.bind_some, hedge]
        · rw [hname] at hother
          cases hother
      next hname =>
        cases h
        refine .same fun cs' hcs => ?_
        cases cs' with
        | nil => cases hcs
        | cons d more' =>
          cases hcs
          rcases hcut more' rfl with ⟨after', hskip'⟩ | ⟨hclosing, -⟩
          · refine .inl ?_
            unfold readWordEdge
            simp only [hskip', hname]
            rfl
          · exact .inr ⟨⟨_, rfl⟩, more', rfl, hclosing⟩
  next hbrace =>
    cases h
    refine .same fun cs' hcs => .inl ?_
    unfold readWordEdge
    split
    next => exact absurd hcs (hbrace _)
    next => rfl

-- A reader is enclosed after a letter when it is without it.
theorem enclosed_after {c : Char} {more : List Char} {read : List Char → Option (Escape × List Char)}
    (hread : ∀ cs, readEscape flags (c :: cs) = read cs)
    (h : Enclosed more rest fun cs' rest' => read cs' = some (e, rest') ∨
      (∃ condition, e = .look condition) ∧ Unfinished flags rest') :
    Enclosed (c :: more) rest fun cs' rest' => readEscape flags cs' = some (e, rest') ∨
      (∃ condition, e = .look condition) ∧ Unfinished flags rest' := by
  refine ((Enclosed.cons c more).trans h).imp ?_
  rintro _ rest' ⟨more', -, rfl, hrest'⟩
  rwa [hread]

theorem enclosed_readEscape (h : readEscape flags cs = some (e, rest)) :
    Enclosed cs rest fun cs' rest' => readEscape flags cs' = some (e, rest') ∨
      (∃ condition, e = .look condition) ∧ Unfinished flags rest' := by
  unfold readEscape at h
  split at h
  next => cases h
  next c more =>
    split at h
    next hescapable =>
      cases h
      have hread (cs : List Char) : readEscape flags (c :: cs) = some (.literal c false, cs) := by
        unfold readEscape
        dsimp only
        rw [if_pos hescapable]
      exact enclosed_after hread ((Enclosed.refl _).imp fun cs' rest' hsame => .inl (by rw [hsame]))
    next hescapable =>
      split at h
      next =>
        exact enclosed_after (fun cs => rfl) ((enclosed_readHex h).imp fun _ _ => .inl)
      next =>
        exact enclosed_after (fun cs => rfl) ((enclosed_readHex h).imp fun _ _ => .inl)
      next =>
        exact enclosed_after (fun cs => rfl) ((enclosed_readHex h).imp fun _ _ => .inl)
      next =>
        exact enclosed_after (fun cs => rfl) ((enclosed_readProperty h).imp fun _ _ => .inl)
      next =>
        exact enclosed_after (fun cs => rfl) ((enclosed_readProperty h).imp fun _ _ => .inl)
      next => exact enclosed_after (fun cs => rfl) (enclosed_readWordEdge h)
      next hx hu hU hp hP hb =>
        obtain ⟨e, hletter, h⟩ := Option.map_eq_some_iff.mp h
        cases h
        have hread (cs : List Char) :
            readEscape flags (c :: cs) = (letterEscape? flags c).map fun e => (e, cs) := by
          unfold readEscape
          dsimp only
          rw [if_neg hescapable]
          split <;> first | contradiction | rfl
        refine enclosed_after hread ((Enclosed.refl _).imp fun cs' rest' hsame => .inl ?_)
        rw [hsame, hletter, Option.map_some]

end Escapes

end Targeting.Pattern
