import Targeting.Proofs.DefinitionText.Reading

namespace Targeting.DefinitionText

-- An outcome on a text that goes on with more.
def Outcome.followed {α : Type} (more : List Char) : Outcome α → Outcome α
  | .done a rest => .done a (rest ++ more)
  | .failed failure => .failed { failure with rest := failure.rest ++ more }

namespace Reader

variable {α β : Type}

-- Where `p` can be read it is read alike when more follows, provided that what it leaves is of one
-- kind, and then what it reads from is of another.
def Persists (more : List Char) (p : Reader α) (before after : List Char → Prop) : Prop :=
  ∀ cs a rest, p cs = .done a rest → after rest →
    before cs ∧ rest.length ≤ cs.length ∧ p (cs ++ more) = .done a (rest ++ more)

-- On a text of one kind the outcome of `p` is the same when more follows.
def Steady (more : List Char) (p : Reader α) (before : List Char → Prop) : Prop :=
  ∀ cs, before cs → p (cs ++ more) = (p cs).followed more

-- Where `p` fails on a text of one kind without being committed, it does so when more follows.
def Backtracks (more : List Char) (p : Reader α) (before : List Char → Prop) : Prop :=
  ∀ cs failure, before cs → p cs = .failed failure → failure.committed = false →
    ∃ last, p (cs ++ more) = .failed last ∧ last.committed = false

-- No failure of `p` leaves another way of reading.
def Commits (p : Reader α) : Prop := ∀ cs failure, p cs = .failed failure → failure.committed = true

-- What `p` reads is no less than one character.
def Consumes (p : Reader α) : Prop := ∀ cs a rest, p cs = .done a rest → rest.length < cs.length

variable {p q : Reader α} {more : List Char} {before middle after : List Char → Prop}

theorem bind_eq_done_iff {f : α → Reader β} {cs rest : List Char} {b : β} :
    (p >>= f) cs = .done b rest ↔ ∃ a left, p cs = .done a left ∧ f a left = .done b rest := by
  cases hp : p cs with
  | done a left =>
    rw [bind_eq_of_done hp]
    constructor
    · intro h
      exact ⟨a, left, rfl, h⟩
    · rintro ⟨_, _, heq, h⟩
      cases heq
      exact h
  | failed failure =>
    rw [bind_eq_of_failed hp]
    constructor
    · intro h
      cases h
    · rintro ⟨_, _, heq, -⟩
      cases heq

theorem commit_eq_done_iff {cs rest : List Char} {a : α} :
    commit p cs = .done a rest ↔ p cs = .done a rest := by
  rw [commit]
  cases p cs <;> simp

theorem expecting_eq_done_iff {what : String} {cs rest : List Char} {a : α} :
    expecting what p cs = .done a rest ↔ p cs = .done a rest := by
  rw [expecting]
  cases p cs <;> simp

theorem optional_eq_done {cs rest : List Char} {o : Option α} (h : optional p cs = .done o rest) :
    (o = none ∧ rest = cs ∧ ∃ failure, p cs = .failed failure ∧ failure.committed = false) ∨
      ∃ a, o = some a ∧ p cs = .done a rest := by
  rw [optional] at h
  cases hp : p cs with
  | done a left =>
    rw [hp] at h
    cases h
    exact .inr ⟨a, rfl, rfl⟩
  | failed failure =>
    rw [hp] at h
    cases hopen : failure.committed with
    | true => simp [hopen] at h
    | false =>
      simp only [hopen, Bool.false_eq_true, if_false] at h
      cases h
      exact .inl ⟨rfl, rfl, failure, rfl, hopen⟩

theorem manyUpTo_succ_eq_done {n : Nat} {cs rest : List Char} {as : List α}
    (h : manyUpTo p (n + 1) cs = .done as rest) :
    (as = [] ∧ rest = cs ∧ ∃ failure, p cs = .failed failure ∧ failure.committed = false) ∨
      ∃ a left bs, as = a :: bs ∧ p cs = .done a left ∧ manyUpTo p n left = .done bs rest := by
  rw [manyUpTo] at h
  cases hp : p cs with
  | done a left =>
    simp only [hp] at h
    cases hmany : manyUpTo p n left with
    | done bs last =>
      simp only [hmany, Outcome.done.injEq] at h
      obtain ⟨rfl, rfl⟩ := h
      exact .inr ⟨a, left, bs, rfl, rfl, hmany⟩
    | failed failure => simp [hmany] at h
  | failed failure =>
    simp only [hp] at h
    cases hopen : failure.committed with
    | true => simp [hopen] at h
    | false =>
      simp only [hopen, Bool.false_eq_true, if_false, Outcome.done.injEq] at h
      exact .inl ⟨h.1.symm, h.2.symm, failure, rfl, hopen⟩

theorem bind_congr {f : α → Reader β} {cs cs' : List Char} (h : p cs = p cs') :
    (p >>= f) cs = (p >>= f) cs' := by
  change Reader.bind p f cs = Reader.bind p f cs'
  rw [Reader.bind, Reader.bind, h]

namespace Commits

theorem commit (p : Reader α) : Commits (commit p) := by
  intro cs failure h
  rw [Reader.commit] at h
  split at h
  next => cases h; rfl
  next outcome hdone => exact absurd h (hdone failure)

theorem expecting {what : String} (hp : Commits p) : Commits (expecting what p) := by
  intro cs failure h
  rw [Reader.expecting] at h
  split at h
  next first hfirst => cases h; exact hp cs first hfirst
  next outcome hdone => exact absurd h (hdone failure)

theorem pure (a : α) : Commits (return a) := by
  intro cs failure h
  cases h

theorem bind {f : α → Reader β} (hp : Commits p) (hf : ∀ a, Commits (f a)) :
    Commits (p >>= f) := by
  intro cs failure h
  cases hp' : p cs with
  | done a rest =>
    rw [bind_eq_of_done hp'] at h
    exact hf a rest failure h
  | failed first =>
    rw [bind_eq_of_failed hp'] at h
    cases h
    exact hp cs failure hp'

end Commits

namespace Steady

theorem pure (a : α) : Steady more (return a) before := fun _ _ => rfl

theorem bind {f : α → Reader β} (hp : Steady more p before)
    (hf : ∀ a, Steady more (f a) fun _ => True) : Steady more (p >>= f) before := by
  intro cs h
  have hsteady := hp cs h
  cases hp' : p cs with
  | done a rest =>
    rw [hp'] at hsteady
    rw [bind_eq_of_done hp', bind_eq_of_done hsteady]
    exact hf a rest trivial
  | failed failure =>
    rw [hp'] at hsteady
    rw [bind_eq_of_failed hp', bind_eq_of_failed hsteady]
    rfl

theorem orElse (hp : Steady more p before) (hq : Steady more q before) :
    Steady more (orElse p q) before := by
  intro cs h
  rw [Reader.orElse, Reader.orElse, hp cs h]
  cases p cs with
  | done a rest => rfl
  | failed failure =>
    dsimp only [Outcome.followed]
    split
    · rfl
    · exact hq cs h

theorem backtracks (hp : Steady more p before) : Backtracks more p before := by
  intro cs failure h hfailure hopen
  refine ⟨{ failure with rest := failure.rest ++ more }, ?_, hopen⟩
  rw [hp cs h, hfailure]
  rfl

end Steady

namespace Backtracks

theorem imp (hp : Backtracks more p before) (himp : ∀ cs, after cs → before cs) :
    Backtracks more p after :=
  fun cs failure h => hp cs failure (himp cs h)

theorem bind {f : α → Reader β} (hp : Backtracks more p before) (hf : ∀ a, Commits (f a)) :
    Backtracks more (p >>= f) before := by
  intro cs failure h hfailure hopen
  cases hp' : p cs with
  | done a rest =>
    rw [bind_eq_of_done hp'] at hfailure
    rw [hf a rest failure hfailure] at hopen
    cases hopen
  | failed first =>
    rw [bind_eq_of_failed hp'] at hfailure
    cases hfailure
    obtain ⟨last, hlast, hlastOpen⟩ := hp cs failure h hp' hopen
    exact ⟨last, bind_eq_of_failed hlast f, hlastOpen⟩

-- What is refused on all texts of a kind that more can follow is refused there again.
theorem of_refuses (hp : Refuses p before) (hmore : ∀ cs, before cs → before (cs ++ more)) :
    Backtracks more p before :=
  fun cs _ h _ _ => hp _ (hmore cs h)

end Backtracks

namespace Persists

theorem pure (a : α) : Persists more (return a) after after := by
  intro cs b rest h hafter
  cases h
  exact ⟨hafter, Nat.le_refl _, rfl⟩

theorem bind {f : α → Reader β} (hp : Persists more p before middle)
    (hf : ∀ a, Persists more (f a) middle after) : Persists more (p >>= f) before after := by
  intro cs b rest h hafter
  obtain ⟨a, left, hleft, hrest⟩ := bind_eq_done_iff.mp h
  obtain ⟨hmiddle, hle, hmore⟩ := hf a left b rest hrest hafter
  obtain ⟨hbefore, hle', hmore'⟩ := hp cs a left hleft hmiddle
  exact ⟨hbefore, Nat.le_trans hle hle', (bind_eq_of_done hmore' f).trans hmore⟩

theorem weaken {before' after' : List Char → Prop} (hp : Persists more p before after)
    (hbefore : ∀ cs, before cs → before' cs) (hafter : ∀ cs, after' cs → after cs) :
    Persists more p before' after' := by
  intro cs a rest h hrest
  obtain ⟨hcs, hle, hmore⟩ := hp cs a rest h (hafter rest hrest)
  exact ⟨hbefore cs hcs, hle, hmore⟩

-- What can be left in any way can be left in one way.
theorem narrow (hp : Persists more p before fun _ => True) : Persists more p before after :=
  hp.weaken (fun _ h => h) fun _ _ => trivial

theorem commit (hp : Persists more p before after) : Persists more (commit p) before after := by
  intro cs a rest h hafter
  obtain ⟨hbefore, hle, hmore⟩ := hp cs a rest (commit_eq_done_iff.mp h) hafter
  exact ⟨hbefore, hle, commit_eq_done_iff.mpr hmore⟩

theorem expecting {what : String} (hp : Persists more p before after) :
    Persists more (expecting what p) before after := by
  intro cs a rest h hafter
  obtain ⟨hbefore, hle, hmore⟩ := hp cs a rest (expecting_eq_done_iff.mp h) hafter
  exact ⟨hbefore, hle, expecting_eq_done_iff.mpr hmore⟩

theorem mapped {f : α → Option β} (hp : Persists more p before after) :
    Persists more (mapped p f) before after := by
  intro cs b rest h hafter
  rw [Reader.mapped] at h ⊢
  cases hp' : p cs with
  | done a left =>
    rw [hp'] at h
    cases hf : f a with
    | none => simp [hf] at h
    | some c =>
      simp only [hf, Outcome.done.injEq] at h
      obtain ⟨rfl, rfl⟩ := h
      obtain ⟨hbefore, hle, hmore⟩ := hp cs a left hp' hafter
      exact ⟨hbefore, hle, by simp only [hmore, hf]⟩
  | failed failure =>
    rw [hp'] at h
    cases h

-- The first way of reading has to be ruled out again wherever the second one is taken.
theorem orElse_of (hp : Persists more p before after) (hq : Persists more q before after)
    (hagain : ∀ cs failure a rest, p cs = .failed failure → failure.committed = false →
      q cs = .done a rest → after rest →
      ∃ last, p (cs ++ more) = .failed last ∧ last.committed = false) :
    Persists more (orElse p q) before after := by
  intro cs a rest h hafter
  rw [Reader.orElse] at h
  cases hp' : p cs with
  | done b left =>
    rw [hp'] at h
    cases h
    obtain ⟨hbefore, hle, hmore⟩ := hp cs a rest hp' hafter
    exact ⟨hbefore, hle, by rw [Reader.orElse, hmore]⟩
  | failed failure =>
    rw [hp'] at h
    cases hopen : failure.committed with
    | true => simp [hopen] at h
    | false =>
      simp only [hopen, Bool.false_eq_true, if_false] at h
      obtain ⟨hbefore, hle, hmore⟩ := hq cs a rest h hafter
      obtain ⟨last, hlast, hlastOpen⟩ := hagain cs failure a rest hp' hopen h hafter
      refine ⟨hbefore, hle, ?_⟩
      simp only [Reader.orElse, hlast, hlastOpen, Bool.false_eq_true, if_false]
      exact hmore

theorem orElse (hp : Persists more p before after) (hagain : Backtracks more p before)
    (hq : Persists more q before after) : Persists more (orElse p q) before after :=
  hp.orElse_of hq fun cs failure a rest hfailure hopen hdone hafter =>
    hagain cs failure (hq cs a rest hdone hafter).1 hfailure hopen

theorem optional (hp : Persists more p before after) (hagain : Backtracks more p before)
    (hafter : ∀ cs, after cs → before cs) : Persists more (optional p) before after := by
  intro cs a rest h hrest
  rcases optional_eq_done h with ⟨rfl, rfl, failure, hfailure, hopen⟩ | ⟨b, rfl, hread⟩
  · obtain ⟨last, hlast, hlastOpen⟩ := hagain rest failure (hafter rest hrest) hfailure hopen
    refine ⟨hafter rest hrest, Nat.le_refl _, ?_⟩
    simp only [Reader.optional, hlast, hlastOpen, Bool.false_eq_true, if_false]
  · obtain ⟨hbefore, hle, hmore⟩ := hp cs b rest hread hrest
    exact ⟨hbefore, hle, by rw [Reader.optional, hmore]⟩

section Repetition

variable (hp : Persists more p before before) (hafter : ∀ cs, after cs → before cs)

include hp hafter in
theorem before_of_manyUpTo {n : Nat} {cs rest : List Char} {as : List α}
    (h : manyUpTo p n cs = .done as rest) (hrest : after rest) :
    before cs ∧ rest.length ≤ cs.length := by
  induction n generalizing cs as with
  | zero =>
    cases h
    exact ⟨hafter _ hrest, Nat.le_refl _⟩
  | succ n ih =>
    rcases manyUpTo_succ_eq_done h with ⟨rfl, rfl, -⟩ | ⟨a, left, as, rfl, hread, hmany⟩
    · exact ⟨hafter _ hrest, Nat.le_refl _⟩
    · obtain ⟨hleft, hle⟩ := ih hmany
      obtain ⟨hbefore, hle', -⟩ := hp cs a left hread hleft
      exact ⟨hbefore, Nat.le_trans hle hle'⟩

variable (hagain : Backtracks more p after) (hne : ∀ cs, after cs → cs ≠ [])
  (hconsumes : ∀ cs a rest, p cs = .done a rest → before rest → rest.length < cs.length)

include hp hafter hagain hne hconsumes

-- Something is left in the end, so that the reading does not stop for want of fuel, and more fuel
-- changes nothing.
theorem manyUpTo {n m : Nat} {cs rest : List Char} {as : List α} (hfuel : cs.length ≤ n)
    (hle : n ≤ m) (h : manyUpTo p n cs = .done as rest) (hrest : after rest) :
    manyUpTo p m (cs ++ more) = .done as (rest ++ more) := by
  induction n generalizing m cs as with
  | zero =>
    cases h
    exact absurd (List.length_eq_zero_iff.mp (Nat.le_zero.mp hfuel)) (hne _ hrest)
  | succ n ih =>
    obtain ⟨m, rfl⟩ : ∃ k, m = k + 1 := ⟨m - 1, by omega⟩
    rcases manyUpTo_succ_eq_done h with
      ⟨rfl, rfl, failure, hfailure, hopen⟩ | ⟨a, left, as, rfl, hread, hmany⟩
    · obtain ⟨last, hlast, hlastOpen⟩ := hagain rest failure hrest hfailure hopen
      simp only [Reader.manyUpTo, hlast, hlastOpen, Bool.false_eq_true, if_false]
    · have hleft := (before_of_manyUpTo hp hafter hmany hrest).1
      have hlt := hconsumes cs a left hread hleft
      have hmore := (hp cs a left hread hleft).2.2
      have hlater := ih (by omega) (Nat.le_of_succ_le_succ hle) hmany
      simp only [Reader.manyUpTo, hmore, hlater]

theorem many : Persists more (many p) before after := by
  intro cs as rest h hrest
  obtain ⟨hbefore, hle⟩ := before_of_manyUpTo hp hafter h hrest
  have hlength : cs.length ≤ (cs ++ more).length := by simp
  exact ⟨hbefore, hle, manyUpTo hp hafter hagain hne hconsumes (Nat.le_refl _) hlength h hrest⟩

end Repetition

-- What leads on to separators leads on to no first element.
theorem separated {separator : Reader Unit} {inner : List Char → Prop}
    (hp : Persists more p before inner) (hagain : Backtracks more p after)
    (hrest : Persists more (Reader.many (separator.bind fun _ => p)) inner after)
    (hafter : ∀ cs, after cs → before cs) :
    Persists more (separated p separator) before after := by
  intro cs as rest h hleft
  obtain ⟨first, left, hfirst, hmany⟩ := bind_eq_done_iff.mp h
  rcases optional_eq_done hfirst with ⟨rfl, rfl, failure, hfailure, hopen⟩ | ⟨a, rfl, hread⟩
  · cases hmany
    obtain ⟨last, hlast, hlastOpen⟩ := hagain rest failure hleft hfailure hopen
    have hnone : Reader.optional p (rest ++ more) = .done none (rest ++ more) := by
      simp only [Reader.optional, hlast, hlastOpen, Bool.false_eq_true, if_false]
    exact ⟨hafter _ hleft, Nat.le_refl _, bind_eq_of_done hnone _⟩
  · have hsome : Persists more (do return a :: (← Reader.many (separator.bind fun _ => p))) inner
        after := hrest.bind fun bs => pure (a :: bs)
    obtain ⟨hinner, hle, hmore⟩ := hsome left as rest hmany hleft
    obtain ⟨hbefore, hle', hmore'⟩ := hp cs a left hread hinner
    have hfirst' : Reader.optional p (cs ++ more) = .done (some a) (left ++ more) := by
      rw [Reader.optional, hmore']
    exact ⟨hbefore, Nat.le_trans hle hle', (bind_eq_of_done hfirst' _).trans hmore⟩

end Persists

namespace Consumes

theorem orElse (hp : Consumes p) (hq : Consumes q) : Consumes (orElse p q) := by
  intro cs a rest h
  rw [Reader.orElse] at h
  split at h
  · split at h
    · cases h
    · exact hq cs a rest h
  · exact hp cs a rest h

theorem bind_of {f : α → Reader β} (hp : Consumes p) (hf : ∀ a, Persists more (f a) before after)
    {cs rest : List Char} {b : β} (h : (p >>= f) cs = .done b rest) (hrest : after rest) :
    rest.length < cs.length := by
  obtain ⟨a, left, hleft, hmore⟩ := bind_eq_done_iff.mp h
  exact Nat.lt_of_le_of_lt (hf a left b rest hmore hrest).2.1 (hp cs a left hleft)

theorem bind {f : α → Reader β} (hp : Consumes p)
    (hf : ∀ a, Persists more (f a) before fun _ => True) : Consumes (p >>= f) :=
  fun _ _ _ h => hp.bind_of hf h trivial

theorem map (hp : Consumes p) (b : β) : Consumes (p >>= fun _ => return b) := by
  have hpure : Persists [] (return b : Reader β) (fun _ => True) fun _ => True := .pure b
  exact hp.bind fun _ => hpure

end Consumes

end Reader

end Targeting.DefinitionText
