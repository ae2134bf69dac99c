import Targeting.DefinitionText.Reader

namespace Targeting.DefinitionText.Reader

variable {α β ι : Type} {p q : Reader α} {a : α} {before middle after : List Char → Prop}

theorem bind_eq_of_done {cs rest : List Char} (h : p cs = .done a rest) (f : α → Reader β) :
    (p >>= f) cs = f a rest := by
  change Reader.bind p f cs = f a rest
  rw [Reader.bind, h]

theorem bind_eq_of_failed {cs : List Char} {failure : Failure} (h : p cs = .failed failure)
    (f : α → Reader β) : (p >>= f) cs = .failed failure := by
  change Reader.bind p f cs = .failed failure
  rw [Reader.bind, h]

-- On every text of one kind `p` gives `a` and leaves a text of another kind.
def Reads (p : Reader α) (a : α) (before after : List Char → Prop) : Prop :=
  ∀ cs, before cs → ∃ rest, p cs = .done a rest ∧ after rest

-- On every text of one kind `p` fails without being committed.
def Refuses (p : Reader α) (before : List Char → Prop) : Prop :=
  ∀ cs, before cs → ∃ failure, p cs = .failed failure ∧ failure.committed = false

namespace Reads

theorem pure (a : α) (before : List Char → Prop) : Reads (return a) a before before :=
  fun cs h => ⟨cs, rfl, h⟩

theorem bind {f : α → Reader β} {b : β} (hp : Reads p a before middle)
    (hf : Reads (f a) b middle after) : Reads (p >>= f) b before after := by
  intro cs h
  obtain ⟨rest, hrest, hmiddle⟩ := hp cs h
  obtain ⟨last, hlast, hafter⟩ := hf rest hmiddle
  exact ⟨last, (bind_eq_of_done hrest f).trans hlast, hafter⟩

theorem commit (hp : Reads p a before after) : Reads (commit p) a before after := by
  intro cs h
  obtain ⟨rest, hrest, hafter⟩ := hp cs h
  exact ⟨rest, by rw [Reader.commit, hrest], hafter⟩

theorem expecting (what : String) (hp : Reads p a before after) :
    Reads (expecting what p) a before after := by
  intro cs h
  obtain ⟨rest, hrest, hafter⟩ := hp cs h
  exact ⟨rest, by rw [Reader.expecting, hrest], hafter⟩

theorem orElse_left (hp : Reads p a before after) : Reads (orElse p q) a before after := by
  intro cs h
  obtain ⟨rest, hrest, hafter⟩ := hp cs h
  exact ⟨rest, by rw [orElse, hrest], hafter⟩

theorem orElse_right (hp : Refuses p before) (hq : Reads q a before after) :
    Reads (orElse p q) a before after := by
  intro cs h
  obtain ⟨failure, hfailure, hopen⟩ := hp cs h
  obtain ⟨rest, hrest, hafter⟩ := hq cs h
  refine ⟨rest, ?_, hafter⟩
  simp only [orElse, hfailure, hopen, Bool.false_eq_true, if_false]
  exact hrest

theorem optional (hp : Reads p a before after) : Reads (optional p) (some a) before after := by
  intro cs h
  obtain ⟨rest, hrest, hafter⟩ := hp cs h
  exact ⟨rest, by rw [Reader.optional, hrest], hafter⟩

theorem mapped {f : α → Option β} {b : β} (hp : Reads p a before after) (hf : f a = some b) :
    Reads (mapped p f) b before after := by
  intro cs h
  obtain ⟨rest, hrest, hafter⟩ := hp cs h
  exact ⟨rest, by simp only [Reader.mapped, hrest, hf], hafter⟩

theorem weaken {before' after' : List Char → Prop} (hp : Reads p a before after)
    (hbefore : ∀ cs, before' cs → before cs) (hafter : ∀ cs, after cs → after' cs) :
    Reads p a before' after' := by
  intro cs h
  obtain ⟨rest, hrest, hleft⟩ := hp cs (hbefore cs h)
  exact ⟨rest, hrest, hafter rest hleft⟩

end Reads

namespace Refuses

theorem bind {f : α → Reader β} (hp : Refuses p before) : Refuses (p >>= f) before := by
  intro cs h
  obtain ⟨failure, hfailure, hopen⟩ := hp cs h
  exact ⟨failure, bind_eq_of_failed hfailure f, hopen⟩

-- What was read before a failure does not commit to it.
theorem after_reads {f : α → Reader β} (hp : Reads p a before middle)
    (hf : Refuses (f a) middle) : Refuses (p >>= f) before := by
  intro cs h
  obtain ⟨rest, hrest, hmiddle⟩ := hp cs h
  obtain ⟨failure, hfailure, hopen⟩ := hf rest hmiddle
  exact ⟨failure, (bind_eq_of_done hrest f).trans hfailure, hopen⟩

theorem expecting (what : String) (hp : Refuses p before) : Refuses (expecting what p) before := by
  intro cs h
  obtain ⟨failure, hfailure, hopen⟩ := hp cs h
  exact ⟨{ failure with expected := failure.expected ++ [what] },
    by rw [Reader.expecting, hfailure], hopen⟩

theorem orElse (hp : Refuses p before) (hq : Refuses q before) :
    Refuses (orElse p q) before := by
  intro cs h
  obtain ⟨failure, hfailure, hopen⟩ := hp cs h
  obtain ⟨last, hlast, hlastOpen⟩ := hq cs h
  refine ⟨last, ?_, hlastOpen⟩
  simp only [Reader.orElse, hfailure, hopen, Bool.false_eq_true, if_false]
  exact hlast

theorem optional (hp : Refuses p before) : Reads (optional p) none before before := by
  intro cs h
  obtain ⟨failure, hfailure, hopen⟩ := hp cs h
  refine ⟨cs, ?_, h⟩
  simp only [Reader.optional, hfailure, hopen, Bool.false_eq_true, if_false]

theorem separated {separator : Reader Unit} (hp : Refuses p before) :
    Reads (separated p separator) [] before before :=
  Reads.bind hp.optional (Reads.pure [] before)

end Refuses

section Repetition

variable {val : ι → α}

-- Texts that hold no items are refused, and of the others the first item is read.
theorem Reads.manyUpTo {holds : List ι → List Char → Prop}
    (hitem : ∀ i is, Reads p (val i) (holds (i :: is)) (holds is))
    (hend : Refuses p (holds [])) (is : List ι) {fuel : Nat} (hfuel : is.length ≤ fuel) :
    Reads (manyUpTo p fuel) (is.map val) (holds is) (holds []) := by
  intro cs h
  -- the fuel is used up item by item, and the first text without an item ends the reading
  induction is generalizing cs fuel with
  | nil =>
    cases fuel with
    | zero => exact ⟨cs, rfl, h⟩
    | succ fuel =>
      obtain ⟨failure, hfailure, hopen⟩ := hend cs h
      refine ⟨cs, ?_, h⟩
      simp only [Reader.manyUpTo, hfailure, hopen, Bool.false_eq_true, if_false, List.map_nil]
  | cons i is ih =>
    cases fuel with
    | zero => simp at hfuel
    | succ fuel =>
      obtain ⟨rest, hrest, hholds⟩ := hitem i is cs h
      obtain ⟨last, hlast, hlastHolds⟩ := ih (Nat.le_of_succ_le_succ hfuel) rest hholds
      refine ⟨last, ?_, hlastHolds⟩
      simp only [Reader.manyUpTo, hrest, hlast, List.map_cons]

theorem Reads.many (holds : List ι → List Char → Prop)
    (hitem : ∀ i is, Reads p (val i) (holds (i :: is)) (holds is))
    (hend : Refuses p (holds [])) (hlength : ∀ is cs, holds is cs → is.length ≤ cs.length)
    (is : List ι) : Reads (many p) (is.map val) (holds is) (holds []) :=
  fun cs h => Reads.manyUpTo hitem hend is (hlength is cs h) cs h

theorem Reads.separated {separator : Reader Unit} {as : List α} (hp : Reads p a before middle)
    (hrest : Reads (Reader.many (separator.bind fun _ => p)) as middle after) :
    Reads (Reader.separated p separator) (a :: as) before after :=
  hp.optional.bind (hrest.bind (Reads.pure (a :: as) after))

end Repetition

-- Whatever `p` reads has a property.
def Gives (p : Reader α) (property : α → Prop) : Prop :=
  ∀ cs a rest, p cs = .done a rest → property a

namespace Gives

variable {property : α → Prop} {property' : β → Prop}

theorem any (p : Reader α) : Gives p fun _ => True := fun _ _ _ _ => trivial

theorem pure (h : property a) : Gives (return a) property := by
  intro cs b rest hb
  cases hb
  exact h

theorem bind {f : α → Reader β} (hp : Gives p property)
    (hf : ∀ a, property a → Gives (f a) property') : Gives (p >>= f) property' := by
  intro cs b last hb
  cases hread : p cs with
  | done a rest =>
    rw [bind_eq_of_done hread] at hb
    exact hf a (hp cs a rest hread) rest b last hb
  | failed failure =>
    rw [bind_eq_of_failed hread] at hb
    cases hb

theorem of_rest {f : α → Reader β} (hf : ∀ a, Gives (f a) property') :
    Gives (p >>= f) property' :=
  (any p).bind fun a _ => hf a

theorem commit (hp : Gives p property) : Gives (commit p) property := by
  intro cs a rest h
  rw [Reader.commit] at h
  split at h
  · cases h
  · exact hp cs a rest h

theorem expecting (what : String) (hp : Gives p property) : Gives (expecting what p) property := by
  intro cs a rest h
  rw [Reader.expecting] at h
  split at h
  · cases h
  · exact hp cs a rest h

theorem orElse (hp : Gives p property) (hq : Gives q property) : Gives (orElse p q) property := by
  intro cs a rest h
  rw [Reader.orElse] at h
  split at h
  · split at h
    · cases h
    · exact hq cs a rest h
  · exact hp cs a rest h

theorem manyUpTo (hp : Gives p property) (fuel : Nat) :
    Gives (manyUpTo p fuel) fun as => ∀ a ∈ as, property a := by
  induction fuel with
  | zero =>
    intro cs as rest h
    cases h
    simp
  | succ fuel ih =>
    intro cs as last h
    rw [Reader.manyUpTo] at h
    dsimp only at h
    split at h
    next a rest ha =>
      split at h
      next more _ hmore =>
        cases h
        intro b hb
        rcases List.mem_cons.mp hb with rfl | hb
        · exact hp cs b rest ha
        · exact ih rest more _ hmore b hb
      next => cases h
    next =>
      split at h
      · cases h
      · cases h
        simp

theorem many (hp : Gives p property) : Gives (many p) fun as => ∀ a ∈ as, property a :=
  fun cs => hp.manyUpTo cs.length cs

end Gives

end Targeting.DefinitionText.Reader
