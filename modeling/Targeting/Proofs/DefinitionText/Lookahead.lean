import Mathlib
import Targeting.Proofs.DefinitionText.Following
import Targeting.Proofs.DefinitionText.Tokens

namespace Targeting.DefinitionText

open Reader

-- What comes after blanks and comments starts with a character of some kind.
def Leads (ok : Char → Bool) (cs : List Char) : Prop := (dropBlanks false cs).head?.any ok = true

-- Something comes after blanks and comments, and it is no comment without an end.
abbrev Occupied : List Char → Prop := Leads (· != '#')

section Blanks

variable {cs rest : List Char} {c : Char} {ok ok' : Char → Bool}

theorem Leads.imp (h : Leads ok cs) (himp : ∀ c, ok c = true → ok' c = true) : Leads ok' cs := by
  obtain ⟨c, hc, hok⟩ := (Option.any_eq_true _ _).mp h
  exact (Option.any_eq_true _ _).mpr ⟨c, hc, himp c hok⟩

theorem leads_iff : Leads ok cs ↔ ∃ c rest, dropBlanks false cs = c :: rest ∧ ok c = true := by
  rw [Leads]
  cases dropBlanks false cs <;> simp

-- Without a token that starts with a character that is no blank there are no blanks to drop.
theorem leads_of_head (hc : endsToken c = false) (hok : ok c = true) : Leads ok (c :: rest) := by
  rw [Leads, dropBlanks_of_head (by simpa using hc)]
  exact hok

theorem dropBlanks_dropBlanks (inComment : Bool) (cs : List Char) :
    dropBlanks false (dropBlanks inComment cs) = dropBlanks inComment cs := by
  induction cs generalizing inComment with
  | nil => rfl
  | cons c cs ih =>
    rw [dropBlanks]
    split
    · exact ih _
    · split
      · exact ih _
      next hblank =>
        split
        · exact ih _
        next hhash => rw [dropBlanks, if_neg Bool.false_ne_true, if_neg hblank, if_neg hhash]

theorem length_dropBlanks_le (inComment : Bool) (cs : List Char) :
    (dropBlanks inComment cs).length ≤ cs.length := by
  induction cs generalizing inComment with
  | nil => exact Nat.le_refl _
  | cons c cs ih =>
    rw [dropBlanks]
    split
    · exact (ih _).trans (Nat.le_succ _)
    · split
      · exact (ih _).trans (Nat.le_succ _)
      · split
        · exact (ih _).trans (Nat.le_succ _)
        · exact Nat.le_refl _

theorem feed_mem_of_dropBlanks (h : dropBlanks true cs ≠ []) : '\n' ∈ cs := by
  induction cs with
  | nil => exact absurd rfl h
  | cons c cs ih =>
    by_cases hc : c = '\n'
    · exact hc ▸ List.mem_cons_self
    · rw [dropBlanks, if_pos rfl, bne_iff_ne.mpr hc] at h
      exact List.mem_cons_of_mem _ (ih h)

-- Where a comment ends at a line feed it ends there whatever follows.
theorem commentEnds_append {more : List Char} (h : commentEnds cs = true)
    (hfeed : '\n' ∈ cs ∨ more.head? = some '\n') : commentEnds (cs ++ more) = true := by
  induction cs with
  | nil =>
    obtain ⟨more, rfl⟩ := List.head?_eq_some_iff.mp (hfeed.resolve_left List.not_mem_nil)
    rfl
  | cons c cs ih =>
    by_cases hc : c = '\n'
    · subst hc
      rfl
    · by_cases hreturn : c = '\r'
      · subst hreturn
        cases cs with
        | nil => cases h
        | cons d cs =>
          by_cases hd : d = '\n'
          · subst hd
            rfl
          · simp [commentEnds, hd] at h
      · have hrest : '\n' ∈ cs ∨ more.head? = some '\n' :=
          hfeed.imp_left fun hmem => (List.mem_cons.mp hmem).resolve_left (Ne.symm hc)
        rw [commentEnds] at h
        · rw [List.cons_append, commentEnds]
          · exact ih h hrest
          all_goals simp [hc, hreturn]
        all_goals simp [hc, hreturn]

theorem dropBlanks_append {inComment : Bool} (h : dropBlanks inComment cs = c :: rest)
    (hc : c ≠ '#') (more : List Char) : dropBlanks inComment (cs ++ more) = c :: rest ++ more := by
  induction cs generalizing inComment with
  | nil => cases h
  | cons d cs ih =>
    rw [List.cons_append]
    rw [dropBlanks] at h ⊢
    split at h
    next hcomment =>
      rw [if_pos hcomment]
      exact ih h
    next hcomment =>
      rw [if_neg hcomment]
      split at h
      next hblank =>
        rw [if_pos hblank]
        exact ih h
      next hblank =>
        rw [if_neg hblank]
        split at h
        next hhash =>
          obtain ⟨hd, hends⟩ := Bool.and_eq_true_iff.mp hhash
          have hfeed := feed_mem_of_dropBlanks (by rw [h]; exact List.cons_ne_nil _ _)
          rw [if_pos (by rw [hd, commentEnds_append hends (.inl hfeed), Bool.and_self])]
          exact ih h
        next hhash =>
          obtain ⟨rfl, rfl⟩ := List.cons_eq_cons.mp h
          rw [if_neg (by simp [hc])]
          rfl

theorem Leads.ne_nil (h : Leads ok cs) : cs ≠ [] := by
  rintro rfl
  cases h

theorem Leads.append (h : Leads ok cs) (hhash : ok '#' = false) (more : List Char) :
    Leads ok (cs ++ more) := by
  obtain ⟨c, rest, hdrop, hc⟩ := leads_iff.mp h
  have hne : c ≠ '#' := by
    rintro rfl
    rw [hhash] at hc
    cases hc
  exact leads_iff.mpr ⟨c, rest ++ more, dropBlanks_append hdrop hne more, hc⟩

end Blanks

-- Characters that stand in no gap.
def isSolid (c : Char) : Bool := !endsToken c

theorem ne_hash_of_isSolid {c : Char} (h : isSolid c = true) : (c != '#') = true := by
  rw [bne_iff_ne]
  rintro rfl
  cases h

section Taking

variable {α β : Type} {p q : Reader α} {before : List Char → Prop} {ok ok' : Char → Bool}
  {cs rest : List Char}

-- What `p` reads starts with a character of some kind, which is a part of it.
def Takes (p : Reader α) (ok : Char → Bool) : Prop :=
  ∀ cs a rest, p cs = .done a rest → ∃ c read, cs = c :: (read ++ rest) ∧ ok c = true

namespace Takes

theorem imp (hp : Takes p ok) (himp : ∀ c, ok c = true → ok' c = true) : Takes p ok' := by
  intro cs a rest h
  obtain ⟨c, read, hcs, hc⟩ := hp cs a rest h
  exact ⟨c, read, hcs, himp c hc⟩

theorem map (hp : Takes p ok) (f : α → β) : Takes (do return f (← p)) ok := by
  intro cs b rest h
  obtain ⟨a, left, hread, hrest⟩ := bind_eq_done_iff.mp h
  cases hrest
  exact hp cs a rest hread

theorem orElse (hp : Takes p ok) (hq : Takes q ok) : Takes (orElse p q) ok := by
  intro cs a rest h
  rw [Reader.orElse] at h
  split at h
  · split at h
    · cases h
    · exact hq cs a rest h
  · exact hp cs a rest h

theorem leads (hp : Takes p ok) (hok : ∀ c, ok c = true → isSolid c = true) {a : α}
    (h : p cs = .done a rest) : Leads ok cs ∧ rest.length < cs.length := by
  obtain ⟨c, read, rfl, hc⟩ := hp cs a rest h
  have hsolid : endsToken c = false := by simpa [isSolid] using hok c hc
  exact ⟨leads_of_head hsolid hc, by simp⟩

end Takes

theorem persists_of_steady {more : List Char} (hp : Steady more p fun _ => True)
    (htakes : Takes p ok) (hok : ∀ c, ok c = true → isSolid c = true) :
    Persists more p (Leads ok) fun _ => True := by
  intro cs a rest h _
  obtain ⟨hleads, hlt⟩ := htakes.leads hok h
  refine ⟨hleads, hlt.le, ?_⟩
  rw [hp cs trivial, h]
  rfl

theorem commits_blanks : Commits blanks := by
  intro cs failure h
  cases h

theorem steady_blanks (more : List Char) : Steady more blanks Occupied := by
  intro cs h
  obtain ⟨c, rest, hdrop, hc⟩ := leads_iff.mp h
  rw [blanks, blanks, dropBlanks_append hdrop (by simpa using hc), hdrop]
  rfl

theorem persists_blanks (hhash : ok '#' = false) (more : List Char) :
    Persists more blanks (Leads ok) (Leads ok) := by
  intro cs _ rest h hrest
  cases h
  rw [Leads, dropBlanks_dropBlanks] at hrest
  obtain ⟨c, left, hdrop, hok⟩ := leads_iff.mp hrest
  have hc : c ≠ '#' := by
    rintro rfl
    rw [hhash] at hok
    cases hok
  refine ⟨hrest, length_dropBlanks_le _ _, ?_⟩
  rw [blanks, dropBlanks_append hdrop hc, hdrop]

theorem consumes_after_blanks {p : Reader α} (hp : Consumes p) :
    Consumes (blanks >>= fun _ => p) := by
  intro cs a rest h
  obtain ⟨_, left, hblanks, hread⟩ := bind_eq_done_iff.mp h
  cases hblanks
  exact (hp _ a rest hread).trans_le (length_dropBlanks_le _ _)

end Taking

namespace Reader.Persists

variable {α β : Type} {more : List Char} {p : Reader α} {before after : List Char → Prop}

-- A character that stands in no gap starts no comment.
theorem occupied {w : Char} (hp : Persists more p (Leads (· == w)) after) (hw : isSolid w = true) :
    Persists more p Occupied after :=
  hp.weaken (fun _ h => h.imp fun _ hc => eq_of_beq hc ▸ ne_hash_of_isSolid hw) fun _ h => h

theorem after_blanks (hp : Persists more p Occupied after) :
    Persists more (blanks >>= fun _ => p) Occupied after :=
  (persists_blanks rfl more).bind fun _ => hp

theorem andThen {f : α → Reader β} (hp : Persists more p before fun _ => True)
    (hf : ∀ a, Persists more (f a) Occupied after) : Persists more (p >>= f) before after :=
  hp.narrow.bind hf

end Reader.Persists

end Targeting.DefinitionText
