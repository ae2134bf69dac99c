import Mathlib
import Targeting.Proofs.DefinitionText.Reading
import Targeting.Proofs.DefinitionText.Writing

namespace Targeting.DefinitionText

open Reader

section Characters

variable {c : Char}

theorem eq_of_isBlank (h : isBlank c = true) :
    c = ' ' ∨ c = '\t' ∨ c = '\n' ∨ c = '\x0c' ∨ c = '\r' := by
  simpa [isBlank, or_assoc] using h

theorem isWordChar_of_isDigit (h : c.isDigit = true) : isWordChar c = true := by
  simp [isWordChar, Char.isAlphanum, h]

theorem isWordChar_of_isAlpha (h : (c.isAlpha || c == '_') = true) : isWordChar c = true := by
  rw [isWordChar, Char.isAlphanum]
  rcases Bool.or_eq_true_iff.mp h with h | h <;> simp [h]

-- What a gap starts with belongs to no token.
def endsToken (c : Char) : Bool := isBlank c || c == '#'

theorem eq_of_endsToken (h : endsToken c = true) :
    c = ' ' ∨ c = '\t' ∨ c = '\n' ∨ c = '\x0c' ∨ c = '\r' ∨ c = '#' := by
  rcases Bool.or_eq_true_iff.mp h with h | h
  · rcases eq_of_isBlank h with h | h | h | h | h <;> simp [h]
  · simp [eq_of_beq h]

theorem not_isWordChar_of_endsToken (h : endsToken c = true) :
    (isWordChar c || c == '.') = false := by
  rcases eq_of_endsToken h with rfl | rfl | rfl | rfl | rfl | rfl <;> rfl

theorem not_endsToken_of_isWordChar (h : isWordChar c = true) : endsToken c = false := by
  rw [← Bool.not_eq_true]
  intro hends
  have hnot := not_isWordChar_of_endsToken hends
  rw [h] at hnot
  cases hnot

end Characters

section Gaps

theorem commentEnds_of_line {note : List Char} (rest : List Char) (h : '\r' ∉ note) :
    commentEnds (note ++ '\n' :: rest) = true := by
  induction note with
  | nil => rfl
  | cons c note ih =>
    have hrest := ih fun hmem => h (List.mem_cons_of_mem _ hmem)
    by_cases hreturn : c = '\r'
    · exact absurd (hreturn ▸ List.mem_cons_self) h
    · by_cases hfeed : c = '\n'
      · subst hfeed
        rfl
      · rw [List.cons_append, commentEnds]
        · exact hrest
        · exact hfeed
        · intro _ hc
          exact absurd hc hreturn
        · exact hreturn

theorem dropBlanks_line {note : List Char} (rest : List Char) (h : '\n' ∉ note) :
    dropBlanks true (note ++ '\n' :: rest) = dropBlanks false rest := by
  induction note with
  | nil => rfl
  | cons c note ih =>
    have hne : (c != '\n') = true := by
      rw [bne_iff_ne]
      rintro rfl
      exact h List.mem_cons_self
    rw [List.cons_append, dropBlanks, if_pos rfl, hne]
    exact ih fun hmem => h (List.mem_cons_of_mem _ hmem)

theorem dropBlanks_of_head {rest : List Char} (h : rest.head?.any endsToken = false) :
    dropBlanks false rest = rest := by
  cases rest with
  | nil => rfl
  | cons c rest =>
    obtain ⟨hblank, hhash⟩ := Bool.or_eq_false_iff.mp h
    simp [dropBlanks, hblank, hhash]

-- A gap is dropped as far as the token after it.
theorem dropBlanks_gap {gap rest : List Char} (hgap : Gap gap)
    (hrest : rest.head?.any endsToken = false) : dropBlanks false (gap ++ rest) = rest := by
  induction hgap with
  | nil => exact dropBlanks_of_head hrest
  | blank hc _ ih => simpa [dropBlanks, hc] using ih
  | @comment note more hfeed hreturn _ ih =>
    -- a comment is dropped only if a line feed ends it, and no carriage return comes before that
    have hends : commentEnds (note ++ '\n' :: (more ++ rest)) = true :=
      commentEnds_of_line _ hreturn
    have hhash : isBlank '#' = false := rfl
    rw [List.cons_append, List.append_assoc, List.cons_append, dropBlanks]
    simp only [Bool.false_eq_true, if_false, hhash, hends, beq_self_eq_true, Bool.and_self, if_true]
    rw [dropBlanks_line _ hfeed]
    exact ih

theorem Gap.head {gap : List Char} (h : Gap gap) (hne : gap ≠ []) :
    ∃ c rest, gap = c :: rest ∧ endsToken c = true := by
  cases h with
  | nil => exact absurd rfl hne
  | @blank c rest hc => exact ⟨c, rest, rfl, by simp [endsToken, hc]⟩
  | comment => exact ⟨'#', _, rfl, rfl⟩

end Gaps

section Heads

theorem head_signed {digits : List Char} (hne : digits ≠ []) (h : ∀ c ∈ digits, c.isDigit = true)
    (negative : Bool) (more : List Char) :
    ∃ c rest, (if negative then ['-'] else []) ++ (digits ++ more) = c :: rest ∧
      (c = '-' ∨ c.isDigit = true) := by
  obtain ⟨c, rest, rfl⟩ := List.exists_cons_of_ne_nil hne
  cases negative with
  | true => exact ⟨_, _, rfl, .inl rfl⟩
  | false => exact ⟨c, _, rfl, .inr (h c List.mem_cons_self)⟩

theorem Integer.head (n : Integer) :
    ∃ c rest, n.chars = c :: rest ∧ (c = '-' ∨ c.isDigit = true) := by
  have hsigned := head_signed n.digits_ne_nil n.digits_ok n.negative []
  rwa [List.append_nil] at hsigned

theorem Numeral.head (n : Numeral) :
    ∃ c rest, n.chars = c :: rest ∧ (c = '-' ∨ c.isDigit = true) :=
  head_signed n.whole_ne_nil n.whole_ok n.negative ('.' :: n.fraction)

-- A token starts with a character that neither is in a gap nor goes on with a token that ended
-- before it.
theorem Token.head (t : Token) :
    ∃ c rest, t.chars = c :: rest ∧ endsToken c = false ∧ c ≠ '.' ∧ c ≠ '=' := by
  have hword {c : Char} (h : isWordChar c = true) : endsToken c = false ∧ c ≠ '.' ∧ c ≠ '=' :=
    ⟨not_endsToken_of_isWordChar h, (by rintro rfl; cases h), (by rintro rfl; cases h)⟩
  have hsigned {c : Char} (h : c = '-' ∨ c.isDigit = true) :
      endsToken c = false ∧ c ≠ '.' ∧ c ≠ '=' := by
    rcases h with rfl | h
    · decide
    · exact hword (isWordChar_of_isDigit h)
  cases t with
  | word w =>
    rcases w with (_ | _) | _ | _ | _ | _ | _ | _ | _ | _ | _ | (_ | _) <;>
      exact ⟨_, _, rfl, by decide, by decide, by decide⟩
  | symbol s =>
    rcases s with _ | _ | (_ | _) | (_ | _) | _ | _ | ⟨_ | _, _ | _⟩ <;>
      exact ⟨_, _, rfl, by decide, by decide, by decide⟩
  | path p => exact ⟨p.head, p.tail, rfl, hword (isWordChar_of_isAlpha p.head_ok)⟩
  | text body => exact ⟨_, _, rfl, by decide, by decide, by decide⟩
  | integer n =>
    obtain ⟨c, rest, hchars, hc⟩ := n.head
    exact ⟨c, rest, hchars, hsigned hc⟩
  | decimal n =>
    obtain ⟨c, rest, hchars, hc⟩ := n.head
    exact ⟨c, rest, hchars, hsigned hc⟩

end Heads

-- Texts at the start of a token, without a gap before it.
def At : List Token → List Char → Prop
  | [], cs => cs = []
  | t :: ts, cs => ∃ rest, cs = t.chars ++ rest ∧ Laid (some t) ts rest

section Layout

variable {t : Token} {ts : List Token} {cs rest : List Char}

theorem Laid.forget {previous : Option Token} (h : Laid previous ts cs) : Laid none ts cs := by
  cases h with
  | nil hgap => exact .nil hgap
  | cons hgap _ hrest => exact .cons hgap (by simp) hrest

theorem At.head (h : At ts cs) : cs.head?.any endsToken = false := by
  cases ts with
  | nil =>
    cases h
    rfl
  | cons t ts =>
    obtain ⟨rest, rfl, -⟩ := h
    obtain ⟨c, more, hchars, hc, -⟩ := t.head
    simpa [hchars] using hc

theorem reads_blanks (ts : List Token) : Reads blanks () (Laid none ts) (At ts) := by
  intro cs h
  refine ⟨_, rfl, ?_⟩
  cases h with
  | nil hgap =>
    have hdrop : dropBlanks false (cs ++ []) = [] := dropBlanks_gap hgap rfl
    rw [List.append_nil] at hdrop
    exact hdrop
  | @cons _ gap t ts rest hgap _ hrest =>
    have hat : At (t :: ts) (t.chars ++ rest) := ⟨rest, rfl, hrest⟩
    rw [dropBlanks_gap hgap hat.head]
    exact hat

-- After a token that ends in a word character no word character and no point can follow.
theorem Laid.head_after (h : Laid (some t) ts rest)
    (hend : (t.isPath || t.chars.getLast?.any isWordChar) = true) :
    rest.head?.any (fun c => isWordChar c || c == '.') = false := by
  cases h with
  | nil hgap =>
    by_cases hne : rest = []
    · rw [hne]
      rfl
    · obtain ⟨c, more, rfl, hc⟩ := hgap.head hne
      exact not_isWordChar_of_endsToken hc
  | @cons _ gap u ts rest hgap htouch hrest =>
    by_cases hne : gap = []
    · obtain ⟨c, more, hchars, -, hdot, -⟩ := u.head
      have huntouched := htouch hne t rfl
      rw [Token.touches, hchars] at huntouched
      obtain ⟨hpath, hmeet⟩ := Bool.or_eq_false_iff.mp huntouched
      rw [hpath, Bool.false_or] at hend
      rw [hend, Bool.true_and] at hmeet
      have hword : isWordChar c = false := hmeet
      simp [hne, hchars, hword, hdot]
    · obtain ⟨c, more, rfl, hc⟩ := hgap.head hne
      exact not_isWordChar_of_endsToken hc

theorem Laid.head_ne_equals {previous : Option Token} (h : Laid previous ts cs) :
    cs.head? ≠ some '=' := by
  have hgap {gap : List Char} (hgap : Gap gap) : gap.head? ≠ some '=' := by
    by_cases hne : gap = []
    · simp [hne]
    · obtain ⟨c, more, rfl, hc⟩ := hgap.head hne
      intro heq
      cases heq
      cases hc
  cases h with
  | nil h => exact hgap h
  | @cons _ gap t ts rest h _ _ =>
    obtain ⟨c, more, hchars, -, -, hequals⟩ := t.head
    cases gap with
    | nil => simpa [hchars] using hequals
    | cons d gap =>
      have hne := hgap h
      simpa using hne

theorem Laid.length_le {previous : Option Token} (h : Laid previous ts cs) :
    ts.length ≤ cs.length := by
  induction h with
  | nil => exact Nat.zero_le _
  | @cons previous gap t ts rest _ _ _ ih =>
    obtain ⟨c, more, hchars, -⟩ := t.head
    simp only [List.length_cons, List.length_append, hchars]
    omega

end Layout

end Targeting.DefinitionText
