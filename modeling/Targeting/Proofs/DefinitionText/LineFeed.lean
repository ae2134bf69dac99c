import Mathlib
import Targeting.Proofs.DefinitionText.Lookahead

namespace Targeting.DefinitionText

open Reader

-- A line feed is in no token but a text, and ends every other one.
section Feed

variable {cs b : List Char} {f : Char → Bool}

theorem takeWhile_feed (hf : f '\n' = false) (cs b : List Char) :
    (cs ++ '\n' :: b).takeWhile f = cs.takeWhile f := by
  induction cs with
  | nil => simp [hf]
  | cons c cs ih => rw [List.cons_append, List.takeWhile_cons, List.takeWhile_cons, ih]

theorem dropWhile_feed (hf : f '\n' = false) (cs b : List Char) :
    (cs ++ '\n' :: b).dropWhile f = cs.dropWhile f ++ '\n' :: b := by
  induction cs with
  | nil => simp [hf]
  | cons c cs ih =>
    rw [List.cons_append, List.dropWhile_cons, List.dropWhile_cons, ih]
    split <;> rfl

theorem literalFrom_feed {word : List Char} (hword : '\n' ∉ word) (cs b : List Char) :
    literalFrom word (cs ++ '\n' :: b) = (literalFrom word cs).map (· ++ '\n' :: b) := by
  induction word generalizing cs with
  | nil => rfl
  | cons w ws ih =>
    rw [List.mem_cons, not_or] at hword
    cases cs with
    | nil => simp [literalFrom, Ne.symm hword.1]
    | cons c cs =>
      rw [List.cons_append, literalFrom, literalFrom]
      split
      · exact ih hword.2 cs
      · rfl

theorem literalFrom_eq_some {word cs rest : List Char} (h : literalFrom word cs = some rest) :
    cs = word ++ rest := by
  induction word generalizing cs with
  | nil => cases h; rfl
  | cons w ws ih =>
    cases cs with
    | nil => cases h
    | cons c cs =>
      rw [literalFrom] at h
      split at h
      next hc => rw [← eq_of_beq hc, ih h, List.cons_append]
      next => cases h

theorem steady_literal {word : String} (hword : '\n' ∉ word.toList) (b : List Char) :
    Steady ('\n' :: b) (literal word) fun _ => True := by
  intro cs _
  rw [literal, literal, literalFrom_feed hword]
  cases literalFrom word.toList cs <;> rfl

theorem takes_literal {word : String} {w : Char} {ws : List Char} (hword : word.toList = w :: ws) :
    Takes (literal word) (· == w) := by
  intro cs a rest h
  rw [literal] at h
  split at h
  next left hleft =>
    cases h
    rw [hword] at hleft
    exact ⟨w, ws, literalFrom_eq_some hleft, beq_self_eq_true w⟩
  next => cases h

theorem steady_wordEnd (b : List Char) : Steady ('\n' :: b) wordEnd fun _ => True := by
  intro cs _
  rw [wordEnd, wordEnd]
  cases cs with
  | nil => rfl
  | cons c cs =>
    rw [List.cons_append, List.head?_cons, Option.any_some, List.head?_cons, Option.any_some]
    cases isWordChar c <;> rfl

theorem steady_path (b : List Char) : Steady ('\n' :: b) path fun _ => True := by
  intro cs _
  cases cs with
  | nil => rfl
  | cons c cs =>
    rw [List.cons_append, path, path]
    split
    · rw [takeWhile_feed rfl, dropWhile_feed rfl]
      rfl
    · rfl

theorem takes_path : Takes path fun c => c.isAlpha || c == '_' := by
  intro cs a rest h
  cases cs with
  | nil => cases h
  | cons c cs =>
    rw [path] at h
    split at h
    next hc =>
      cases h
      exact ⟨c, _, by rw [List.takeWhile_append_dropWhile], hc⟩
    next => cases h

theorem steady_negativeNumber (b : List Char) :
    Steady ('\n' :: b) negativeNumber fun _ => True := by
  intro cs _
  have htake (ds : List Char) := takeWhile_feed (f := fun c => c.isDigit || c == '.') rfl ds b
  have hdrop (ds : List Char) := dropWhile_feed (f := fun c => c.isDigit || c == '.') rfl ds b
  cases cs with
  | nil => rfl
  | cons c cs =>
    by_cases hc : c = '-'
    · subst hc
      simp only [List.cons_append, negativeNumber, htake, hdrop]
      split
      · rfl
      · split <;> rfl
    · rw [List.cons_append, negativeNumber, negativeNumber]
      · rfl
      all_goals simp [hc]

theorem takes_negativeNumber : Takes negativeNumber (· == '-') := by
  intro cs a rest h
  unfold negativeNumber at h
  split at h
  next digits =>
    dsimp only at h
    split at h
    · cases h
    · split at h
      · cases h
        exact ⟨'-', _, by rw [List.takeWhile_append_dropWhile], rfl⟩
      · cases h
  next => cases h

theorem steady_floatLiteral (b : List Char) : Steady ('\n' :: b) floatLiteral fun _ => True := by
  intro cs _
  have htake (ds : List Char) := takeWhile_feed (f := Char.isDigit) rfl ds b
  have hdrop (ds : List Char) := dropWhile_feed (f := Char.isDigit) rfl ds b
  rw [floatLiteral, floatLiteral, htake, hdrop]
  cases cs.dropWhile Char.isDigit with
  | nil => rfl
  | cons c fraction =>
    by_cases hc : c = '.'
    · subst hc
      simp only [List.cons_append, htake, hdrop]
      split
      · rfl
      · split <;> rfl
    · simp [hc, Outcome.followed]

theorem takes_floatLiteral : Takes floatLiteral Char.isDigit := by
  intro cs a rest h
  rw [floatLiteral] at h
  dsimp only at h
  split at h
  next fraction hfraction =>
    split at h
    · cases h
    next hempty =>
      split at h
      · cases h
        have hcs := List.takeWhile_append_dropWhile (p := Char.isDigit) (l := cs)
        have hrest := List.takeWhile_append_dropWhile (p := Char.isDigit) (l := fraction)
        have hne : cs.takeWhile Char.isDigit ≠ [] := by
          intro hnil
          simp [hnil] at hempty
        obtain ⟨c, whole, hwhole⟩ := List.exists_cons_of_ne_nil hne
        have hc : c.isDigit = true :=
          List.mem_takeWhile_imp (p := Char.isDigit) (by rw [hwhole]; exact List.mem_cons_self)
        refine ⟨c, whole ++ '.' :: fraction.takeWhile Char.isDigit, ?_, hc⟩
        rw [← hcs, hfraction, hwhole, ← hrest]
        simp
      · cases h
  next => cases h

-- The sign before the digits of an integer, and what follows it.
def splitSign : List Char → List Char × List Char
  | '+' :: rest => (['+'], rest)
  | '-' :: rest => (['-'], rest)
  | cs => ([], cs)

-- The digits of an integer after its sign.
def digitsAfter (sign : List Char) : List Char → Option (List Char × List Char)
  | c :: rest =>
    if c.isDigit && c != '0' then
      some (sign ++ c :: rest.takeWhile Char.isDigit, rest.dropWhile Char.isDigit)
    else if c == '0' && sign.isEmpty then some (['0'], rest)
    else none
  | [] => none

theorem integerDigits_eq (cs : List Char) :
    integerDigits cs = digitsAfter (splitSign cs).1 (splitSign cs).2 := by
  cases cs with
  | nil => rfl
  | cons c cs =>
    by_cases hplus : c = '+'
    · subst hplus
      rfl
    · by_cases hminus : c = '-'
      · subst hminus
        rfl
      · simp [integerDigits, splitSign, digitsAfter, hplus, hminus]

theorem splitSign_feed (cs b : List Char) : splitSign (cs ++ '\n' :: b)
    = ((splitSign cs).1, (splitSign cs).2 ++ '\n' :: b) := by
  cases cs with
  | nil => rfl
  | cons c cs =>
    by_cases hplus : c = '+'
    · subst hplus
      rfl
    · by_cases hminus : c = '-'
      · subst hminus
        rfl
      · rw [List.cons_append, splitSign, splitSign] <;> simp [hplus, hminus]

theorem digitsAfter_feed (sign ds b : List Char) : digitsAfter sign (ds ++ '\n' :: b)
    = (digitsAfter sign ds).map fun e => (e.1, e.2 ++ '\n' :: b) := by
  cases ds with
  | nil => rfl
  | cons c ds =>
    rw [List.cons_append, digitsAfter, digitsAfter, takeWhile_feed rfl, dropWhile_feed rfl]
    split
    · rfl
    · split <;> rfl

theorem integerDigits_feed (cs b : List Char) : integerDigits (cs ++ '\n' :: b)
    = (integerDigits cs).map fun e => (e.1, e.2 ++ '\n' :: b) := by
  rw [integerDigits_eq, integerDigits_eq, splitSign_feed, digitsAfter_feed]

theorem eq_of_digitsAfter {sign ds digits rest : List Char}
    (h : digitsAfter sign ds = some (digits, rest)) :
    ∃ c read, ds = c :: (read ++ rest) ∧ c.isDigit = true := by
  cases ds with
  | nil => cases h
  | cons c ds =>
    rw [digitsAfter] at h
    split at h
    next hc =>
      cases h
      exact ⟨c, ds.takeWhile Char.isDigit, by rw [List.takeWhile_append_dropWhile],
        (Bool.and_eq_true_iff.mp hc).1⟩
    next =>
      split at h
      next hzero =>
        cases h
        exact ⟨c, [], rfl, by rw [eq_of_beq (Bool.and_eq_true_iff.mp hzero).1]; rfl⟩
      next => cases h

theorem steady_integer (b : List Char) : Steady ('\n' :: b) integer fun _ => True := by
  intro cs _
  rw [integer, integer, integerDigits_feed]
  cases integerDigits cs with
  | none => rfl
  | some e =>
    dsimp only [Option.map_some]
    split <;> rfl

theorem takes_integer : Takes integer fun c => c == '+' || c == '-' || c.isDigit := by
  intro cs v rest h
  rw [integer] at h
  split at h
  next digits left hread =>
    split at h
    · cases h
      rw [integerDigits_eq] at hread
      unfold splitSign at hread
      split at hread
      next ds =>
        obtain ⟨c, read, rfl, -⟩ := eq_of_digitsAfter hread
        exact ⟨'+', c :: read, rfl, rfl⟩
      next ds =>
        obtain ⟨c, read, rfl, -⟩ := eq_of_digitsAfter hread
        exact ⟨'-', c :: read, rfl, rfl⟩
      next =>
        obtain ⟨c, read, rfl, hc⟩ := eq_of_digitsAfter hread
        exact ⟨c, read, rfl, by simp [hc]⟩
    · cases h
  next => cases h

end Feed

-- Texts are read up to their closing quotation mark, whatever stands in them.
section Texts

theorem stringRest_cons {c : Char} {cs s rest : List Char} (hquote : c ≠ '"') (hslash : c ≠ '\\')
    (h : stringRest cs = .done s rest) : stringRest (c :: cs) = .done (c :: s) rest := by
  simp [stringRest, hslash, h]

theorem stringRest_append {cs s rest : List Char} (h : stringRest cs = .done s rest) :
    (∃ read, cs = read ++ rest) ∧
      ∀ more, stringRest (cs ++ more) = .done s (rest ++ more) := by
  induction cs using stringRest.induct generalizing s with
  | case1 => cases h
  | case2 => cases h
  | case3 rest =>
    cases h
    exact ⟨⟨['"'], rfl⟩, fun more => rfl⟩
  | case4 c cs t left hread ih =>
    rw [stringRest, hread] at h
    cases h
    obtain ⟨⟨read, rfl⟩, hmore⟩ := ih hread
    refine ⟨⟨'\\' :: c :: read, rfl⟩, fun more => ?_⟩
    rw [List.cons_append, List.cons_append, stringRest, hmore]
  | case5 c cs failure hread =>
    rw [stringRest, hread] at h
    cases h
  | case6 c cs hlone hquote hpair t left hread ih =>
    have hslash : c ≠ '\\' := by
      intro hc
      cases cs with
      | nil => exact hlone hc rfl
      | cons d cs => exact hpair d cs hc rfl
    rw [stringRest_cons hquote hslash hread] at h
    cases h
    obtain ⟨⟨read, rfl⟩, hmore⟩ := ih hread
    exact ⟨⟨c :: read, rfl⟩, fun more => stringRest_cons hquote hslash (hmore more)⟩
  | case7 c cs hlone hquote hpair failure hread =>
    rw [stringRest, hread] at h
    · cases h
    all_goals assumption

theorem eq_of_stringLiteral {cs rest : List Char} {a : String}
    (h : stringLiteral cs = .done a rest) :
    ∃ body s, cs = '"' :: body ∧ a = String.ofList s ∧ stringRest body = .done s rest := by
  unfold stringLiteral at h
  split at h
  next body =>
    split at h
    next s left hread =>
      cases h
      exact ⟨body, s, rfl, rfl, hread⟩
    next => cases h
  next => cases h

theorem takes_stringLiteral : Takes stringLiteral (· == '"') := by
  intro cs a rest h
  obtain ⟨body, s, rfl, -, hread⟩ := eq_of_stringLiteral h
  obtain ⟨⟨read, rfl⟩, -⟩ := stringRest_append hread
  exact ⟨'"', read, rfl, rfl⟩

theorem persists_stringLiteral (more : List Char) :
    Persists more stringLiteral (Leads (· == '"')) fun _ => True := by
  intro cs a rest h _
  obtain ⟨hleads, hlt⟩ := takes_stringLiteral.leads (fun c hc => eq_of_beq hc ▸ rfl) h
  obtain ⟨body, s, rfl, rfl, hread⟩ := eq_of_stringLiteral h
  refine ⟨hleads, hlt.le, ?_⟩
  rw [List.cons_append, stringLiteral, (stringRest_append hread).2]

theorem stringLiteral_eq_of_ne {c : Char} (hc : c ≠ '"') (cs : List Char) :
    stringLiteral (c :: cs) = .failed ⟨c :: cs, false, []⟩ := by
  rw [stringLiteral]
  simp [hc]

end Texts

section Words

variable {α : Type} {word : String} {w : Char}

-- Whether a word starts with this character, which stands in no gap, and has no line feed.
def startsWith (word : String) (w : Char) : Bool :=
  word.toList.head? == some w && isSolid w && !word.toList.contains '\n'

theorem of_startsWith (h : startsWith word w = true) :
    ∃ ws, word.toList = w :: ws ∧ isSolid w = true ∧ '\n' ∉ word.toList := by
  simp only [startsWith, Bool.and_eq_true, beq_iff_eq, Bool.not_eq_true', List.contains_eq_mem,
    decide_eq_false_iff_not] at h
  obtain ⟨⟨hhead, hsolid⟩, hfeed⟩ := h
  obtain ⟨ws, hword⟩ := List.head?_eq_some_iff.mp hhead
  exact ⟨ws, hword, hsolid, hfeed⟩

variable (b : List Char)

theorem steady_keyword (h : startsWith word w = true) :
    Steady ('\n' :: b) (keyword word) Occupied := by
  obtain ⟨ws, hword, hsolid, hfeed⟩ := of_startsWith h
  exact (steady_blanks _).bind fun _ => (steady_literal hfeed b).bind fun _ => steady_wordEnd b

theorem persists_literal (h : startsWith word w = true) :
    Persists ('\n' :: b) (literal word) (Leads (· == w)) fun _ => True := by
  obtain ⟨ws, hword, hsolid, hfeed⟩ := of_startsWith h
  exact persists_of_steady (steady_literal hfeed b) (takes_literal hword)
    fun c hc => eq_of_beq hc ▸ hsolid

theorem persists_wordEnd :
    Persists ('\n' :: b) wordEnd (fun _ => True) fun _ => True := by
  intro cs a rest h _
  refine ⟨trivial, ?_, ?_⟩
  · rw [wordEnd] at h
    split at h <;> cases h
    exact Nat.le_refl _
  · rw [steady_wordEnd b cs trivial, h]
    rfl

theorem persists_after_blanks {p : Reader α} {after : List Char → Prop}
    (h : startsWith word w = true) (hp : Persists ('\n' :: b) p (Leads (· == w)) after) :
    Persists ('\n' :: b) (blanks >>= fun _ => p) (Leads (· == w)) after := by
  obtain ⟨ws, hword, hsolid, hfeed⟩ := of_startsWith h
  have hne := bne_iff_ne.mp (ne_hash_of_isSolid hsolid)
  have hhash : (· == w) '#' = false := beq_false_of_ne hne.symm
  exact (persists_blanks hhash _).bind fun _ => hp

theorem persists_symbol (h : startsWith word w = true) :
    Persists ('\n' :: b) (symbol word) (Leads (· == w)) fun _ => True :=
  persists_after_blanks b h (persists_literal b h)

theorem persists_closing (h : startsWith word w = true) :
    Persists ('\n' :: b) (closing word) (Leads (· == w)) fun _ => True :=
  persists_after_blanks b h (persists_literal b h).commit

theorem persists_constant (h : startsWith word w = true) (a : α) :
    Persists ('\n' :: b) (constant word a) (Leads (· == w)) fun _ => True :=
  (persists_literal b h).bind fun _ => .pure a

theorem persists_keyword (h : startsWith word w = true) :
    Persists ('\n' :: b) (keyword word) Occupied fun _ => True := by
  obtain ⟨ws, hword, hsolid, hfeed⟩ := of_startsWith h
  have hliteral := (persists_literal b h).bind fun _ => persists_wordEnd b
  exact (persists_after_blanks b h hliteral).occupied hsolid

theorem steady_constant (h : startsWith word w = true) (a : α) :
    Steady ('\n' :: b) (constant word a) fun _ => True := by
  obtain ⟨ws, hword, hsolid, hfeed⟩ := of_startsWith h
  exact (steady_literal hfeed b).bind fun _ => .pure a

theorem takes_constant (h : startsWith word w = true) (a : α) :
    Takes (constant word a) (· == w) := by
  obtain ⟨ws, hword, hsolid, hfeed⟩ := of_startsWith h
  exact (takes_literal hword).map fun _ => a

theorem consumes_literal (h : startsWith word w = true) : Consumes (literal word) := by
  obtain ⟨ws, hword, hsolid, hfeed⟩ := of_startsWith h
  intro cs a rest hdone
  obtain ⟨c, read, rfl, -⟩ := takes_literal hword cs a rest hdone
  simp

theorem consumes_keyword (h : startsWith word w = true) : Consumes (keyword word) :=
  consumes_after_blanks ((consumes_literal h).bind fun _ => persists_wordEnd [])

end Words

end Targeting.DefinitionText
