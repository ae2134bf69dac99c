import Mathlib
import Targeting.Proofs.DefinitionText.LineFeed

namespace Targeting.DefinitionText

open Reader

variable (b : List Char)

section Values

theorem startsWith_true : startsWith "true" 't' = true := rfl

theorem startsWith_false : startsWith "false" 'f' = true := rfl

def startsConstant (c : Char) : Bool := c == 't' || c == 'f' || c == '+' || c == '-' || c.isDigit

-- The values that are no texts.
def plainValue : Reader Value :=
  firstOf integer [constant "true" (.bool true), constant "false" (.bool false), negativeNumber,
    floatLiteral]

theorem isSolid_of_startsConstant {c : Char} (h : startsConstant c = true) :
    isSolid c = true ∧ c ≠ '"' := by
  by_cases hdigit : c.isDigit = true
  · have hword := not_endsToken_of_isWordChar (isWordChar_of_isDigit hdigit)
    refine ⟨by simpa [isSolid] using hword, ?_⟩
    rintro rfl
    cases hdigit
  · simp only [startsConstant, hdigit, Bool.or_false, Bool.or_eq_true, beq_iff_eq] at h
    rcases h with ((rfl | rfl) | rfl) | rfl <;> decide

theorem steady_plainValue : Steady ('\n' :: b) plainValue fun _ => True :=
  (steady_constant b startsWith_true _).orElse <| (steady_constant b startsWith_false _).orElse <|
    (steady_negativeNumber b).orElse <| (steady_floatLiteral b).orElse (steady_integer b)

theorem takes_plainValue : Takes plainValue startsConstant := by
  refine ((takes_constant startsWith_true _).imp ?_).orElse <|
    ((takes_constant startsWith_false _).imp ?_).orElse <| (takes_negativeNumber.imp ?_).orElse <|
      (takes_floatLiteral.imp ?_).orElse (takes_integer.imp ?_)
  all_goals
    intro c hc
    simp_all [startsConstant]
  tauto

theorem persists_value : Persists ('\n' :: b) value Occupied fun _ => True := by
  have hplain : Persists ('\n' :: b) plainValue Occupied fun _ => True :=
    (persists_of_steady (steady_plainValue b) takes_plainValue
      fun c hc => (isSolid_of_startsConstant hc).1).weaken
        (fun _ h => h.imp fun c hc => ne_hash_of_isSolid (isSolid_of_startsConstant hc).1)
        fun _ _ => trivial
  have htext : Persists ('\n' :: b) (do return Value.text (← stringLiteral)) Occupied fun _ => True :=
    ((persists_stringLiteral _).bind fun s => .pure (Value.text s)).weaken
      (fun _ h => h.imp fun c hc => by rw [eq_of_beq hc]; rfl) fun _ h => h
  refine .after_blanks <| .expecting (htext.orElse_of hplain ?_)
  -- what is no text starts with no quotation mark
  intro cs failure v rest _ _ hdone _
  obtain ⟨c, read, rfl, hc⟩ := takes_plainValue cs v rest hdone
  have hne := (isSolid_of_startsConstant hc).2
  exact ⟨_, bind_eq_of_failed (stringLiteral_eq_of_ne hne _) _, rfl⟩

theorem persists_number : Persists ('\n' :: b) number Occupied fun _ => True :=
  (persists_value b).mapped.expecting

-- One word or else another reading.
theorem persists_constant_or {α : Type} {word : String} {w : Char} {q : Reader α}
    (h : startsWith word w = true) (a : α) (hq : Persists ('\n' :: b) q Occupied fun _ => True) :
    Persists ('\n' :: b) (orElse (constant word a) q) Occupied fun _ => True := by
  obtain ⟨_, _, hw, -⟩ := of_startsWith h
  exact ((persists_constant b h a).occupied hw).orElse
    ((steady_constant b h a).backtracks.imp fun _ _ => trivial) hq

-- One word or else another.
theorem persists_either {α : Type} {word word' : String} {w w' : Char}
    (h : startsWith word w = true) (h' : startsWith word' w' = true) (a a' : α) :
    Persists ('\n' :: b) (orElse (constant word a) (constant word' a')) Occupied fun _ => True := by
  obtain ⟨_, _, hw', -⟩ := of_startsWith h'
  exact persists_constant_or b h a ((persists_constant b h' a').occupied hw')

theorem persists_boolean : Persists ('\n' :: b) boolean Occupied fun _ => True :=
  .after_blanks (persists_either b startsWith_true startsWith_false true false).expecting

end Values

section Caveats

theorem refuses_bracket {α : Type} {p : Reader α}
    (hp : ∀ rest, ∃ failure, p (']' :: rest) = .failed failure ∧ failure.committed = false) :
    Refuses (blanks >>= fun _ => p) (Leads (· == ']')) := by
  intro cs h
  obtain ⟨c, rest, hdrop, hc⟩ := leads_iff.mp h
  obtain rfl := eq_of_beq hc
  have hblanks : blanks cs = .done () (']' :: rest) := by rw [blanks, hdrop]
  obtain ⟨failure, hfailure, hopen⟩ := hp rest
  exact ⟨failure, (bind_eq_of_done hblanks _).trans hfailure, hopen⟩

-- A closing bracket is the start of no value, whatever follows it.
theorem refuses_value : Refuses value (Leads (· == ']')) :=
  refuses_bracket fun _ => ⟨_, rfl, rfl⟩

theorem refuses_comma : Refuses (symbol ",") (Leads (· == ']')) :=
  refuses_bracket fun _ => ⟨_, rfl, rfl⟩

theorem persists_valueList : Persists ('\n' :: b) valueList Occupied fun _ => True := by
  have hopening : startsWith "[" '[' = true := rfl
  have hcomma : startsWith "," ',' = true := rfl
  have hending : startsWith "]" ']' = true := rfl
  have hitem : Persists ('\n' :: b) (symbol "," >>= fun _ => value) (Leads (· == ','))
      fun _ => True := (persists_symbol b hcomma).andThen fun _ => persists_value b
  have hconsumes : Consumes (symbol ",") := consumes_after_blanks (consumes_literal hcomma)
  have hmany : Persists ('\n' :: b) (many (symbol "," >>= fun _ => value))
      (Leads fun c => c == ',' || c == ']') (Leads (· == ']')) := by
    refine .many (hitem.weaken (fun _ h => h.imp (by simp)) fun _ _ => trivial)
      (fun _ h => h.imp (by simp)) ?_ ?_ ?_
    · exact .of_refuses refuses_comma.bind fun cs h => h.append rfl _
    · exact fun cs h => h.ne_nil
    · exact fun cs v rest h _ => (hconsumes.bind fun _ => persists_value b) cs v rest h
  have hvalues : Persists ('\n' :: b) (separated value (symbol ",")) Occupied (Leads (· == ']')) :=
    .separated (persists_value b).narrow (.of_refuses refuses_value fun cs h => h.append rfl _) hmany
      fun _ h => h.imp fun c hc => by rw [eq_of_beq hc]; rfl
  exact ((persists_symbol b hopening).occupied rfl).andThen fun _ =>
    hvalues.bind fun _ => (persists_closing b hending).bind fun _ => .pure _

theorem persists_bound : Persists ('\n' :: b) bound Occupied fun _ => True := by
  have hstar : startsWith "*" '*' = true := rfl
  exact .after_blanks <|
    persists_constant_or b hstar none ((persists_number b).bind fun x => .pure (some x))

theorem persists_range : Persists ('\n' :: b) range Occupied fun _ => True := by
  have hcomma : startsWith "," ',' = true := rfl
  have hsquare : startsWith "[" '[' = true := rfl
  have hround : startsWith "(" '(' = true := rfl
  have hsquare' : startsWith "]" ']' = true := rfl
  have hround' : startsWith ")" ')' = true := rfl
  have hopening := persists_either b hsquare hround true false
  have hending := persists_either b hsquare' hround' true false
  refine .after_blanks <| hopening.commit.expecting.andThen fun _ => ?_
  refine (persists_bound b).commit.andThen fun _ => ?_
  refine ((persists_closing b hcomma).occupied rfl).andThen fun _ => ?_
  refine (persists_bound b).commit.andThen fun _ => .after_blanks ?_
  exact hending.commit.expecting.bind fun _ => .pure _

-- A text where nothing else can stand.
theorem persists_text {what : String} :
    Persists ('\n' :: b) (expecting what (commit stringLiteral)) Occupied fun _ => True :=
  .expecting ((persists_stringLiteral _).occupied rfl).commit

theorem persists_pattern : Persists ('\n' :: b) pattern Occupied fun _ => True :=
  .after_blanks <| (persists_text b).bind fun _ => .pure _

theorem persists_version : Persists ('\n' :: b) version Occupied fun _ => True := by
  have hatLeast : startsWith ">=" '>' = true := rfl
  have hmore : startsWith ">" '>' = true := rfl
  have hatMost : startsWith "<=" '<' = true := rfl
  have hless : startsWith "<" '<' = true := rfl
  have hoperator := persists_constant_or b hatLeast (VersionCheck.atLeast, false) <|
    persists_constant_or b hmore (.atLeast, true) <|
      persists_either b hatMost hless (.atMost, false) (.atMost, true)
  refine .after_blanks <| hoperator.commit.expecting.andThen fun _ => .after_blanks ?_
  exact (persists_text b).bind fun _ => .pure _

-- After "in" no way of reading is left but a list.
theorem occupied_after_in {q : Reader Caveat} {cs left rest : List Char} {caveat : Caveat}
    (hread : keyword "in" cs = .done () left)
    (h : orElse (do keyword "in"; commit valueList) q cs = .done caveat rest) : Occupied left := by
  cases hvalues : commit valueList left with
  | done list last => exact ((persists_valueList []).commit left list last hvalues trivial).1
  | failed first =>
    have hcommitted := Commits.commit _ _ _ hvalues
    have hfirst : (do keyword "in"; commit valueList) cs = .failed first :=
      (bind_eq_of_done hread _).trans hvalues
    simp [Reader.orElse, hfirst, hcommitted] at h

-- Where a list is read after "in", "range" is not read, and then not even if more follows.
theorem persists_caveat : Persists ('\n' :: b) caveat Occupied fun _ => True := by
  have hi : startsWith "in" 'i' = true := rfl
  have hr : startsWith "range" 'r' = true := rfl
  have hm : startsWith "matches" 'm' = true := rfl
  have hv : startsWith "version" 'v' = true := rfl
  have hin := steady_keyword b hi
  have hrange := steady_keyword b hr
  have hinRange : Persists ('\n' :: b) (do keyword "in"; keyword "range"; commit range) Occupied
      fun _ => True :=
    (persists_keyword b hi).andThen fun _ => (persists_keyword b hr).andThen fun _ =>
      (persists_range b).commit
  have hinList : Persists ('\n' :: b) (do keyword "in"; commit valueList) Occupied fun _ => True :=
    (persists_keyword b hi).andThen fun _ => (persists_valueList b).commit
  have hpattern : Persists ('\n' :: b) (do keyword "matches"; pattern) Occupied fun _ => True :=
    (persists_keyword b hm).andThen fun _ => persists_pattern b
  have hversion : Persists ('\n' :: b) (do keyword "version"; version) Occupied fun _ => True :=
    (persists_keyword b hv).andThen fun _ => persists_version b
  have hcommits : Commits pattern :=
    commits_blanks.bind fun _ => (Commits.commit _).expecting.bind fun _ => .pure _
  have hlater := hinList.orElse (hin.backtracks.bind fun _ => .commit _)
    (hpattern.orElse ((steady_keyword b hm).backtracks.bind fun _ => hcommits) hversion)
  refine .expecting (hinRange.orElse_of hlater ?_)
  intro cs failure caveat rest hfailure hopen hdone _
  have hsteady := hin cs (hlater cs caveat rest hdone trivial).1
  cases hread : keyword "in" cs with
  | failed first =>
    rw [hread] at hsteady
    rw [bind_eq_of_failed hread] at hfailure
    cases hfailure
    exact ⟨_, bind_eq_of_failed hsteady _, hopen⟩
  | done _ left =>
    rw [hread] at hsteady
    rw [bind_eq_of_done hread] at hfailure
    obtain ⟨last, hlast, hlastOpen⟩ := (hrange.backtracks.bind fun _ => .commit _) left failure
      (occupied_after_in hread hdone) hfailure hopen
    exact ⟨last, (bind_eq_of_done hsteady _).trans hlast, hlastOpen⟩

end Caveats

section Definitions

theorem isSolid_of_startsPath {c : Char} (h : (c.isAlpha || c == '_') = true) : isSolid c = true := by
  have hword := not_endsToken_of_isWordChar (isWordChar_of_isAlpha h)
  rw [isSolid, hword]
  rfl

theorem persists_path : Persists ('\n' :: b) path Occupied fun _ => True :=
  (persists_of_steady (steady_path b) takes_path fun _ => isSolid_of_startsPath).weaken
    (fun _ h => h.imp fun _ hc => ne_hash_of_isSolid (isSolid_of_startsPath hc)) fun _ h => h

-- A word that says that something follows, or neither of them.
theorem persists_optional {α : Type} {word : String} {w : Char} {q : Reader α}
    (h : startsWith word w = true) (hq : Persists ('\n' :: b) q Occupied fun _ => True) :
    Persists ('\n' :: b) (optional (do keyword word; commit q)) Occupied Occupied :=
  ((persists_keyword b h).andThen fun _ => hq.commit).narrow.optional
    ((steady_keyword b h).backtracks.bind fun _ => .commit q) fun _ h => h

theorem persists_predicate : Persists ('\n' :: b) predicate Occupied Occupied := by
  have hn : startsWith "not" 'n' = true := rfl
  have hw : startsWith "weight" 'w' = true := rfl
  have hd : startsWith "default" 'd' = true := rfl
  have hnot := (persists_keyword b hn).narrow.optional (steady_keyword b hn).backtracks fun _ h => h
  refine .after_blanks <| (persists_path b).expecting.andThen fun path => hnot.bind fun negated => ?_
  refine (persists_caveat b).commit.andThen fun caveat => ?_
  refine (persists_optional b hw (persists_number b)).bind fun weight => ?_
  exact (persists_optional b hd (persists_boolean b)).bind fun result => .pure _

-- Readings in a row, each after the same word.
theorem persists_joined {α : Type} {word : String} {w : Char} {q : Reader α}
    (h : startsWith word w = true) (hq : Persists ('\n' :: b) q Occupied Occupied) :
    Persists ('\n' :: b) (many (do keyword word; commit q)) Occupied Occupied := by
  refine .many ((persists_keyword b h).narrow.bind fun _ => hq.commit) (fun _ h => h)
    ((steady_keyword b h).backtracks.bind fun _ => .commit q) (fun cs h => h.ne_nil) ?_
  exact fun cs a rest hdone hrest => (consumes_keyword h).bind_of (fun _ => hq.commit) hdone hrest

theorem persists_clause {joiner : String} {w : Char} (h : startsWith joiner w = true) :
    Persists ('\n' :: b) (clause joiner) Occupied fun _ => True := by
  have hopening : startsWith "(" '(' = true := rfl
  have hending : startsWith ")" ')' = true := rfl
  refine ((persists_symbol b hopening).occupied rfl).andThen fun _ => ?_
  refine (persists_predicate b).commit.bind fun first => ?_
  refine (persists_joined b h (persists_predicate b)).bind fun more => ?_
  exact ((persists_closing b hending).occupied rfl).bind fun _ => .pure _

theorem startsWith_form : startsWith "dnf" 'd' = true ∧ startsWith "cnf" 'c' = true := ⟨rfl, rfl⟩

def form : Reader Form := orElse (do keyword "dnf"; return .dnf) (do keyword "cnf"; return .cnf)

theorem consumes_form : Consumes form :=
  .orElse ((consumes_keyword startsWith_form.1).map _) ((consumes_keyword startsWith_form.2).map _)

theorem persists_form : Persists ('\n' :: b) form Occupied fun _ => True :=
  .orElse ((persists_keyword b startsWith_form.1).bind fun _ => .pure _)
    ((steady_keyword b startsWith_form.1).backtracks.bind fun _ => .pure _)
    ((persists_keyword b startsWith_form.2).bind fun _ => .pure _)

-- What is read after the form depends on it.
theorem definition_eq : ∃ f : Form → Reader Definition, definition = form >>= f ∧
    ∀ b form, Persists ('\n' :: b) (f form) Occupied fun _ => True := by
  refine ⟨_, rfl, fun b form => ?_⟩
  have hopening : startsWith "\x7b" '\x7b' = true := rfl
  have hending : startsWith "\x7d" '\x7d' = true := rfl
  have hand : startsWith "and" 'a' = true := rfl
  have hor : startsWith "or" 'o' = true := rfl
  have hend := (persists_closing b hending).occupied rfl
  refine .after_blanks <| (persists_text b).andThen fun _ => ?_
  refine ((persists_closing b hopening).occupied rfl).andThen fun _ => ?_
  cases form with
  | dnf =>
    have hmore := persists_joined b hor (persists_clause b hand).narrow
    exact (persists_clause b hand).commit.expecting.andThen fun _ =>
      hmore.bind fun _ => hend.bind fun _ => .pure _
  | cnf =>
    have hmore := persists_joined b hand (persists_clause b hor).narrow
    exact (persists_clause b hor).commit.expecting.andThen fun _ =>
      hmore.bind fun _ => hend.bind fun _ => .pure _

theorem persists_definition : Persists ('\n' :: b) definition Occupied fun _ => True := by
  obtain ⟨f, heq, hf⟩ := definition_eq
  exact heq ▸ (persists_form b).andThen (hf b)

theorem consumes_definition : Consumes definition := by
  obtain ⟨f, heq, hf⟩ := definition_eq
  exact heq ▸ consumes_form.bind (hf [])

end Definitions

-- Texts with a line feed between them.
section Joining

variable {cs cs' rest : List Char} {b : List Char}

-- A comment that is open at the end of the first text ends with the line feed.
theorem dropBlanks_feed {inComment : Bool} (h : dropBlanks inComment cs = []) (b : List Char) :
    dropBlanks inComment (cs ++ '\n' :: b) = dropBlanks false b := by
  induction cs generalizing inComment with
  | nil => cases inComment <;> rfl
  | cons c cs ih =>
    rw [List.cons_append]
    rw [dropBlanks] at h ⊢
    split at h
    next hcomment =>
      rw [if_pos hcomment]
      exact ih h
    next hcomment =>
      rw [if_neg hcomment]
      split at h
      next hblank =>
        rw [if_pos hblank]
        exact ih h
      next hblank =>
        rw [if_neg hblank]
        split at h
        next hhash =>
          obtain ⟨hc, hends⟩ := Bool.and_eq_true_iff.mp hhash
          rw [if_pos (by rw [hc, commentEnds_append hends (.inr rfl), Bool.and_self])]
          exact ih h
        next => cases h

theorem keyword_congr (h : dropBlanks false cs = dropBlanks false cs') (word : String) :
    keyword word cs = keyword word cs' := by
  have hblanks : blanks cs = .done () (dropBlanks false cs') := by rw [blanks, h]
  exact (bind_eq_of_done hblanks _).trans (bind_eq_of_done rfl _).symm

-- Nothing but what comes after blanks and comments has a part in a definition.
theorem definition_congr (h : dropBlanks false cs = dropBlanks false cs') :
    definition cs = definition cs' := by
  obtain ⟨f, heq, -⟩ := definition_eq
  have hform : form cs = form cs' := by
    simp only [form, Reader.orElse, Reader.bind_congr (keyword_congr h _)]
  rw [heq, Reader.bind_congr hform]

theorem refuses_definition : Refuses definition fun cs => dropBlanks false cs = [] := by
  intro cs h
  have hempty : definition cs = definition [] := definition_congr h
  exact ⟨_, hempty.trans rfl, rfl⟩

-- Definitions one after the other, with nothing after them.
inductive Listed : List Definition → List Char → Prop where
  | nil {cs : List Char} : dropBlanks false cs = [] → Listed [] cs
  | cons {d : Definition} {all : List Definition} {cs rest : List Char} :
    definition cs = .done d rest → Listed all rest → Listed (d :: all) cs

variable {all first second : List Definition}

theorem Listed.of_manyUpTo {n : Nat} (h : manyUpTo definition n cs = .done all rest)
    (hrest : dropBlanks false rest = []) : Listed all cs := by
  induction n generalizing cs all with
  | zero =>
    cases h
    exact .nil hrest
  | succ n ih =>
    rcases manyUpTo_succ_eq_done h with ⟨rfl, rfl, -⟩ | ⟨d, left, all, rfl, hread, hmany⟩
    · exact .nil hrest
    · exact .cons hread (ih hmany)

theorem Listed.manyUpTo (h : Listed all cs) {n : Nat} (hfuel : cs.length ≤ n) :
    ∃ rest, manyUpTo definition n cs = .done all rest ∧ dropBlanks false rest = [] := by
  induction h generalizing n with
  | @nil cs hblank =>
    cases n with
    | zero => exact ⟨cs, rfl, hblank⟩
    | succ n =>
      obtain ⟨failure, hfailure, hopen⟩ := refuses_definition cs hblank
      refine ⟨cs, ?_, hblank⟩
      simp only [Reader.manyUpTo, hfailure, hopen, Bool.false_eq_true, if_false]
  | @cons d all cs left hread _ ih =>
    -- a definition takes a character at least, so the fuel lasts for what is left
    have hlt := consumes_definition cs d left hread
    obtain ⟨n, rfl⟩ : ∃ k, n = k + 1 := ⟨n - 1, by omega⟩
    obtain ⟨rest, hmany, hrest⟩ := ih (Nat.le_of_lt_succ (hlt.trans_le hfuel))
    exact ⟨rest, by simp only [Reader.manyUpTo, hread, hmany], hrest⟩

theorem listed_iff : Listed all cs ↔ definitions cs = .done all [] := by
  constructor
  · intro h
    obtain ⟨rest, hmany, hrest⟩ := h.manyUpTo (Nat.le_refl _)
    have hblanks : blanks rest = .done () [] := by rw [blanks, hrest]
    exact (bind_eq_of_done (p := many definition) hmany _).trans (bind_eq_of_done hblanks _)
  · intro h
    obtain ⟨all', rest, hmany, hend⟩ := bind_eq_done_iff.mp h
    obtain ⟨_, left, hblanks, hpure⟩ := bind_eq_done_iff.mp hend
    cases hpure
    exact .of_manyUpTo hmany (Outcome.done.inj hblanks).2

theorem Listed.congr (h : Listed all cs) (hblanks : dropBlanks false cs = dropBlanks false cs') :
    Listed all cs' := by
  cases h with
  | nil hnil => exact .nil (hblanks ▸ hnil)
  | cons hread hrest => exact .cons (definition_congr hblanks ▸ hread) hrest

theorem Listed.join (hfirst : Listed first cs) (hsecond : Listed second b) :
    Listed (first ++ second) (cs ++ '\n' :: b) := by
  induction hfirst with
  | nil hblank => exact hsecond.congr (dropBlanks_feed hblank b).symm
  | cons hread _ ih => exact .cons (persists_definition b _ _ _ hread trivial).2.2 ih

end Joining

end Targeting.DefinitionText

namespace Targeting.Definition

open DefinitionText

theorem listed_iff_readAll {text : String} {all : List Definition} :
    Listed all text.toList ↔ readAll text = .ok all := by
  rw [listed_iff, readAll]
  split
  next all' hread => simp [hread]
  next all' rest hrest hread => simp [hread, show rest ≠ [] from hrest]
  next failure hread => simp [hread]

theorem readAll_join {a b : String} {first second : List Definition} (ha : readAll a = .ok first)
    (hb : readAll b = .ok second) : readAll (a ++ "\n" ++ b) = .ok (first ++ second) := by
  have htext : (a ++ "\n" ++ b).toList = a.toList ++ '\n' :: b.toList := by
    simp
  rw [← listed_iff_readAll] at ha hb ⊢
  rw [htext]
  exact ha.join hb

end Targeting.Definition
