import Mathlib
import Targeting.Proofs.DefinitionText.Grammar
import Targeting.Proofs.DefinitionText.Printed

namespace Targeting.DefinitionText

-- Tokens with the blanks that printing puts before them.
section Items

abbrev Items := List (List Char × Token)

def spaced (t : Token) : List Char × Token := ([' '], t)

def unspaced (s : Symbol) : List Char × Token := ([], .symbol s)

def valueItems : List WrittenValue → Items
  | [] => []
  | v :: vs => ([], v.token) :: vs.flatMap fun v => [unspaced .comma, spaced v.token]

def WrittenCaveat.items : WrittenCaveat → Items
  | oneOf values =>
    spaced (.word .isIn) :: spaced (.symbol (.openBracket true))
      :: (valueItems values ++ [unspaced (.closeBracket true)])
  | matching source => [spaced (.word .matching), spaced source.token]
  | version check excludeBase base =>
    [spaced (.word .version), spaced (.symbol (.operator check excludeBase)), spaced base.token]
  | range squareLo lo hi squareHi =>
    [spaced (.word .isIn), spaced (.word .range), spaced (.symbol (.openBracket squareLo)),
      ([], boundToken lo), unspaced .comma, spaced (boundToken hi),
      unspaced (.closeBracket squareHi)]

def WrittenPredicate.items (gap : List Char) (p : WrittenPredicate) : Items :=
  (gap, .path p.path) :: ((if p.negated then [spaced (.word .not)] else [])
    ++ (p.caveat.items
      ++ ((weightTokens p.weight).map spaced ++ (overrideTokens p.override).map spaced)))

def WrittenClause.items (gap : List Char) (joiner : Word) (c : WrittenClause) : Items :=
  (gap, .symbol (.openBracket false)) :: (c.first.items []
    ++ (c.more.flatMap (fun p => spaced (.word joiner) :: p.items [' '])
      ++ [unspaced (.closeBracket false)]))

def WrittenDefinition.items (d : WrittenDefinition) : Items :=
  ([], .word (.form d.form)) :: spaced d.id.token :: spaced (.symbol .openBrace)
    :: (d.first.items [' '] (Word.inner d.form)
      ++ (d.more.flatMap
          (fun c => spaced (.word (Word.outer d.form)) :: c.items [' '] (Word.inner d.form))
        ++ [spaced (.symbol .closeBrace)]))

theorem valueItems_tokens (values : List WrittenValue) :
    (valueItems values).map Prod.snd = WrittenValue.tokens values := by
  cases values <;> simp [valueItems, WrittenValue.tokens, List.map_flatMap, spaced, unspaced]

theorem WrittenCaveat.items_tokens (c : WrittenCaveat) : c.items.map Prod.snd = c.tokens := by
  cases c <;> simp [items, tokens, valueItems_tokens, spaced, unspaced]

theorem WrittenPredicate.items_tokens (gap : List Char) (p : WrittenPredicate) :
    (p.items gap).map Prod.snd = p.tokens := by
  have hspaced (ts : List Token) : (ts.map spaced).map Prod.snd = ts := by
    simp [Function.comp_def, spaced]
  cases h : p.negated <;>
    simp [items, tokens, h, WrittenCaveat.items_tokens, hspaced, spaced]

theorem WrittenClause.items_tokens (gap : List Char) (joiner : Word) (c : WrittenClause) :
    (c.items gap joiner).map Prod.snd = c.tokens joiner := by
  simp [items, tokens, List.map_flatMap, WrittenPredicate.items_tokens, spaced, unspaced]

theorem WrittenDefinition.items_tokens (d : WrittenDefinition) :
    d.items.map Prod.snd = d.tokens := by
  simp [items, tokens, List.map_flatMap, WrittenClause.items_tokens, spaced]

end Items

section Separation

variable {t u : Token} {rest : Items}

-- Items that can follow any token but a path.
def Follows (items : Items) : Prop := ∀ t : Token, t.isPath = false → Separated (some t) items

theorem separated_spaced (previous : Option Token) (h : Separated (some t) rest) :
    Separated previous (spaced t :: rest) :=
  ⟨by decide, fun hnil => absurd hnil (List.cons_ne_nil _ _), h⟩

theorem Symbol.not_isWordChar (s : Symbol) : s.text.toList.head?.any isWordChar = false ∧
    s.text.toList.getLast?.any isWordChar = false := by
  rcases s with _ | _ | (_ | _) | (_ | _) | _ | _ | ⟨_ | _, _ | _⟩ <;> exact ⟨rfl, rfl⟩

theorem separated_after_symbol (s : Symbol) (h : Separated (some t) rest) :
    Separated (some (.symbol s)) (([], t) :: rest) := by
  refine ⟨.nil, fun _ u hu => ?_, h⟩
  cases hu
  rw [Token.touches, Token.chars, s.not_isWordChar.2]
  rfl

theorem follows_spaced (h : Separated (some t) rest) : Follows (spaced t :: rest) :=
  fun u _ => separated_spaced (some u) h

theorem follows_unspaced {s : Symbol} (h : Separated (some (.symbol s)) rest) :
    Follows (unspaced s :: rest) := by
  refine fun t ht => ⟨.nil, fun _ u hu => ?_, h⟩
  cases hu
  have hhead : (Token.symbol s).chars.head?.any isWordChar = false := s.not_isWordChar.1
  rw [Token.touches, hhead, ht, Bool.and_false, Bool.or_false]

theorem WrittenNumber.isPath_token (n : WrittenNumber) : n.token.isPath = false := by
  cases n <;> rfl

theorem WrittenValue.isPath_token (v : WrittenValue) : v.token.isPath = false := by
  cases v with
  | number n => exact n.isPath_token
  | bool b => rfl
  | text t => rfl

theorem WrittenCaveat.isPath_boundToken (bound : Option WrittenNumber) :
    (boundToken bound).isPath = false := by
  cases bound with
  | none => rfl
  | some n => exact n.isPath_token

theorem follows_values (values : List WrittenValue) (h : Follows rest) :
    Follows (values.flatMap (fun v => [unspaced .comma, spaced v.token]) ++ rest) := by
  induction values with
  | nil => exact h
  | cons v values ih => exact follows_unspaced (separated_spaced _ (ih v.token v.isPath_token))

theorem WrittenCaveat.separated (c : WrittenCaveat) (previous : Option Token) (h : Follows rest) :
    Separated previous (c.items ++ rest) := by
  cases c with
  | oneOf values =>
    refine separated_spaced previous (separated_spaced _ ?_)
    have hclose : Separated (some (.symbol (.closeBracket true))) rest := h _ rfl
    cases values with
    | nil => exact separated_after_symbol _ hclose
    | cons v values =>
      -- the first value stands right after the bracket, the others after a comma and a blank
      have hvalues := follows_values values (follows_unspaced hclose) v.token v.isPath_token
      rw [← List.singleton_append, ← List.append_assoc] at hvalues
      exact separated_after_symbol _ hvalues
  | matching source => exact separated_spaced _ (separated_spaced _ (h _ rfl))
  | version check excludeBase base =>
    exact separated_spaced _ (separated_spaced _ (separated_spaced _ (h _ rfl)))
  | range squareLo lo hi squareHi =>
    have hhi : Separated (some (.symbol .comma))
        (spaced (boundToken hi) :: unspaced (.closeBracket squareHi) :: rest) :=
      separated_spaced _ (follows_unspaced (h _ rfl) _ (isPath_boundToken hi))
    exact separated_spaced _ (separated_spaced _ (separated_spaced _
      (separated_after_symbol _ (follows_unspaced hhi _ (isPath_boundToken lo)))))

theorem follows_weight (weight : Option WrittenNumber) (h : Follows rest) :
    Follows ((WrittenPredicate.weightTokens weight).map spaced ++ rest) := by
  cases weight with
  | none => exact h
  | some w => exact follows_spaced (separated_spaced _ (h _ w.isPath_token))

theorem follows_override (override : Option Bool) (h : Follows rest) :
    Follows ((WrittenPredicate.overrideTokens override).map spaced ++ rest) := by
  cases override with
  | none => exact h
  | some b => exact follows_spaced (separated_spaced _ (h _ rfl))

-- What comes after the path of a predicate.
theorem WrittenPredicate.separated_tail (p : WrittenPredicate) (previous : Option Token)
    (h : Follows rest) :
    Separated previous ((p.items []).tail ++ rest) := by
  have hend := follows_weight p.weight (follows_override p.override h)
  have htail : (p.items []).tail ++ rest = (if p.negated then [spaced (.word .not)] else [])
      ++ (p.caveat.items ++ ((weightTokens p.weight).map spaced
        ++ ((overrideTokens p.override).map spaced ++ rest))) := by
    simp [items]
  rw [htail]
  cases p.negated with
  | true => exact separated_spaced _ (p.caveat.separated _ hend)
  | false => exact p.caveat.separated _ hend

theorem follows_predicates (joiner : Word) (ps : List WrittenPredicate) (h : Follows rest) :
    Follows (ps.flatMap (fun p => spaced (.word joiner) :: p.items [' ']) ++ rest) := by
  induction ps with
  | nil => exact h
  | cons p ps ih =>
    have htail := p.separated_tail (some (.path p.path)) ih
    rw [List.flatMap_cons, List.append_assoc]
    exact follows_spaced (separated_spaced _ htail)

theorem WrittenClause.separated (joiner : Word) (c : WrittenClause) (previous : Option Token)
    (h : Follows rest) : Separated previous (c.items [' '] joiner ++ rest) := by
  have hmore := follows_predicates joiner c.more
    (follows_unspaced (s := .closeBracket false) (h _ rfl))
  have hfirst := c.first.separated_tail (some (.path c.first.path)) hmore
  have hitems : c.items [' '] joiner ++ rest = spaced (.symbol (.openBracket false))
      :: ([], .path c.first.path) :: ((c.first.items []).tail
        ++ (c.more.flatMap (fun p => spaced (.word joiner) :: p.items [' '])
          ++ unspaced (.closeBracket false) :: rest)) := by
    simp [items, spaced, WrittenPredicate.items]
  rw [hitems]
  exact separated_spaced _ (separated_after_symbol _ hfirst)

theorem follows_clauses (inner outer : Word) (cs : List WrittenClause) (h : Follows rest) :
    Follows (cs.flatMap (fun c => spaced (.word outer) :: c.items [' '] inner) ++ rest) := by
  induction cs with
  | nil => exact h
  | cons c cs ih =>
    rw [List.flatMap_cons, List.append_assoc]
    exact follows_spaced (c.separated inner _ ih)

theorem WrittenDefinition.separated (d : WrittenDefinition) : Separated none d.items := by
  have hclose : Follows [spaced (.symbol .closeBrace)] := follows_spaced trivial
  have hmore := follows_clauses (Word.inner d.form) (Word.outer d.form) d.more hclose
  have hfirst := d.first.separated (Word.inner d.form) (some (.symbol .openBrace)) hmore
  exact ⟨.nil, fun _ _ hu => absurd hu (Option.not_mem_none _),
    separated_spaced _ (separated_spaced _ hfirst)⟩

-- Printing is one of the ways of writing.
theorem WrittenDefinition.laid_spread (d : WrittenDefinition) :
    Laid none ([d].flatMap WrittenDefinition.tokens) (String.ofList (spread d.items)).toList := by
  have hlaid := DefinitionText.laid_spread d.separated Gap.nil
  rw [d.items_tokens, List.append_nil] at hlaid
  rw [List.flatMap_singleton, String.toList_ofList]
  exact hlaid

end Separation

section Lists

variable {α β γ : Type} {r : α → β → Prop} {l : List α} {m : List β}

theorem exists_forall₂ (h : ∀ a ∈ l, ∃ b, r a b) : ∃ m, List.Forall₂ r l m := by
  induction l with
  | nil => exact ⟨[], .nil⟩
  | cons a l ih =>
    obtain ⟨b, hb⟩ := h a List.mem_cons_self
    obtain ⟨m, hm⟩ := ih fun c hc => h c (List.mem_cons_of_mem _ hc)
    exact ⟨b :: m, .cons hb hm⟩

theorem flatMap_eq_of_forall₂ {f : α → List γ} {g : β → List γ} (h : List.Forall₂ r l m)
    (hfg : ∀ a b, r a b → g b = f a) : m.flatMap g = l.flatMap f := by
  induction h with
  | nil => rfl
  | cons hab _ ih => rw [List.flatMap_cons, List.flatMap_cons, hfg _ _ hab, ih]

theorem map_eq_of_forall₂ {f : β → α} (h : List.Forall₂ r l m) (hf : ∀ a b, r a b → f b = a) :
    m.map f = l := by
  induction h with
  | nil => rfl
  | cons hab _ ih => rw [List.map_cons, hf _ _ hab, ih]

theorem intercalate_toList (separator s : String) (ss : List String) :
    (separator.intercalate (s :: ss)).toList
      = s.toList ++ ss.flatMap fun t => separator.toList ++ t.toList := by
  induction ss generalizing s with
  | nil => simp
  | cons t ss ih => simp [String.intercalate_cons_cons, ih]

end Lists

section Printing

theorem spread_cons (gap : List Char) (t : Token) (items : Items) :
    spread ((gap, t) :: items) = gap ++ (t.chars ++ spread items) := by
  simp [spread]

theorem spread_append (items more : Items) : spread (items ++ more) = spread items ++ spread more :=
  List.flatMap_append

theorem spread_flatMap {ι : Type} (is : List ι) (items : ι → Items) :
    spread (is.flatMap items) = is.flatMap fun i => spread (items i) :=
  List.flatMap_assoc

theorem spread_spaced (t : Token) (items : Items) :
    spread (spaced t :: items) = ' ' :: (t.chars ++ spread items) :=
  spread_cons [' '] t items

theorem spread_unspaced (s : Symbol) (items : Items) :
    spread (unspaced s :: items) = s.text.toList ++ spread items :=
  spread_cons [] (.symbol s) items

theorem spread_valueItems {keys : List Key} {values : List WrittenValue}
    (h : List.Forall₂ (fun k v => v.token.chars = k.display.toList ∧ v.meaning.key = k) keys values) :
    spread (valueItems values) = (", ".intercalate (keys.map Key.display)).toList := by
  cases h with
  | nil => rfl
  | @cons k v keys values hkv hrest =>
    have hmore : values.flatMap (fun v => ',' :: ' ' :: v.token.chars)
        = keys.flatMap fun k => ',' :: ' ' :: k.display.toList :=
      flatMap_eq_of_forall₂ hrest fun k v hkv => by rw [hkv.1]
    rw [valueItems, spread_cons, List.map_cons, intercalate_toList, hkv.1, List.nil_append,
      List.flatMap_map]
    simpa [spread, List.flatMap_assoc, spaced, unspaced, Token.chars, Symbol.text] using hmore

theorem exists_writtenBound {bound : Option Binary64} {inclusive : Bool}
    (hplain : ∀ x ∈ bound, x.FitsInt64) (hinclusive : bound = none → inclusive = false) :
    ∃ w : Option WrittenNumber,
      (WrittenCaveat.boundToken w).chars = ((bound.map Binary64.toText).getD "*").toList ∧
      SameBound (w.map WrittenNumber.meaning) bound ∧ (inclusive && w.isSome) = inclusive := by
  cases bound with
  | none => exact ⟨none, rfl, .none, by rw [hinclusive rfl, Bool.false_and]⟩
  | some x =>
    obtain ⟨n, hn⟩ := exists_prints (hplain x rfl)
    exact ⟨some n, hn.chars, .some hn.same, Bool.and_true inclusive⟩

-- A caveat, with the blank before it.
theorem exists_writtenCaveat {c : Caveat} (hc : c.Expressible) (hplain : c.Plain) :
    ∃ w : WrittenCaveat, spread w.items = ' ' :: c.display.toList ∧ w.meaning.same c = true := by
  cases c with
  | oneOf keys =>
    obtain ⟨values, hvalues⟩ := exists_forall₂ fun k hk => exists_writtenValue (hc k hk) (hplain k hk)
    have hkeys : KeySet.ofValues (values.map WrittenValue.meaning) = keys := by
      refine KeySet.ofValues_eq ?_
      rw [List.map_map]
      exact map_eq_of_forall₂ hvalues fun k v hkv => hkv.2
    refine ⟨.oneOf values, ?_, ?_⟩
    · rw [WrittenCaveat.items, spread_spaced, spread_spaced, spread_append, spread_valueItems hvalues]
      simp [spread, unspaced, Caveat.display, Token.chars, Word.text, Symbol.text]
    · rw [WrittenCaveat.meaning, hkeys]
      exact beq_self_eq_true keys
  | pattern p =>
    have hplain : isPlain p.source = true := hplain
    refine ⟨.matching (.plain p.source hplain), ?_, ?_⟩
    · rw [WrittenCaveat.items, spread_spaced, spread_spaced, WrittenText.chars_plain]
      simp [spread, Caveat.display, Token.chars, Word.text]
    · rw [WrittenCaveat.meaning, WrittenText.meaning_plain]
      exact beq_self_eq_true p.source
  | version b =>
    have hplain : isPlain b.base = true := hplain
    refine ⟨.version b.check b.excludeBase (.plain b.base hplain), ?_, ?_⟩
    · have hoperator : (Token.symbol (.operator b.check b.excludeBase)).chars
          = b.operator.toList := by
        rw [VersionBound.operator]
        cases b.check <;> cases b.excludeBase <;> rfl
      rw [WrittenCaveat.items, spread_spaced, spread_spaced, spread_spaced,
        WrittenText.chars_plain, hoperator]
      simp [spread, Caveat.display, VersionBound.display, Token.chars, Word.text]
    · rw [WrittenCaveat.meaning, WrittenText.meaning_plain]
      exact beq_self_eq_true b
  | range r =>
    obtain ⟨lo, hlo, hsameLo, hloInclusive⟩ := exists_writtenBound hplain.1 hc.1
    obtain ⟨hi, hhi, hsameHi, hhiInclusive⟩ := exists_writtenBound hplain.2 hc.2
    refine ⟨.range r.loInclusive lo hi r.hiInclusive, ?_, ?_⟩
    · rw [WrittenCaveat.items, spread_spaced, spread_spaced, spread_spaced, spread_cons, hlo,
        spread_unspaced, spread_spaced, hhi, spread_unspaced]
      cases hlo : r.loInclusive <;> cases hhi : r.hiInclusive <;>
        simp [spread, Caveat.display, Range.display, Token.chars, Word.text, Symbol.text, hlo, hhi]
    · exact Range.same_iff.mpr ⟨hsameLo, hsameHi, hloInclusive, hhiInclusive⟩

theorem spread_gap (gap : List Char) (p : WrittenPredicate) :
    spread (p.items gap) = gap ++ spread (p.items []) := by
  simp [WrittenPredicate.items, spread_cons]

theorem chars_word (w : Word) : (Token.word w).chars = w.text.toList := rfl

theorem spread_weight {weight : Binary64} {n : WrittenNumber}
    (hn : n.token.chars = weight.toText.toList) :
    spread ((WrittenPredicate.weightTokens (if weight.isZero then none else some n)).map spaced)
      = (if weight.isZero then "" else " weight " ++ weight.toText).toList := by
  cases weight.isZero with
  | true => rfl
  | false => simp [WrittenPredicate.weightTokens, spread, spaced, chars_word, Word.text, hn]

theorem spread_override (override : Option Bool) :
    spread ((WrittenPredicate.overrideTokens override).map spaced)
      = (override.elim "" fun result => " default " ++ boolText result).toList := by
  cases override with
  | none => rfl
  | some b => simp [WrittenPredicate.overrideTokens, spread, spaced, Token.chars, Word.text]

theorem exists_writtenPredicate {p : Predicate} (hp : p.Expressible) (hplain : p.Plain) :
    ∃ w : WrittenPredicate, spread (w.items []) = p.display.toList ∧ w.meaning.same p = true := by
  obtain ⟨⟨path, hpath⟩, hcaveat⟩ := hp
  obtain ⟨caveat, hchars, hsame⟩ := exists_writtenCaveat hcaveat hplain.1
  obtain ⟨n, hn⟩ := exists_prints hplain.2
  have hname : path.head :: path.tail = p.path.toList := by
    rw [← hpath, Path.name, String.toList_ofList]
  refine ⟨⟨path, p.isExcluded, caveat, if p.weight.isZero then none else some n, p.override⟩, ?_,
    Predicate.same_iff.mpr ⟨?_, hpath, hsame, ?_, rfl⟩⟩
  · simp only [WrittenPredicate.items, spread_cons, spread_append, hchars, spread_weight hn.chars,
      spread_override, Token.chars, hname]
    cases hexcluded : p.isExcluded <;> cases hoverride : p.override <;>
      simp [Predicate.display, hexcluded, hoverride, spread, spaced, chars_word, Word.text]
  · rw [WrittenPredicate.meaning, Predicate.isExcluded]
    cases p.kind <;> rfl
  · rw [WrittenPredicate.meaning]
    cases hzero : p.weight.isZero with
    | true => exact Binary64.same_zero hzero
    | false => exact hn.same

def clauseText (joiner : Word) (c : Clause) : String :=
  "(" ++ (" " ++ joiner.text ++ " ").intercalate (c.map Predicate.display) ++ ")"

theorem exists_writtenClause {c : Clause} (joiner : Word) (hne : c ≠ [])
    (hc : ∀ p ∈ c, p.Expressible) (hplain : ∀ p ∈ c, p.Plain) :
    ∃ w : WrittenClause, (∀ gap, spread (w.items gap joiner) = gap ++
        (clauseText joiner c).toList) ∧
      List.Forall₂ (fun p q : Predicate => p.same q = true) w.meaning c := by
  obtain ⟨ws, hws⟩ := exists_forall₂ fun p hp => exists_writtenPredicate (hc p hp) (hplain p hp)
  cases hws with
  | nil => exact absurd rfl hne
  | @cons p first ps more hfirst hmore =>
    have htext : more.flatMap (fun w => spread (spaced (.word joiner) :: w.items [' ']))
        = ps.flatMap fun p => (" " ++ joiner.text ++ " ").toList ++ p.display.toList :=
      flatMap_eq_of_forall₂ hmore fun p w hpw => by
        rw [spread_spaced, spread_gap, hpw.1]
        simp [chars_word]
    refine ⟨⟨first, more⟩, fun gap => ?_, .cons hfirst.2 ?_⟩
    · have hparens (s : String) : ("(" ++ s ++ ")").toList = '(' :: (s.toList ++ [')']) := by simp
      rw [clauseText, WrittenClause.items, spread_cons, spread_append, spread_append, hfirst.1,
        spread_flatMap, htext, hparens, List.map_cons, intercalate_toList, List.flatMap_map,
        List.append_assoc]
      rfl
    · rw [List.forall₂_map_left_iff]
      exact hmore.flip.imp fun _ _ h => h.2

theorem display_eq (d : Definition) :
    d.display = (Word.form d.form).text ++ " " ++ quoted d.id ++ " \x7b "
      ++ (" " ++ (Word.outer d.form).text ++ " ").intercalate
        (d.clauses.map (clauseText (Word.inner d.form))) ++ " \x7d" := by
  rw [Definition.display]
  cases d.form with
  | dnf => rfl
  | cnf => rfl

theorem exists_writtenDefinition {d : Definition} (hne : d.clauses ≠ [] ∧ ∀ c ∈ d.clauses, c ≠ [])
    (hd : d.Expressible) (hplain : d.Plain) :
    ∃ w : WrittenDefinition, spread w.items = d.display.toList ∧ w.meaning.same d = true := by
  obtain ⟨hid, hpredicates⟩ := hplain
  obtain ⟨ws, hws⟩ := exists_forall₂ fun c hc =>
    exists_writtenClause (Word.inner d.form) (hne.2 c hc) (hd c hc) (hpredicates c hc)
  generalize hclauses : d.clauses = clauses at hws
  cases hws with
  | nil => exact absurd hclauses hne.1
  | @cons c first cs more hfirst hmore =>
    have htext : more.flatMap (fun w => spread (spaced (.word (Word.outer d.form))
          :: w.items [' '] (Word.inner d.form)))
        = cs.flatMap fun c => (" " ++ (Word.outer d.form).text ++ " ").toList
          ++ (clauseText (Word.inner d.form) c).toList :=
      flatMap_eq_of_forall₂ hmore fun c w hcw => by
        rw [spread_spaced, hcw.1]
        simp [chars_word]
    have hwhole (keyword id clauses : String) :
        (keyword ++ " " ++ id ++ " \x7b " ++ clauses ++ " \x7d").toList = keyword.toList
          ++ ' ' :: (id.toList ++ ' ' :: '\x7b' :: ' ' :: (clauses.toList ++ [' ', '\x7d'])) := by
      simp
    refine ⟨⟨.plain d.id hid, d.form, first, more⟩, ?_, Definition.same_iff.mpr ⟨?_, rfl, ?_⟩⟩
    · rw [WrittenDefinition.items, spread_cons, spread_spaced, spread_spaced, spread_append,
        spread_append, hfirst.1, spread_flatMap, htext, WrittenText.chars_plain, display_eq, hwhole,
        hclauses, List.map_cons, intercalate_toList, List.flatMap_map, List.append_assoc,
        List.append_assoc]
      rfl
    · exact WrittenText.meaning_plain hid
    · rw [hclauses]
      refine .cons hfirst.2 (List.forall₂_map_left_iff.mpr ?_)
      exact hmore.flip.imp fun _ _ h => h.2

end Printing

end Targeting.DefinitionText

namespace Targeting.Criteria

open DefinitionText

-- Printing what a text defines gives a text that defines the same, as long as its strings read the
-- way they are written and no number is too large for an integer.
theorem readAll_display {text : String} {all : List Criteria} (h : readAll text = .ok all)
    {c : Criteria} (hc : c ∈ all) (hplain : c.Plain) :
    ∃ d, readAll c.display = .ok [d] ∧ d.same c.toDefinition = true := by
  have hne : c.clauses ≠ [] ∧ ∀ clause ∈ c.clauses, clause ≠ [] :=
    ⟨c.clauses_ne_nil, fun _ hclause => c.clause_ne_nil hclause⟩
  obtain ⟨w, hspread, hsame⟩ := exists_writtenDefinition hne (expressible_of_readAll h hc) hplain
  have hread := Definition.readAll_of_laid w.laid_spread
  rw [hspread, String.ofList_toList] at hread
  have hvalid : w.meaning.fault? = none := Definition.fault?_eq_none_of_same hsame c.valid
  refine ⟨⟨w.meaning, hvalid⟩, ?_, hsame⟩
  rw [readAll_eq hread, List.map_singleton, Definition.buildAll, Definition.build_of_valid hvalid]
  rfl

def plainText : String :=
  "cnf \"a\\d\" \x7b (x not in [-1, 2.50, true, \"b\"] weight -0.5 default false or y in range (*, 3]) \x7d"

theorem readAll_display_plain :
    ∃ all, readAll plainText = .ok all ∧ all.length = 1 ∧ ∀ c ∈ all, c.Plain ∧
      ∃ d, readAll c.display = .ok [d] ∧ d.same c.toDefinition = true := by
  have hread : ((readAll plainText).toOption.any fun all =>
      decide (all.length = 1) && decide (∀ c ∈ all, c.Plain)) = true := by decide +kernel
  cases h : readAll plainText with
  | error fault =>
    rw [h] at hread
    cases hread
  | ok all =>
    rw [h] at hread
    obtain ⟨hlength, hplain⟩ := Bool.and_eq_true_iff.mp hread
    have hplain : ∀ c ∈ all, c.Plain := of_decide_eq_true hplain
    exact ⟨all, rfl, of_decide_eq_true hlength, fun c hc =>
      ⟨hplain c hc, readAll_display h hc (hplain c hc)⟩⟩

-- A quotation mark in a string is printed as it is, and ends the string when it is read.
theorem not_readAll_display :
    ¬ ∀ text all, readAll text = .ok all → ∀ c ∈ all,
      ∃ d, readAll c.display = .ok [d] ∧ d.same c.toDefinition = true := by
  intro hreadBack
  have hrun : ((readAll "dnf \"a\\\"b\" \x7b (x in [1]) \x7d").toOption.any fun all =>
      all.any fun c => (readAll c.display).toOption.isNone) = true := by decide +kernel
  cases h : readAll "dnf \"a\\\"b\" \x7b (x in [1]) \x7d" with
  | error fault =>
    rw [h] at hrun
    cases hrun
  | ok all =>
    rw [h] at hrun
    obtain ⟨c, hc, hunread⟩ := List.any_eq_true.mp hrun
    obtain ⟨d, hd, -⟩ := hreadBack _ all h c hc
    rw [hd] at hunread
    cases hunread

end Targeting.Criteria
