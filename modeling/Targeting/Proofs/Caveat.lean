import Mathlib
import Targeting.Caveat
import Targeting.Proofs.Binary64.Text

namespace Targeting

-- Texts without a number sign are told apart when they are joined by number signs.
theorem hash_split {a b rest rest' : List Char} (ha : '#' ∉ a) (hb : '#' ∉ b)
    (h : a ++ '#' :: rest = b ++ '#' :: rest') : a = b ∧ rest = rest' := by
  induction a generalizing b with
  | nil =>
    cases b with
    | nil => exact ⟨rfl, List.cons_eq_cons.mp h |>.2⟩
    | cons c b =>
      have hc := (List.cons_eq_cons.mp h).1
      exact absurd (hc ▸ List.mem_cons_self) hb
  | cons c a ih =>
    cases b with
    | nil =>
      have hc := (List.cons_eq_cons.mp h).1
      exact absurd (hc ▸ List.mem_cons_self) ha
    | cons d b =>
      obtain ⟨hcd, htail⟩ := List.cons_eq_cons.mp h
      obtain ⟨hab, hrest⟩ := ih (fun hmem => ha (List.mem_cons_of_mem _ hmem))
        (fun hmem => hb (List.mem_cons_of_mem _ hmem)) htail
      exact ⟨by rw [hcd, hab], hrest⟩

theorem hash_not_mem_boolText (b : Bool) : '#' ∉ (boolText b).toList := by
  cases b <;> simp [boolText]

theorem boolText_injective {a b : Bool} (h : boolText a = boolText b) : a = b := by
  cases a <;> cases b <;> simp_all [boolText]

theorem Pattern.eq_of_source {p q : Pattern} (h : p.source = q.source) : p = q := by
  obtain ⟨source, program, hprogram⟩ := p
  obtain ⟨source', program', hprogram'⟩ := q
  cases h
  cases hprogram.trans hprogram'.symm
  rfl

namespace Range

def boundText (b : Option Binary64) : String := (b.map Binary64.toText).getD ""

theorem token_toList (r : Range) :
    r.token.toList = (boundText r.lo).toList ++ '#' :: ((boundText r.hi).toList
      ++ '#' :: ((boolText r.loInclusive).toList ++ '#' :: (boolText r.hiInclusive).toList)) := by
  simp [token, boundText, String.intercalate_cons_cons]

theorem hash_not_mem_boundText {b : Option Binary64} (h : ∀ x, b = some x → x.isNaN = false) :
    '#' ∉ (boundText b).toList := by
  cases b with
  | none => simp [boundText]
  | some x => exact fun hmem => Binary64.toText_ne_hash (h x rfl) hmem rfl

theorem boundText_injective {a b : Option Binary64} (ha : ∀ x, a = some x → x.isNaN = false)
    (hb : ∀ x, b = some x → x.isNaN = false) (h : boundText a = boundText b) : a = b := by
  have hne (x : Binary64) (hx : x.isNaN = false) : "" ≠ x.toText := by
    intro hempty
    exact Binary64.toText_ne_nil hx (by rw [← hempty]; rfl)
  cases a with
  | none =>
    cases b with
    | none => rfl
    | some y => exact absurd h (hne y (hb y rfl))
  | some x =>
    cases b with
    | none => exact absurd h.symm (hne x (ha x rfl))
    | some y => rw [Binary64.toText_injective (ha x rfl) (hb y rfl) h]

theorem isNaN_of_fault? {r : Range} (h : r.fault? = none) :
    (∀ x, r.lo = some x → x.isNaN = false) ∧ ∀ x, r.hi = some x → x.isNaN = false := by
  rw [fault?] at h
  split at h
  · cases h
  next hbounds =>
    rw [Bool.not_eq_true, Bool.or_eq_false_iff] at hbounds
    constructor
    · intro x hx
      simpa [hx] using hbounds.1
    · intro x hx
      simpa [hx] using hbounds.2

-- Valid ranges are told apart by their tokens.
theorem eq_of_token {r s : Range} (hr : r.fault? = none) (hs : s.fault? = none)
    (h : r.token = s.token) : r = s := by
  obtain ⟨hrlo, hrhi⟩ := isNaN_of_fault? hr
  obtain ⟨hslo, hshi⟩ := isNaN_of_fault? hs
  have hchars := congrArg String.toList h
  rw [token_toList, token_toList] at hchars
  obtain ⟨hlo, hchars⟩ :=
    hash_split (hash_not_mem_boundText hrlo) (hash_not_mem_boundText hslo) hchars
  obtain ⟨hhi, hchars⟩ :=
    hash_split (hash_not_mem_boundText hrhi) (hash_not_mem_boundText hshi) hchars
  obtain ⟨hloi, hhii⟩ := hash_split (hash_not_mem_boolText _) (hash_not_mem_boolText _) hchars
  obtain ⟨lo, hi, loInclusive, hiInclusive⟩ := r
  obtain ⟨lo', hi', loInclusive', hiInclusive'⟩ := s
  cases boundText_injective hrlo hslo (String.toList_inj.mp hlo)
  cases boundText_injective hrhi hshi (String.toList_inj.mp hhi)
  cases boolText_injective (String.toList_inj.mp hloi)
  cases boolText_injective (String.toList_inj.mp hhii)
  rfl

end Range

namespace VersionBound

def checkText : VersionCheck → String
  | .atLeast => "ge"
  | .atMost => "le"

theorem token_toList (b : VersionBound) :
    b.token.toList
      = (checkText b.check).toList
        ++ '#' :: (b.base.toList ++ '#' :: (boolText b.excludeBase).toList) := by
  cases hcheck : b.check <;> simp [token, checkText, hcheck, String.intercalate_cons_cons]

-- The base may have number signs of its own, but what comes before and after it has none.
theorem eq_of_token {b d : VersionBound} (h : b.token = d.token) : b = d := by
  have hcheckText (check : VersionCheck) : '#' ∉ (checkText check).toList := by
    cases check <;> simp [checkText]
  have hchars := congrArg String.toList h
  rw [token_toList, token_toList] at hchars
  obtain ⟨hcheck, hchars⟩ := hash_split (hcheckText _) (hcheckText _) hchars
  have hreverse := congrArg List.reverse hchars
  rw [List.reverse_append, List.reverse_cons, List.append_assoc, List.singleton_append,
    List.reverse_append, List.reverse_cons, List.append_assoc, List.singleton_append] at hreverse
  obtain ⟨hexclude, hbase⟩ := hash_split
    (fun hmem => hash_not_mem_boolText _ (List.mem_reverse.mp hmem))
    (fun hmem => hash_not_mem_boolText _ (List.mem_reverse.mp hmem)) hreverse
  obtain ⟨check, base, excludeBase⟩ := b
  obtain ⟨check', base', excludeBase'⟩ := d
  cases boolText_injective (String.toList_inj.mp (List.reverse_injective hexclude))
  cases String.toList_inj.mp (List.reverse_injective hbase)
  have : check = check' := by
    cases check <;> cases check' <;> simp_all [checkText]
  cases this
  rfl

end VersionBound

-- Valid caveats of one kind with the same token are the same test.
theorem Caveat.eq_of_token {c d : Caveat} {token : String} (hc : c.fault? = none)
    (hd : d.fault? = none) (hkind : c.kind = d.kind) (hctoken : c.token? = some token)
    (hdtoken : d.token? = some token) : c = d := by
  cases c with
  | oneOf keys => cases hctoken
  | pattern p =>
    cases d <;> cases hkind
    cases hctoken
    rw [Pattern.eq_of_source (Option.some.inj hdtoken)]
  | range r =>
    cases d <;> cases hkind
    cases hctoken
    have hr : r.fault? = none := by simpa [fault?] using hc
    have hs := Option.map_eq_none_iff.mp hd
    rw [Range.eq_of_token hs hr (Option.some.inj hdtoken)]
  | version b =>
    cases d <;> cases hkind
    cases hctoken
    rw [VersionBound.eq_of_token (Option.some.inj hdtoken)]

end Targeting
