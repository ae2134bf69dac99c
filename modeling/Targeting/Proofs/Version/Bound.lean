import Targeting.Predicate
import Targeting.Proofs.Version.Release

namespace Targeting

instance : Std.TransCmp Segment.compareTo where
  isLE_trans {a b c} hab hbc := by
    match a, b, c with
    | .text _, .text _, .text _ => exact Std.TransOrd.isLE_trans hab hbc
    | .num _, .num _, .num _ => exact Std.TransOrd.isLE_trans hab hbc
    | .text _, _, .num _ => rfl
    | .num _, .text _, _ => cases hab
    | _, .num _, .text _ => cases hbc

namespace Version

theorem compareReleases_eq_compareLex : compareReleases = List.compareLex Segment.compareTo :=
  funext fun as => funext fun bs => compareReleases_eq as bs

instance : Std.TransCmp compareReleases :=
  compareReleases_eq_compareLex ▸ inferInstanceAs (Std.TransCmp (List.compareLex Segment.compareTo))

instance : Std.LawfulEqCmp compareReleases :=
  compareReleases_eq_compareLex ▸
    inferInstanceAs (Std.LawfulEqCmp (List.compareLex Segment.compareTo))

instance : Std.TransCmp compareQualifiers where
  eq_swap {p q} := by
    cases p <;> cases q
    case some.some p q => exact Std.OrientedOrd.eq_swap
    all_goals rfl
  isLE_trans {p q r} hpq hqr := by
    match p, q, r with
    | some _, some _, some _ => exact Std.TransOrd.isLE_trans hpq hqr
    | none, _, none => rfl
    | some _, _, none => rfl
    | none, some _, _ => cases hpq
    | _, none, some _ => cases hqr

instance : Std.LawfulEqCmp compareQualifiers where
  compare_self {p} := by
    cases p with
    | none => rfl
    | some p => exact Std.ReflOrd.compare_self
  eq_of_compare {p q} h := by
    match p, q with
    | none, none => rfl
    | some _, some _ => exact congrArg some (Std.LawfulEqOrd.eq_of_compare h)
    | none, some _ => cases h
    | some _, none => cases h

-- An order of what is read off is an order of that from which it is read, but for equality.
theorem transCmp_on {α β : Type} (cmp : β → β → Ordering) [Std.TransCmp cmp] (f : α → β) :
    Std.TransCmp fun a b => cmp (f a) (f b) where
  eq_swap := Std.OrientedCmp.eq_swap
  isLE_trans := Std.TransCmp.isLE_trans

instance : Std.TransOrd Version :=
  have := transCmp_on compareReleases release
  have := transCmp_on compareQualifiers qualifier
  inferInstanceAs (Std.TransCmp (compareLex
    (fun v w : Version => compareReleases v.release w.release)
    (fun v w : Version => compareQualifiers v.qualifier w.qualifier)))

theorem compare_eq_iff {v w : Version} : compare v w = .eq ↔ v = w := by
  change (compareReleases v.release w.release).then (compareQualifiers v.qualifier w.qualifier) = .eq
    ↔ _
  rw [Ordering.then_eq_eq, Std.LawfulEqCmp.compare_eq_iff_eq, Std.LawfulEqCmp.compare_eq_iff_eq,
    Version.mk.injEq]

end Version

namespace VersionBound

variable {b : VersionBound} {base actual : Version} {v : Value}

-- The four tests against a base.
def atLeast (base : String) : VersionBound := ⟨.atLeast, base, false⟩

def above (base : String) : VersionBound := ⟨.atLeast, base, true⟩

def atMost (base : String) : VersionBound := ⟨.atMost, base, false⟩

def below (base : String) : VersionBound := ⟨.atMost, base, true⟩

-- What a version has to be to the base in order to pass.
def admits (b : VersionBound) (o : Ordering) : Bool :=
  match b.check, b.excludeBase with
  | .atLeast, false => o.isGE
  | .atLeast, true => o.isGT
  | .atMost, false => o.isLE
  | .atMost, true => o.isLT

theorem accepts_eq_admits (b : VersionBound) (hbase : Version.ofText? b.base = some base)
    (hv : versionOf? v = some actual) : b.accepts v = b.admits (compare actual base) := by
  have hversion : b.version? = some base := hbase
  simp only [accepts, hversion, hv, admits]
  cases compare actual base <;> cases b.check <;> cases b.excludeBase <;> rfl

theorem accepts_of_versionOf?_eq_none (hv : versionOf? v = none) : b.accepts v = false := by
  rw [accepts, hv]
  cases b.version? <;> rfl

-- What four tests of values say, by the versions that the values are read as.
structure OrderTests (base : Version) (atLeast above atMost below : Value → Bool) : Prop where
  atLeast_or_below : ∀ v actual, versionOf? v = some actual → atLeast v = !below v
  above_or_atMost : ∀ v actual, versionOf? v = some actual → above v = !atMost v
  both_iff : ∀ v actual, versionOf? v = some actual →
    (atLeast v = true ∧ atMost v = true ↔ compare actual base = .eq)
  upward : ∀ v actual, versionOf? v = some actual → atLeast v = true →
    ∀ w newer, versionOf? w = some newer → (compare actual newer).isLE = true → atLeast w = true
  unread : ∀ v, versionOf? v = none →
    atLeast v = false ∧ above v = false ∧ atMost v = false ∧ below v = false

theorem orderTests {s : String} (hbase : Version.ofText? s = some base) :
    OrderTests base (atLeast s).accepts (above s).accepts (atMost s).accepts (below s).accepts := by
  have hadmits (b : VersionBound) (hb : b.base = s) (v : Value) (actual : Version)
      (hv : versionOf? v = some actual) : b.accepts v = b.admits (compare actual base) :=
    accepts_eq_admits b (hb ▸ hbase) hv
  constructor
  case atLeast_or_below =>
    intro v actual hv
    rw [hadmits (atLeast s) rfl v actual hv, hadmits (below s) rfl v actual hv]
    exact Ordering.not_isLT_eq_isGE.symm
  case above_or_atMost =>
    intro v actual hv
    rw [hadmits (above s) rfl v actual hv, hadmits (atMost s) rfl v actual hv]
    exact Ordering.not_isLE_eq_isGT.symm
  case both_iff =>
    intro v actual hv
    rw [hadmits (atLeast s) rfl v actual hv, hadmits (atMost s) rfl v actual hv]
    change (compare actual base).isGE = true ∧ (compare actual base).isLE = true ↔ _
    cases compare actual base <;> decide
  case upward =>
    intro v actual hv hpass w newer hw hle
    rw [hadmits (atLeast s) rfl v actual hv] at hpass
    rw [hadmits (atLeast s) rfl w newer hw]
    exact Std.TransCmp.isGE_trans (Std.OrientedCmp.isGE_of_isLE hle) hpass
  case unread =>
    intro v hv
    simp only [accepts_of_versionOf?_eq_none hv, and_self]

-- Versions are totally ordered, and the tests against a base follow that order. A predicate holds of a
-- field when one of its values passes.
theorem compare_total_and_orderTests :
    (∀ v w : Version, compare w v = (compare v w).swap) ∧
      (∀ u v w : Version, (compare u v).isLE = true → (compare v w).isLE = true →
        (compare u w).isLE = true) ∧
      (∀ v w : Version, compare v w = .eq ↔ v = w) ∧
      (∀ (s : String) (base : Version), Version.ofText? s = some base →
        OrderTests base (atLeast s).accepts (above s).accepts (atMost s).accepts (below s).accepts) ∧
      ∀ (b : VersionBound) (path : String) (doc : Document) (values : List Value),
        doc.get? path = some values →
          (Predicate.make .included path (.version b)).evaluate doc = values.any b.accepts := by
  refine ⟨fun v w => Std.OrientedCmp.eq_swap, fun u v w => Std.TransCmp.isLE_trans,
    fun v w => Version.compare_eq_iff, fun s base hbase => orderTests hbase, ?_⟩
  intro b path doc values hdoc
  have hpath : (Predicate.make .included path (.version b)).path = path := rfl
  rw [Predicate.evaluate, hpath, hdoc]
  exact Bool.false_bne _

-- A qualifier takes a version below `1.2`, and a zero leaves it where it is.
theorem orderTests_release :
    Version.ofText? "1.2" = some ⟨[.num 1, .num 2], none⟩ ∧
      versionOf? (.text "v1.2-rc") = some ⟨[.num 1, .num 2], some "rc"⟩ ∧
      (atLeast "1.2").accepts (.text "v1.2-rc") = !(below "1.2").accepts (.text "v1.2-rc") ∧
      versionOf? (.text "1.2.0") = some ⟨[.num 1, .num 2], none⟩ ∧
      (atLeast "1.2").accepts (.text "1.2.0") = true ∧ (atMost "1.2").accepts (.text "1.2.0") = true := by
  have hbase : Version.ofText? "1.2" = some ⟨[.num 1, .num 2], none⟩ := by decide +kernel
  have hbefore : versionOf? (.text "v1.2-rc") = some ⟨[.num 1, .num 2], some "rc"⟩ := by
    decide +kernel
  have hsame : versionOf? (.text "1.2.0") = some ⟨[.num 1, .num 2], none⟩ := by decide +kernel
  obtain ⟨-, -, -, htests, -⟩ := compare_total_and_orderTests
  have h := htests "1.2" _ hbase
  exact ⟨hbase, hbefore, h.atLeast_or_below _ _ hbefore, hsame, (h.both_iff _ _ hsame).mpr rfl⟩

end VersionBound

end Targeting
