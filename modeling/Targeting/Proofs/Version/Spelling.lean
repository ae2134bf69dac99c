import Targeting.Proofs.Decimal
import Targeting.Proofs.Version.Release

namespace Targeting

namespace Text

theorem splitOn_eq (separator : Char) (cs : List Char) :
    splitOn separator cs = cs.splitOn separator := by
  induction cs with
  | nil => rw [splitOn, List.splitOn_nil]
  | cons c cs ih =>
    rw [splitOn, ih, List.splitOn_cons_eq_if_modifyHead]
    cases c == separator with
    | true => rfl
    | false =>
      cases hparts : cs.splitOn separator with
      | nil => exact absurd hparts (List.splitOn_ne_nil _ _)
      | cons part parts => rfl

end Text

namespace Segment

def dropPlus : List Char → List Char
  | '+' :: digits => digits
  | cs => cs

-- The number that a part between two dots denotes. Nothing denotes zero, and a plus may come before
-- the digits.
def number? (part : List Char) : Option Nat :=
  if part = [] then some 0 else Text.nat? (dropPlus part)

-- The segment that a part between two dots denotes, with numbers of any size.
def denoted (part : List Char) : Segment :=
  match number? part with
  | some n => .num n
  | none => .text (lowerAscii (String.ofList part))

theorem ofText_eq (s : String) : ofText s =
    match Text.nat? (dropPlus s.toList) with
    | some n => if n < 2 ^ 64 then num n else text (lowerAscii s)
    | none => if s.isEmpty then num 0 else text (lowerAscii s) := rfl

theorem ofText_eq_denoted {part : List Char} (hfits : ∀ n, denoted part = .num n → n < 2 ^ 64) :
    ofText (String.ofList part) = denoted part := by
  by_cases hnil : part = []
  · rw [hnil]
    rfl
  · rw [denoted, number?, if_neg hnil] at hfits ⊢
    rw [ofText_eq, String.toList_ofList]
    cases hnumber : Text.nat? (dropPlus part) with
    | none => simp [hnil]
    | some n =>
      rw [hnumber] at hfits
      exact if_pos (hfits n rfl)

end Segment

namespace Version

-- A text without the blanks around it and the letter before it.
def stripped (cs : List Char) : List Char := dropV (trim cs)

-- The segments of the release in a text, all of them and with numbers of any size.
def segments (s : String) : List Segment :=
  (((stripped s.toList).takeWhile (· != '-')).splitOn '.').map Segment.denoted

theorem release_of_ofText? {s : String} {v : Version} (hv : ofText? s = some v)
    (hfits : ∀ n, .num n ∈ segments s → n < 2 ^ 64) : v.release = dropZeros (segments s) := by
  rw [ofText?] at hv
  split at hv
  next => cases hv
  next =>
    cases hv
    rw [segments] at hfits ⊢
    rw [← Text.splitOn_eq] at hfits ⊢
    refine congrArg dropZeros (List.map_congr_left fun part hpart => ?_)
    apply Segment.ofText_eq_denoted
    intro n hn
    exact hfits n (hn ▸ List.mem_map_of_mem hpart)

theorem stripped_ne_nil {s : String} {v : Version} (hv : ofText? s = some v) :
    stripped s.toList ≠ [] := by
  intro hnil
  rw [stripped] at hnil
  rw [ofText?, hnil] at hv
  cases hv

-- The version in a text, by its release and what follows it.
theorem ofText?_of_stripped {s : String} {release rest : List Char}
    (hs : stripped s.toList = release ++ rest) (hne : release ++ rest ≠ [])
    (hrelease : '-' ∉ release) (hrest : ∀ c ∈ rest.head?, c = '-') :
    ofText? s = some {
      release := dropZeros ((release.splitOn '.').map fun part => .ofText (String.ofList part))
      qualifier :=
        if (rest.drop 1).isEmpty then none else some (lowerAscii (String.ofList (rest.drop 1))) } := by
  have hplain : ∀ c ∈ release, (c != '-') = true := fun c hc => by
    simp only [bne_iff_ne]
    intro heq
    exact hrelease (heq ▸ hc)
  have hhead : rest.head?.any (· != '-') = false := by
    cases rest with
    | nil => rfl
    | cons c rest => simpa using hrest c rfl
  rw [stripped] at hs
  rw [ofText?, hs, Text.takeWhile_append_of_head hplain hhead,
    Text.dropWhile_append_of_head hplain hhead, ← Text.splitOn_eq]
  exact if_neg (by simpa using hne)

theorem trim_eq (cs : List Char) :
    trim cs = (cs.dropWhile Unicode.isBlank).rdropWhile Unicode.isBlank := rfl

-- A text divided where its release ends: at a hyphen, or at the blanks behind.
def EndsRelease (body tail : List Char) : Prop :=
  '-' ∉ body ∧ (tail.head? = some '-' ∨
    (∀ c ∈ tail, Unicode.isBlank c = true) ∧ ∀ c ∈ body.getLast?, Unicode.isBlank c = false)

theorem isBlank_hyphen : Unicode.isBlank '-' = false := by decide +kernel

theorem trim_of_endsRelease {body tail : List Char} (h : EndsRelease body tail) :
    trim (body ++ tail) = body.dropWhile Unicode.isBlank ++ tail.rdropWhile Unicode.isBlank := by
  obtain ⟨-, htail | ⟨htail, hbody⟩⟩ := h
  · cases tail with
    | nil => cases htail
    | cons c rest =>
      cases Option.some.inj htail
      have hrest := rdropWhile_append_cons isBlank_hyphen [] rest
      rw [List.nil_append] at hrest
      rw [hrest, List.nil_append, trim_eq, dropWhile_append_cons isBlank_hyphen,
        rdropWhile_append_cons isBlank_hyphen]
  · rw [List.rdropWhile_eq_nil_iff.mpr htail, List.append_nil, trim_eq]
    obtain hnil | ⟨init, c, rfl⟩ := List.eq_nil_or_concat body
    · rw [hnil, List.nil_append, List.dropWhile_eq_nil_iff.mpr htail]
      rfl
    · have hc := hbody c (by simp)
      rw [List.concat_eq_append, List.append_assoc, List.singleton_append, dropWhile_append_cons hc,
        rdropWhile_append_cons hc, List.rdropWhile_eq_nil_iff.mpr htail,
        dropWhile_append_cons hc]

theorem dropV_of_head {cs : List Char} (h : ∀ c ∈ cs.head?, c ≠ 'v' ∧ c ≠ 'V') : dropV cs = cs := by
  unfold dropV
  split
  next => simp at h
  next => simp at h
  next => rfl

theorem dropV_append {rest : List Char} (hrest : ∀ c ∈ rest.head?, c ≠ 'v' ∧ c ≠ 'V')
    (cs : List Char) : dropV (cs ++ rest) = dropV cs ++ rest := by
  cases cs with
  | nil => exact dropV_of_head hrest
  | cons c cs =>
    by_cases hc : c = 'v' ∨ c = 'V'
    · obtain rfl | rfl := hc <;> rfl
    · have hself (more : List Char) : dropV (c :: more) = c :: more :=
        dropV_of_head (by simpa using hc)
      rw [hself, List.cons_append, hself]

theorem dropV_subset (cs : List Char) : dropV cs ⊆ cs := by
  unfold dropV
  split <;> simp

theorem EndsRelease.head_rest {body tail : List Char} (h : EndsRelease body tail) :
    ∀ c ∈ (tail.rdropWhile Unicode.isBlank).head?, c = '-' := by
  obtain ⟨-, htail | ⟨htail, -⟩⟩ := h
  · cases tail with
    | nil => cases htail
    | cons c rest =>
      cases Option.some.inj htail
      have hrest := rdropWhile_append_cons isBlank_hyphen [] rest
      rw [List.nil_append, List.nil_append] at hrest
      simp [hrest]
  · rw [List.rdropWhile_eq_nil_iff.mpr htail]
    simp

theorem stripped_of_endsRelease {body tail : List Char} (h : EndsRelease body tail) :
    stripped (body ++ tail) =
      dropV (body.dropWhile Unicode.isBlank) ++ tail.rdropWhile Unicode.isBlank := by
  rw [stripped, trim_of_endsRelease h]
  apply dropV_append
  intro c hc
  cases h.head_rest c hc
  decide

-- The text `.0`, as many times.
def zeros (n : Nat) : List Char := (List.replicate n ['.', '0']).flatten

theorem eq_of_mem_zeros {n : Nat} {c : Char} (hc : c ∈ zeros n) : c = '.' ∨ c = '0' := by
  simp only [zeros, List.mem_flatten, List.mem_replicate] at hc
  obtain ⟨part, ⟨-, rfl⟩, hc⟩ := hc
  simpa using hc

theorem hyphen_not_mem_zeros {n : Nat} : '-' ∉ zeros n := by
  intro hc
  simpa using eq_of_mem_zeros hc

theorem isBlank_of_mem_zeros {n : Nat} {c : Char} (hc : c ∈ zeros n) : Unicode.isBlank c = false := by
  obtain rfl | rfl := eq_of_mem_zeros hc <;> decide +kernel

theorem dropWhile_append_zeros (cs : List Char) (n : Nat) :
    (cs ++ zeros n).dropWhile Unicode.isBlank = cs.dropWhile Unicode.isBlank ++ zeros n := by
  have hblank (c : Char) (hc : c ∈ zeros n) := isBlank_of_mem_zeros hc
  cases hzeros : zeros n with
  | nil => rw [List.append_nil, List.append_nil]
  | cons c rest => exact dropWhile_append_cons (hblank c (by simp [hzeros])) cs rest

theorem EndsRelease.append_zeros {body tail : List Char} (h : EndsRelease body tail) (n : Nat) :
    EndsRelease (body ++ zeros n) tail := by
  obtain ⟨hbody, htail⟩ := h
  constructor
  · exact List.not_mem_append hbody hyphen_not_mem_zeros
  · refine htail.imp_right fun ⟨hblank, hlast⟩ => ⟨hblank, fun c hc => ?_⟩
    rw [List.getLast?_append] at hc
    cases hzeros : (zeros n).getLast? with
    | none => exact hlast c (by simpa [hzeros] using hc)
    | some d =>
      cases Option.some.inj (by simpa [hzeros] using hc : some d = some c)
      exact isBlank_of_mem_zeros (List.mem_of_getLast? hzeros)

theorem splitOn_append_zeros (cs : List Char) (n : Nat) :
    (cs ++ zeros n).splitOn '.' = cs.splitOn '.' ++ List.replicate n ['0'] := by
  induction n generalizing cs with
  | zero => simp [zeros]
  | succ n ih =>
    have hzeros : zeros (n + 1) = '.' :: (['0'] ++ zeros n) := by simp [zeros, List.replicate_succ]
    have hzero : ['0'].splitOn '.' = [['0']] := List.splitOn_eq_singleton (by decide)
    rw [hzeros, List.splitOn_append_cons_self, ih, hzero, List.singleton_append,
      List.replicate_succ]

theorem ofText?_append_zeros {s : String} {body tail : List Char} (hs : s.toList = body ++ tail)
    (h : EndsRelease body tail) {v : Version} (hv : ofText? s = some v) (n : Nat) :
    ofText? (String.ofList (body ++ zeros n ++ tail)) = some v := by
  let release := dropV (body.dropWhile Unicode.isBlank)
  let rest := tail.rdropWhile Unicode.isBlank
  have hstripped : stripped s.toList = release ++ rest := by
    rw [hs, stripped_of_endsRelease h]
  have hextended : stripped (String.ofList (body ++ zeros n ++ tail)).toList =
      release ++ zeros n ++ rest := by
    rw [String.toList_ofList, stripped_of_endsRelease (h.append_zeros n), dropWhile_append_zeros,
      dropV_append]
    intro c hc
    obtain rfl | rfl := eq_of_mem_zeros (List.mem_of_mem_head? hc) <;> decide
  have hne : release ++ rest ≠ [] := hstripped ▸ stripped_ne_nil hv
  have hextendedNe : release ++ zeros n ++ rest ≠ [] := by
    simp only [ne_eq, List.append_eq_nil_iff] at hne ⊢
    exact fun hnil => hne ⟨hnil.1.1, hnil.2⟩
  have hrelease : '-' ∉ release := by
    intro hc
    exact h.1 ((List.dropWhile_suffix _).subset (dropV_subset _ hc))
  have hsegments : dropZeros (((release ++ zeros n).splitOn '.').map fun part =>
        .ofText (String.ofList part)) =
      dropZeros ((release.splitOn '.').map fun part => .ofText (String.ofList part)) := by
    rw [splitOn_append_zeros, List.map_append, List.map_replicate]
    exact dropZeros_append_zeros _ n
  rw [ofText?_of_stripped hextended hextendedNe
    (List.not_mem_append hrelease hyphen_not_mem_zeros) h.head_rest, hsegments,
    ← ofText?_of_stripped hstripped hne hrelease h.head_rest]
  exact hv

-- A text with zeros behind its release, which ends before the first hyphen, or else before the
-- blanks at the end.
def appendZeros (n : Nat) (cs : List Char) : List Char :=
  if '-' ∈ cs then cs.takeWhile (· != '-') ++ zeros n ++ cs.dropWhile (· != '-')
  else cs.rdropWhile Unicode.isBlank ++ zeros n ++ cs.rtakeWhile Unicode.isBlank

theorem endsRelease_hyphen {cs : List Char} (h : '-' ∈ cs) :
    EndsRelease (cs.takeWhile (· != '-')) (cs.dropWhile (· != '-')) := by
  constructor
  · intro hc
    simpa using List.mem_takeWhile_imp hc
  · left
    cases hhead : (cs.dropWhile (· != '-')).head? with
    | none =>
      rw [List.head?_eq_none_iff, List.dropWhile_eq_nil_iff] at hhead
      simpa using hhead _ h
    | some c =>
      have hc := not_of_mem_head?_dropWhile hhead
      rw [bne_eq_false_iff_eq.mp hc]

theorem endsRelease_blanks {cs : List Char} (h : '-' ∉ cs) :
    EndsRelease (cs.rdropWhile Unicode.isBlank) (cs.rtakeWhile Unicode.isBlank) := by
  constructor
  · intro hc
    exact h ((List.rdropWhile_prefix _ cs).subset hc)
  · right
    exact ⟨fun c hc => List.mem_rtakeWhile_imp hc, fun c hc => not_of_mem_getLast?_rdropWhile hc⟩

-- Zeros at the end of a release are no part of the version.
theorem ofText?_appendZeros {s : String} {v : Version} (hv : ofText? s = some v) (n : Nat) :
    ofText? (String.ofList (appendZeros n s.toList)) = some v := by
  rw [appendZeros]
  split
  next h =>
    exact ofText?_append_zeros List.takeWhile_append_dropWhile.symm (endsRelease_hyphen h) hv n
  next h =>
    exact ofText?_append_zeros List.rdropWhile_append_rtakeWhile.symm (endsRelease_blanks h) hv n

end Version

end Targeting
