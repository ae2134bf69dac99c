import Mathlib
import Targeting.Proofs.Registry.Calls
import Targeting.Proofs.SortedMap

namespace Targeting.Registry

-- What the calls alone tell: the names of the groups created so far, and which of these groups each
-- name denotes now. A handle is the place of its group among them.
structure Directory where
  created : List String
  inUse : String → Option Handle

namespace Directory

def empty : Directory := ⟨[], fun _ => none⟩

def follow (d : Directory) : Call → Directory
  | .create name =>
    match d.inUse name with
    | some _ => d
    | none => ⟨d.created ++ [name], Function.update d.inUse name (some ⟨d.created.length⟩)⟩
  | .remove name => { d with inUse := Function.update d.inUse name none }
  | _ => d

def followAll (d : Directory) (calls : List Call) : Directory := calls.foldl follow d

def after (calls : List Call) : Directory := empty.followAll calls

-- The group that a call asks something, by name or through a handle, and what it asks.
def addressed? (d : Directory) : Call → Option (Handle × Group.Request)
  | .through handle request =>
    if handle.index < d.created.length then some (handle, request) else none
  | call => call.named?.bind fun asked => (d.inUse asked.1).map fun handle => (handle, asked.2)

variable {d : Directory} {call : Call} {handle : Handle} {request : Group.Request}

-- Only creating and removing changes what names denote.
theorem follow_addressed (h : d.addressed? call = some (handle, request)) : d.follow call = d := by
  cases call <;> first | rfl | cases h

theorem created_follow (d : Directory) (call : Call) : d.created <+: (d.follow call).created := by
  cases call with
  | create name =>
    rw [follow]
    cases d.inUse name with
    | some _ => exact List.prefix_rfl
    | none => exact List.prefix_append _ _
  | _ => exact List.prefix_rfl

theorem created_followAll (d : Directory) (calls : List Call) :
    d.created <+: (d.followAll calls).created := by
  induction calls generalizing d with
  | nil => exact List.prefix_rfl
  | cons call rest ih => exact (d.created_follow call).trans (ih _)

-- The name that a group was created under stays known.
theorem getElem?_followAll (d : Directory) (calls : List Call) {i : Nat} {name : String}
    (h : d.created[i]? = some name) : (d.followAll calls).created[i]? = some name := by
  obtain ⟨later, hlater⟩ := d.created_followAll calls
  rw [← hlater, List.getElem?_append_left (List.getElem?_eq_some_iff.mp h).1]
  exact h

end Directory

-- A registry that the calls so far have led to.
structure Follows (config : GroupConfig) (r : Registry) (d : Directory) : Prop where
  config : r.config = config
  size : r.groups.size = d.created.length
  names : ∀ name, r.names.find? name = d.inUse name
  denoted : ∀ name handle, d.inUse name = some handle → d.created[handle.index]? = some name

namespace Follows

variable {config : GroupConfig} {r : Registry} {d : Directory} {g : Group} {handle other : Handle}
  {request : Group.Request} {call : Call} {name : String}

theorem exists_group (h : Follows config r d) (hhandle : handle.index < d.created.length) :
    ∃ g, r.get? handle = some g := by
  rw [← h.size] at hhandle
  exact ⟨r.groups[handle.index], Array.getElem?_eq_getElem hhandle⟩

theorem lt_of_get? (h : Follows config r d) (hgroup : r.get? handle = some g) :
    handle.index < d.created.length := by
  rw [← h.size]
  exact (Array.getElem?_eq_some_iff.mp hgroup).1

theorem lt_of_inUse (h : Follows config r d) (hname : d.inUse name = some handle) :
    handle.index < d.created.length :=
  (List.getElem?_eq_some_iff.mp (h.denoted name handle hname)).1

theorem respond_inUse (h : Follows config r d) (hcall : call.named? = some (name, request))
    (hname : d.inUse name = some handle) : ∃ g, r.get? handle = some g ∧
      r.respond call = (r.set handle (g.respond request).1, .answered (g.respond request).2) := by
  obtain ⟨g, hg⟩ := h.exists_group (h.lt_of_inUse hname)
  exact ⟨g, hg, respond_named hcall ((h.names name).trans hname) hg⟩

-- A group that is asked something answers by itself, and nothing but its own state changes.
theorem respond_addressed (h : Follows config r d)
    (hcall : d.addressed? call = some (handle, request)) : ∃ g, r.get? handle = some g ∧
      r.respond call = (r.set handle (g.respond request).1, .answered (g.respond request).2) := by
  have hnamed (hbind : (call.named?.bind fun asked =>
      (d.inUse asked.1).map fun handle => (handle, asked.2)) = some (handle, request)) :
      ∃ name, call.named? = some (name, request) ∧ d.inUse name = some handle := by
    obtain ⟨asked, hasked, hmap⟩ := Option.bind_eq_some_iff.mp hbind
    obtain ⟨denoted, hname, hpair⟩ := Option.map_eq_some_iff.mp hmap
    cases hpair
    exact ⟨asked.1, hasked, hname⟩
  cases call with
  | through denoted asked =>
    rw [Directory.addressed?] at hcall
    split at hcall
    next hlt =>
      cases hcall
      obtain ⟨g, hg⟩ := h.exists_group hlt
      refine ⟨g, hg, ?_⟩
      simp only [respond, hg]
    next => cases hcall
  | _ =>
    obtain ⟨name, hasked, hname⟩ := hnamed hcall
    exact h.respond_inUse hasked hname

theorem set (h : Follows config r d) (handle : Handle) (g : Group) : Follows config (r.set handle g) d where
  config := h.config
  size := by
    rw [← h.size]
    exact Array.size_setIfInBounds
  names := h.names
  denoted := h.denoted

theorem createOrGet_inUse (h : Follows config r d) (hname : d.inUse name = some handle) :
    r.createOrGet name = (r, handle) := by
  rw [createOrGet, h.names, hname]

theorem createOrGet_free (h : Follows config r d) (hname : d.inUse name = none) :
    r.createOrGet name = ({ r with
      names := r.names.insert name ⟨d.created.length⟩
      groups := r.groups.push (.empty name config) }, ⟨d.created.length⟩) := by
  rw [createOrGet, h.names, hname, h.size, h.config]

theorem create_free (h : Follows config r d) (hname : d.inUse name = none) :
    Follows config (r.createOrGet name).1 (d.follow (.create name)) := by
  rw [h.createOrGet_free hname, Directory.follow, hname]
  refine ⟨h.config, ?_, fun other => ?_, fun other denoted hother => ?_⟩
  · simp [h.size]
  · rw [SortedMap.find?_insert]
    by_cases hsame : other = name
    · subst hsame
      simp
    · simp [hsame, h.names]
  · by_cases hsame : other = name
    · subst hsame
      simp only [Function.update_self, Option.some.injEq] at hother
      subst hother
      simp
    · simp only [ne_eq, hsame, not_false_eq_true, Function.update_of_ne] at hother
      rw [List.getElem?_append_left (h.lt_of_inUse hother)]
      exact h.denoted other denoted hother

theorem remove (h : Follows config r d) (name : String) :
    Follows config (r.remove name).1 (d.follow (.remove name)) := by
  refine ⟨h.config, h.size, fun other => ?_, fun other denoted hother => ?_⟩
  · change (r.names.erase name).find? other = Function.update d.inUse name none other
    rw [SortedMap.find?_erase]
    by_cases hsame : other = name
    · subst hsame
      simp
    · simp [hsame, h.names]
  · change Function.update d.inUse name none other = some denoted at hother
    by_cases hsame : other = name
    · subst hsame
      simp at hother
    · simp only [ne_eq, hsame, not_false_eq_true, Function.update_of_ne] at hother
      exact h.denoted other denoted hother

-- What a call that asks no group anything leaves of the groups: all that there were, and at most one
-- more, which is new.
theorem respond_unaddressed (h : Follows config r d) (hcall : d.addressed? call = none) :
    Follows config (r.respond call).1 (d.follow call) ∧
      ∀ handle g, r.get? handle = some g → (r.respond call).1.get? handle = some g := by
  have habsent (hnamed : (call.named?.bind fun asked =>
      (d.inUse asked.1).map fun handle => (handle, asked.2)) = none)
      (hasked : call.named? ≠ none) : (r.respond call).1 = r := by
    obtain ⟨asked, hasked⟩ := Option.ne_none_iff_exists'.mp hasked
    rw [hasked, Option.bind_some, Option.map_eq_none_iff] at hnamed
    rw [respond_absent hasked ((h.names _).trans hnamed)]
  have hstays (hsame : (r.respond call).1 = r) (hfollow : d.follow call = d) :
      Follows config (r.respond call).1 (d.follow call) ∧
        ∀ handle g, r.get? handle = some g → (r.respond call).1.get? handle = some g := by
    rw [hsame, hfollow]
    exact ⟨h, fun _ _ hg => hg⟩
  cases call with
  | create name =>
    cases hname : d.inUse name with
    | some denoted =>
      apply hstays
      · rw [respond, h.createOrGet_inUse hname]
      · rw [Directory.follow, hname]
    | none =>
      refine ⟨h.create_free hname, fun handle g hg => ?_⟩
      rw [respond, h.createOrGet_free hname]
      have hlt := (Array.getElem?_eq_some_iff.mp hg).1
      exact (Array.getElem?_push_lt hlt).trans ((Array.getElem?_eq_getElem hlt).symm.trans hg)
  | remove name => exact ⟨h.remove name, fun _ _ hg => hg⟩
  | find name => exact hstays rfl rfl
  | names => exact hstays rfl rfl
  | through denoted asked =>
    rw [Directory.addressed?] at hcall
    split at hcall
    next => cases hcall
    next hlt =>
      have hnone : r.get? denoted = none := Array.getElem?_eq_none (by rw [h.size]; omega)
      exact hstays (by simp only [respond, hnone]) rfl
  | _ => exact hstays (habsent hcall (by simp [Call.named?])) rfl

-- A group comes into being when its name is free, and nothing is known of it before.
theorem respond_new (h : Follows config r d) (hnew : d.created.length ≤ handle.index)
    (hborn : handle.index < (d.follow call).created.length) :
    d.addressed? call = none ∧ ∃ name, (d.follow call).created[handle.index]? = some name ∧
      (r.respond call).1.get? handle = some (.empty name config) := by
  cases call with
  | create name =>
    cases hname : d.inUse name with
    | some denoted =>
      rw [Directory.follow, hname] at hborn
      exact absurd hborn (Nat.not_lt.mpr hnew)
    | none =>
      have hfollow : (d.follow (.create name)).created = d.created ++ [name] := by
        rw [Directory.follow, hname]
      have hindex : handle.index = d.created.length := by
        rw [hfollow, List.length_append, List.length_singleton] at hborn
        omega
      refine ⟨rfl, name, ?_, ?_⟩
      · rw [hfollow, hindex]
        simp
      · rw [respond, h.createOrGet_free hname, get?, hindex, ← h.size]
        exact Array.getElem?_push_size
  | remove name => exact absurd hborn (Nat.not_lt.mpr hnew)
  | _ => exact absurd hborn (Nat.not_lt.mpr hnew)

-- A free name gets a new group behind a handle that nothing had.
theorem respond_create (h : Follows config r d) (hname : d.inUse name = none) :
    ∃ handle next, r.respond (.create name) = (next, .created handle) ∧
      (d.follow (.create name)).inUse name = some handle ∧ r.get? handle = none ∧
      next.get? handle = some (.empty name config) ∧
      ∀ other g, r.get? other = some g → next.get? other = some g := by
  have hcreate : r.respond (.create name) = ((r.respond (.create name)).1, .created ⟨d.created.length⟩) := by
    rw [respond, h.createOrGet_free hname]
  have hgroup : (r.respond (.create name)).1.get? ⟨d.created.length⟩ = some (.empty name config) := by
    rw [respond, h.createOrGet_free hname, get?, ← h.size]
    exact Array.getElem?_push_size
  refine ⟨⟨d.created.length⟩, _, hcreate, ?_, ?_, hgroup, (h.respond_unaddressed rfl).2⟩
  · rw [Directory.follow, hname]
    exact Function.update_self _ _ _
  · exact Array.getElem?_eq_none h.size.le

-- There is nothing to remove under a free name.
theorem respond_remove_free (h : Follows config r d) (hname : d.inUse name = none) :
    r.respond (.remove name) = (r, .removed none) := by
  have hfree : r.names.find? name = none := (h.names name).trans hname
  have hnames : r.names.erase name = r.names := by
    refine SortedMap.ext_find? fun other => ?_
    rw [SortedMap.find?_erase]
    by_cases hsame : other = name
    · rw [if_pos hsame, hsame, hfree]
    · rw [if_neg hsame]
  rw [Registry.respond, Registry.remove, hnames, hfree]

theorem group?_inUse (h : Follows config r d) (hname : d.inUse name = some handle) :
    r.group? name = .ok handle := by
  rw [group?, h.names, hname]

theorem group?_free (h : Follows config r d) (hname : d.inUse name = none) :
    r.group? name = .error (.groupNotFound name) := by
  rw [group?, h.names, hname]

theorem follows_addressed (h : Follows config r d) (hcall : d.addressed? call = some (handle, request)) :
    Follows config (r.respond call).1 (d.follow call) := by
  obtain ⟨g, -, hrespond⟩ := h.respond_addressed hcall
  rw [hrespond, Directory.follow_addressed hcall]
  exact h.set handle _

theorem respond (h : Follows config r d) (call : Call) :
    Follows config (r.respond call).1 (d.follow call) := by
  cases hcall : d.addressed? call with
  | none => exact (h.respond_unaddressed hcall).1
  | some asked => exact h.follows_addressed hcall

theorem run (h : Follows config r d) (calls : List Call) :
    Follows config (r.run calls) (d.followAll calls) := by
  induction calls generalizing r d with
  | nil => exact h
  | cons call rest ih => exact ih (h.respond call)

end Follows

end Targeting.Registry
