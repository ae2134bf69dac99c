import Mathlib
import Targeting.Proofs.Registry.Directory

namespace Targeting.Registry

-- What one group was asked in a run, with the replies.
def Directory.exchanges (d : Directory) (handle : Handle) : List (Call × Reply) → List (Group.Request × Reply)
  | [] => []
  | (call, reply) :: rest =>
    match d.addressed? call with
    | some (other, request) =>
      if other = handle then (request, reply) :: (d.follow call).exchanges handle rest
      else (d.follow call).exchanges handle rest
    | none => (d.follow call).exchanges handle rest

namespace Follows

variable {config : GroupConfig} {r : Registry} {d : Directory} {g : Group} {handle : Handle}
  {name : String}

-- A group that exists answers as if it were alone from here on.
theorem exchanges_of_get? (h : Follows config r d) (hgroup : r.get? handle = some g)
    (calls : List Call) :
    (d.exchanges handle (r.transcript calls)).map Prod.snd
      = (g.answers ((d.exchanges handle (r.transcript calls)).map Prod.fst)).map .answered := by
  induction calls generalizing r d g with
  | nil => rfl
  | cons call rest ih =>
    rw [transcript, Directory.exchanges]
    cases hcall : d.addressed? call with
    | none =>
      obtain ⟨hnext, hkept⟩ := h.respond_unaddressed hcall
      exact ih hnext (hkept handle g hgroup)
    | some asked =>
      obtain ⟨other, request⟩ := asked
      obtain ⟨asking, hasking, hrespond⟩ := h.respond_addressed hcall
      have hnext := h.follows_addressed hcall
      by_cases hsame : other = handle
      · subst hsame
        cases hgroup.symm.trans hasking
        have hgroup' : (r.respond call).1.get? other = some (g.respond request).1 := by
          rw [hrespond, get?_set, if_pos rfl, hgroup]
          rfl
        have hreply : (r.respond call).2 = .answered (g.respond request).2 := by rw [hrespond]
        simp only [if_true, List.map_cons, Group.answers, ih hnext hgroup', hreply]
      · have hgroup' : (r.respond call).1.get? handle = some g := by
          rw [hrespond, get?_set, if_neg hsame, hgroup]
        simp only [hsame, if_false]
        exact ih hnext hgroup'

-- A group that will be created answers as a new one does.
theorem exchanges_of_created (h : Follows config r d) (calls : List Call)
    (hnew : d.created.length ≤ handle.index)
    (hname : (d.followAll calls).created[handle.index]? = some name) :
    (d.exchanges handle (r.transcript calls)).map Prod.snd
      = ((Group.empty name config).answers
          ((d.exchanges handle (r.transcript calls)).map Prod.fst)).map .answered := by
  induction calls generalizing r d with
  | nil => exact absurd (List.getElem?_eq_some_iff.mp hname).1 (Nat.not_lt.mpr hnew)
  | cons call rest ih =>
    have hnext := h.respond call
    rw [transcript, Directory.exchanges]
    by_cases hborn : handle.index < (d.follow call).created.length
    · obtain ⟨hcall, created, hcreated, hgroup⟩ := h.respond_new hnew hborn
      cases hname.symm.trans ((d.follow call).getElem?_followAll rest hcreated)
      rw [hcall]
      exact hnext.exchanges_of_get? hgroup rest
    · cases hcall : d.addressed? call with
      | none => exact ih hnext (Nat.not_lt.mp hborn) hname
      | some asked =>
        obtain ⟨other, request⟩ := asked
        obtain ⟨g, hg, -⟩ := h.respond_addressed hcall
        have hother : other ≠ handle := by
          intro hsame
          have hlt := h.lt_of_get? (hsame ▸ hg)
          omega
        simp only [hother, if_false]
        exact ih hnext (Nat.not_lt.mp hborn) hname

end Follows

-- Whether a name was created and not removed since.
def InUse (calls : List Call) (name : String) : Prop :=
  ∃ before later, calls = before ++ .create name :: later ∧ .remove name ∉ later

theorem inUse_snoc (calls : List Call) (call : Call) (name : String) :
    InUse (calls ++ [call]) name
      ↔ call = .create name ∨ call ≠ .remove name ∧ InUse calls name := by
  constructor
  · intro h
    obtain ⟨before, later, hcalls, hlater⟩ := h
    cases later using List.reverseRecOn with
    | nil =>
      left
      exact (List.append_inj' hcalls rfl).2 |> List.singleton_inj.mp
    | append_singleton later last =>
      rw [← List.cons_append, ← List.append_assoc] at hcalls
      obtain ⟨hbefore, hlast⟩ := List.append_inj' hcalls rfl
      cases List.singleton_inj.mp hlast
      simp only [List.mem_append, List.mem_singleton, not_or] at hlater
      exact .inr ⟨fun hcall => hlater.2 hcall.symm, before, later, hbefore, hlater.1⟩
  · intro h
    cases h with
    | inl hcreate => exact ⟨calls, [], by rw [hcreate], List.not_mem_nil⟩
    | inr hkept =>
      obtain ⟨hcall, before, later, hcalls, hlater⟩ := hkept
      refine ⟨before, later ++ [call], by simp [hcalls], ?_⟩
      simp only [List.mem_append, List.mem_singleton, not_or]
      exact ⟨hlater, fun hremove => hcall hremove.symm⟩

namespace Directory

theorem isSome_inUse_follow (d : Directory) (call : Call) (name : String) :
    ((d.follow call).inUse name).isSome = true
      ↔ call = .create name ∨ call ≠ .remove name ∧ (d.inUse name).isSome = true := by
  cases call with
  | create other =>
    rw [follow]
    by_cases hsame : name = other
    · subst hsame
      cases hname : d.inUse name <;> simp [hname]
    · cases d.inUse other <;> simp [Ne.symm hsame, hsame]
  | remove other =>
    rw [follow]
    by_cases hsame : name = other
    · subst hsame
      simp
    · simp [Ne.symm hsame, hsame]
  | _ => simp [follow]

theorem isSome_inUse_after (calls : List Call) (name : String) :
    ((after calls).inUse name).isSome = true ↔ InUse calls name := by
  induction calls using List.reverseRecOn with
  | nil =>
    constructor
    · intro h
      cases h
    · intro h
      obtain ⟨before, later, hcalls, -⟩ := h
      simp at hcalls
  | append_singleton calls call ih =>
    have hafter : after (calls ++ [call]) = (after calls).follow call := by
      simp [after, followAll]
    rw [hafter, isSome_inUse_follow, inUse_snoc, ih]

end Directory

-- How a registry stands after a run of calls on a new one, with what the calls alone tell.
structure Isolated (config : GroupConfig) (calls : List Call) (r : Registry) (d : Directory) :
    Prop where
  -- Through the whole run each group replied what a new group answers that is asked the same, in the
  -- same order, and nothing else.
  alone : ∀ handle name, d.created[handle.index]? = some name →
    let own := Directory.empty.exchanges handle ((empty config).transcript calls)
    own.map Prod.snd = ((Group.empty name config).answers (own.map Prod.fst)).map .answered
  denoted : ∀ name, InUse calls name
    ↔ ∃ handle, d.inUse name = some handle ∧ d.created[handle.index]? = some name
  -- A name that is not in use gets a new group, which has a new handle, beside all others.
  creates : ∀ name, ¬InUse calls name → ∃ handle next,
    r.respond (.create name) = (next, .created handle) ∧
      (d.follow (.create name)).inUse name = some handle ∧ r.get? handle = none ∧
      next.get? handle = some (.empty name config) ∧
      ∀ other g, r.get? other = some g → next.get? other = some g
  reuses : ∀ name handle, d.inUse name = some handle →
    r.respond (.create name) = (r, .created handle) ∧ r.respond (.find name) = (r, .found (.ok handle))
  -- Removing frees the name and leaves every group to those who have its handle.
  removes : ∀ name, (r.respond (.remove name)).2 = .removed (d.inUse name) ∧
    ∀ handle, (r.respond (.remove name)).1.get? handle = r.get? handle
  refuses : ∀ name, ¬InUse calls name →
    r.respond (.find name) = (r, .found (.error (.groupNotFound name))) ∧
      r.respond (.remove name) = (r, .removed none) ∧
      ∀ call request, call.named? = some (name, request) →
        r.respond call = (r, .answered (.error (.groupNotFound name)))
  names : ∃ names, r.respond .names = (r, .names names) ∧
    names.Pairwise (fun a b => compare a b = .lt) ∧ ∀ name, name ∈ names ↔ InUse calls name

namespace Follows

variable {config : GroupConfig} {r : Registry} {d : Directory}

theorem empty (config : GroupConfig) : Follows config (empty config) .empty where
  config := rfl
  size := rfl
  names _ := rfl
  denoted _ _ h := by cases h

theorem mem_groupNames_iff (h : Follows config r d) (name : String) :
    name ∈ r.groupNames ↔ (d.inUse name).isSome = true := by
  rw [groupNames, SortedMap.mem_keys, h.names, Option.isSome_iff_exists]

end Follows

theorem run_isolated (config : GroupConfig) (calls : List Call) :
    Isolated config calls ((empty config).run calls) (Directory.after calls) := by
  have h : Follows config ((empty config).run calls) (Directory.after calls) :=
    (Follows.empty config).run calls
  have hinUse := Directory.isSome_inUse_after calls
  generalize (empty config).run calls = r at h
  have hfree (name : String) (hname : ¬InUse calls name) :
      (Directory.after calls).inUse name = none := by
    rw [← hinUse name, Bool.not_eq_true, Option.isSome_eq_false_iff] at hname
    exact Option.isNone_iff_eq_none.mp hname
  constructor
  case alone =>
    intro handle name hname
    exact (Follows.empty config).exchanges_of_created calls (Nat.zero_le _) hname
  case denoted =>
    intro name
    rw [← hinUse name, Option.isSome_iff_exists]
    constructor
    · intro hsome
      obtain ⟨handle, hname⟩ := hsome
      exact ⟨handle, hname, h.denoted name handle hname⟩
    · intro hsome
      obtain ⟨handle, hname, -⟩ := hsome
      exact ⟨handle, hname⟩
  case creates =>
    intro name hname
    exact h.respond_create (hfree name hname)
  case reuses =>
    intro name handle hname
    constructor
    · rw [respond, h.createOrGet_inUse hname]
    · rw [respond, h.group?_inUse hname]
  case removes =>
    intro name
    exact ⟨congrArg Reply.removed (h.names name), fun _ => rfl⟩
  case refuses =>
    intro name hname
    refine ⟨?_, h.respond_remove_free (hfree name hname), fun call request hcall => ?_⟩
    · rw [respond, h.group?_free (hfree name hname)]
    · exact respond_absent hcall ((h.names name).trans (hfree name hname))
  case names =>
    refine ⟨r.groupNames, rfl, ?_, fun name => ?_⟩
    · exact List.pairwise_map.mpr r.names.ascending
    · rw [h.mem_groupNames_iff, hinUse]

end Targeting.Registry
