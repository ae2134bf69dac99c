import Targeting.Audit
import Targeting.Registry

namespace Targeting

namespace Group

-- What a group is asked. Adding and updating go by their operation.
inductive Request where
  | index (criteria : Criteria) (operation : Operation)
  | delete (id : String)
  | load (text : String)
  | loadFile (content : Option ByteArray)
  | compact
  | search (doc : Document)
  | searchTop (doc : Document) (n : Nat)
  | scan (doc : Document)
  | ratify (docs : List Document)
  | sample (limit : Nat)
  | get (id : String)
  | list
  | size
  | stats
  | describe

inductive Answer where
  | done
  | existed (existed : Bool)
  | loaded (count : Except LoadFault Nat)
  | loadedFile (count : Except FileFault Nat)
  | removed (postings : Nat)
  | found (found : MatchSet)
  | ranked (best : List Match)
  | ratified (report : Audit.Report)
  | sampled (docs : List Document)
  | stored (criteria : Option Criteria)
  | listed (all : List Criteria)
  | sized (size : Nat) (isEmpty : Bool)
  | stats (stats : GroupStats)
  | described (name : String) (config : GroupConfig) (text : String)

-- What becomes of a group that is asked something, and what it answers.
def respond (g : Group) : Request → Group × Except IndexFault Answer
  | .index c operation => (g.apply c operation, .ok .done)
  | .delete id => ((g.delete id).1, .ok (.existed (g.delete id).2))
  | .load text =>
    match g.loadText text with
    | .ok loaded => (loaded.1, .ok (.loaded (.ok loaded.2)))
    | .error fault => (g, .ok (.loaded (.error fault)))
  | .loadFile content =>
    match g.loadFile content with
    | .ok loaded => (loaded.1, .ok (.loadedFile (.ok loaded.2)))
    | .error fault => (g, .ok (.loadedFile (.error fault)))
  | .compact => (g.compact.1, .ok (.removed g.compact.2))
  | .search doc => (g, (g.search doc).map .found)
  | .searchTop doc n => (g, (g.searchTop doc n).map .ranked)
  | .scan doc => (g, .ok (.found (Audit.scan g doc)))
  | .ratify docs => (g, (Audit.ratify g docs).map .ratified)
  | .sample limit => (g, .ok (.sampled (Audit.sampleDocuments g limit)))
  | .get id => (g, .ok (.stored (g.get? id)))
  | .list => (g, .ok (.listed g.toList))
  | .size => (g, .ok (.sized g.size g.isEmpty))
  | .stats => (g, .ok (.stats g.stats))
  | .describe => (g, .ok (.described g.name g.config g.describe))

-- What a group answers when it is asked one thing after the other and nothing else happens to it.
def answers (g : Group) : List Request → List (Except IndexFault Answer)
  | [] => []
  | request :: rest => (g.respond request).2 :: (g.respond request).1.answers rest

end Group

namespace Registry

-- What a registry is asked. Through a handle a group is asked past the registry. By name, adding and
-- updating are one.
inductive Call where
  | create (name : String)
  | find (name : String)
  | remove (name : String)
  | names
  | add (name : String) (criteria : Criteria)
  | delete (name id : String)
  | search (name : String) (doc : Document)
  | searchTop (name : String) (doc : Document) (n : Nat)
  | through (handle : Handle) (request : Group.Request)

inductive Reply where
  | created (handle : Handle)
  | found (handle : Except IndexFault Handle)
  | removed (handle : Option Handle)
  | names (names : List String)
  | answered (answer : Except IndexFault Group.Answer)
  -- Nothing has that handle.
  | unknown

-- A registry that refuses a call stays as it is.
def respond (r : Registry) : Call → Registry × Reply
  | .create name => ((r.createOrGet name).1, .created (r.createOrGet name).2)
  | .find name => (r, .found (r.group? name))
  | .remove name => ((r.remove name).1, .removed (r.remove name).2)
  | .names => (r, .names r.groupNames)
  | .add name c =>
    match r.add name c with
    | .ok added => (added, .answered (.ok .done))
    | .error fault => (r, .answered (.error fault))
  | .delete name id =>
    match r.delete name id with
    | .ok deleted => (deleted.1, .answered (.ok (.existed deleted.2)))
    | .error fault => (r, .answered (.error fault))
  | .search name doc => (r, .answered ((r.search name doc).map .found))
  | .searchTop name doc n => (r, .answered ((r.searchTop name doc n).map .ranked))
  | .through handle request =>
    match r.get? handle with
    | some g => (r.set handle (g.respond request).1, .answered (g.respond request).2)
    | none => (r, .unknown)

def run (r : Registry) (calls : List Call) : Registry :=
  calls.foldl (fun r call => (r.respond call).1) r

-- A run of calls, each with its reply.
def transcript (r : Registry) : List Call → List (Call × Reply)
  | [] => []
  | call :: rest => (call, (r.respond call).2) :: (r.respond call).1.transcript rest

-- The name by which a call asks a group something, and what it asks.
def Call.named? : Call → Option (String × Group.Request)
  | .add name c => some (name, .index c .add)
  | .delete name id => some (name, .delete id)
  | .search name doc => some (name, .search doc)
  | .searchTop name doc n => some (name, .searchTop doc n)
  | _ => none

section Groups

variable {r : Registry} {g : Group} {handle other : Handle}

theorem get?_set (r : Registry) (handle other : Handle) (g : Group) :
    (r.set handle g).get? other
      = if handle = other then (r.get? handle).map fun _ => g else r.get? other := by
  cases handle with
  | mk i =>
    cases other with
    | mk j =>
      simp only [get?, set, Array.getElem?_setIfInBounds, Handle.mk.injEq]
      by_cases hij : i = j
      · subst hij
        by_cases hi : i < r.groups.size <;> simp [hi]
      · simp [hij]

theorem set_self (h : r.get? handle = some g) : r.set handle g = r := by
  cases r with
  | mk config names groups =>
    simp only [get?] at h
    simp only [set, Registry.mk.injEq, true_and]
    apply Array.ext_getElem?
    intro i
    rw [Array.getElem?_setIfInBounds]
    by_cases hi : handle.index = i
    · subst hi
      obtain ⟨hlt, hg⟩ := Array.getElem?_eq_some_iff.mp h
      simp [hlt, hg]
    · simp [hi]

end Groups

section Named

variable {r : Registry} {call : Call} {name : String} {request : Group.Request}

-- A name that denotes nothing is refused, whatever is asked.
theorem respond_absent (hcall : call.named? = some (name, request))
    (hname : r.names.find? name = none) :
    r.respond call = (r, .answered (.error (.groupNotFound name))) := by
  have hgroup : r.group? name = .error (.groupNotFound name) := by rw [group?, hname]
  cases call <;> cases hcall <;>
    simp only [respond, add, delete, search, searchTop, withGroup, hgroup] <;> rfl

-- A group that is asked by name is asked as through its handle.
theorem respond_named {handle : Handle} {g : Group} (hcall : call.named? = some (name, request))
    (hname : r.names.find? name = some handle) (hgroup : r.get? handle = some g) :
    r.respond call = (r.set handle (g.respond request).1, .answered (g.respond request).2) := by
  have hfound : r.group? name = .ok handle := by rw [group?, hname]
  have hself := set_self hgroup
  cases call with
  | add _ c =>
    cases hcall
    simp only [respond, add, withGroup, hfound, hgroup]
    rfl
  | delete _ id =>
    cases hcall
    simp only [respond, delete, withGroup, hfound, hgroup]
    rfl
  | search _ doc =>
    cases hcall
    simp only [respond, search, withGroup, hfound, hgroup, Group.respond, hself]
    rfl
  | searchTop _ doc n =>
    cases hcall
    simp only [respond, searchTop, withGroup, hfound, hgroup, Group.respond, hself]
    rfl
  | _ => cases hcall

end Named

end Registry

end Targeting
