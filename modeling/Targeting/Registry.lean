import Targeting.Group

namespace Targeting

-- What holds on to a group, also when its name is gone.
structure Handle where
  index : Nat
deriving DecidableEq

-- Named groups.
structure Registry where
  -- For the groups that are created from now on.
  config : GroupConfig
  names : SortedMap String Handle
  -- Every group that was ever created, by handle.
  groups : Array Group

namespace Registry

def empty (config : GroupConfig) : Registry := ⟨config, .empty, #[]⟩

-- The group with a name, which is created when there is none.
def createOrGet (r : Registry) (name : String) : Registry × Handle :=
  match r.names.find? name with
  | some handle => (r, handle)
  | none =>
    let handle : Handle := ⟨r.groups.size⟩
    ({ r with
        names := r.names.insert name handle
        groups := r.groups.push (.empty name r.config) },
      handle)

def group? (r : Registry) (name : String) : Except IndexFault Handle :=
  match r.names.find? name with
  | some handle => .ok handle
  | none => .error (.groupNotFound name)

-- Frees a name. The group goes on working for those who hold on to it.
def remove (r : Registry) (name : String) : Registry × Option Handle :=
  ({ r with names := r.names.erase name }, r.names.find? name)

-- The names in use, ascending.
def groupNames (r : Registry) : List String := r.names.keys

def get? (r : Registry) (handle : Handle) : Option Group := r.groups[handle.index]?

def set (r : Registry) (handle : Handle) (g : Group) : Registry :=
  { r with groups := r.groups.setIfInBounds handle.index g }

-- Runs an operation on the group with a name.
def withGroup {α : Type} (r : Registry) (name : String) (operation : Group → Group × α) :
    Except IndexFault (Registry × α) :=
  match r.group? name with
  | .error fault => .error fault
  | .ok handle =>
    match r.get? handle with
    | none => .error (.groupNotFound name)
    | some g =>
      let (g, answer) := operation g
      .ok (r.set handle g, answer)

def add (r : Registry) (name : String) (c : Criteria) : Except IndexFault Registry :=
  (r.withGroup name fun g => (g.add c, ())).map Prod.fst

def delete (r : Registry) (name id : String) : Except IndexFault (Registry × Bool) :=
  r.withGroup name (·.delete id)

def search (r : Registry) (name : String) (doc : Document) : Except IndexFault MatchSet :=
  (r.withGroup name fun g => (g, g.search doc)).bind Prod.snd

def searchTop (r : Registry) (name : String) (doc : Document) (n : Nat) :
    Except IndexFault (List Match) :=
  (r.withGroup name fun g => (g, g.searchTop doc n)).bind Prod.snd

end Registry

end Targeting
