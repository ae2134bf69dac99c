import Targeting.Json.Reader
import Targeting.Value.Basic

namespace Targeting

namespace Json

-- A member's path is its name after the path of its object and a dot. The root has the empty path,
-- which is left out.
def childPath (path name : String) : String := if path.isEmpty then name else path ++ "." ++ name

-- An integer where there is one of 64 bits with a sign, and a float otherwise.
def Number.value (n : Number) : Value :=
  match n.asInt? with
  | some i => .int i
  | none => .float n.asFloat

mutual

-- The scalars in a value with their paths, in reading order. Items of an array have its path, and
-- nulls are left out.
def leaves (path : String) : Json → List (String × Value)
  | null => []
  | bool b => [(path, .bool b)]
  | number n => [(path, n.value)]
  | text s => [(path, .text s)]
  | array items => itemLeaves path items
  | object members => memberLeaves path members

def itemLeaves (path : String) : List Json → List (String × Value)
  | [] => []
  | v :: rest => leaves path v ++ itemLeaves path rest

def memberLeaves (path : String) : List (String × Json) → List (String × Value)
  | [] => []
  | (name, v) :: rest => leaves (childPath path name) v ++ memberLeaves path rest

end

end Json

inductive DocumentFault where
  | malformed
  | notAnObject
deriving DecidableEq

namespace DocumentFault

def message : DocumentFault → String
  | malformed => "malformed document"
  | notAnObject => "document root must be a JSON object"

end DocumentFault

namespace Document

def ofJson (json : Json) : Document := ofList (json.leaves "")

-- Reads JSON text. The root has to be an object.
def ofText (s : String) : Except DocumentFault Document :=
  match Json.read? s with
  | none => .error .malformed
  | some json => if json.isObject then .ok (ofJson json) else .error .notAnObject

end Document

end Targeting
