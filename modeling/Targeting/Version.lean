import Targeting.Value.Basic
import Targeting.Unicode.Property

namespace Targeting

-- One part of a release between dots: a number of at most 64 bits, or any other text in lower case.
inductive Segment where
  | text (s : String)
  | num (n : Nat)
deriving DecidableEq

-- A dotted version such as `1.10.2-beta`. The release does not end in zeros.
structure Version where
  release : List Segment
  qualifier : Option String
deriving DecidableEq

def lowerAscii (s : String) : String := String.ofList (s.toList.map Char.toLower)

namespace Segment

-- Texts come before numbers.
def compareTo : Segment → Segment → Ordering
  | text s, text t => compare s t
  | text _, num _ => .lt
  | num _, text _ => .gt
  | num m, num n => compare m n

-- Nothing between two dots is the number zero.
def ofText (s : String) : Segment :=
  let digits := match s.toList with
    | '+' :: rest => rest
    | cs => cs
  match Text.nat? digits with
  | some n => if n < 0x10000000000000000 then num n else text (lowerAscii s)
  | none => if s.isEmpty then num 0 else text (lowerAscii s)

end Segment

namespace Version

def trim (cs : List Char) : List Char :=
  ((cs.dropWhile Unicode.isBlank).reverse.dropWhile Unicode.isBlank).reverse

def dropV : List Char → List Char
  | 'v' :: rest => rest
  | 'V' :: rest => rest
  | cs => cs

def dropZeros (segments : List Segment) : List Segment :=
  (segments.reverse.dropWhile (· == .num 0)).reverse

-- Reads a version. Blanks around it and one letter `v` before it are passed over. What follows the
-- first hyphen is the qualifier, unless it is empty.
def ofText? (s : String) : Option Version :=
  let cs := dropV (trim s.toList)
  if cs.isEmpty then none
  else
    let release := cs.takeWhile (· != '-')
    let qualifier := (cs.dropWhile (· != '-')).drop 1
    some {
      release := dropZeros ((Text.splitOn '.' release).map fun part => .ofText (String.ofList part))
      qualifier :=
        if qualifier.isEmpty then none else some (lowerAscii (String.ofList qualifier)) }

def compareReleases : List Segment → List Segment → Ordering
  | [], [] => .eq
  | [], _ :: _ => .lt
  | _ :: _, [] => .gt
  | a :: as, b :: bs => (a.compareTo b).then (compareReleases as bs)

-- A version with a qualifier comes before the same release without one.
def compareQualifiers : Option String → Option String → Ordering
  | none, none => .eq
  | none, some _ => .gt
  | some _, none => .lt
  | some p, some q => compare p q

def compareTo (v w : Version) : Ordering :=
  (compareReleases v.release w.release).then (compareQualifiers v.qualifier w.qualifier)

instance : Ord Version := ⟨compareTo⟩

end Version

inductive VersionCheck where
  | atLeast
  | atMost
deriving DecidableEq

-- A bound on a version, with or without the base itself.
structure VersionBound where
  check : VersionCheck
  base : String
  excludeBase : Bool
deriving DecidableEq

namespace VersionBound

def version? (b : VersionBound) : Option Version := Version.ofText? b.base

-- Numbers are versions by their text.
def versionOf? : Value → Option Version
  | .text s => Version.ofText? s
  | .bool _ => none
  | v => Version.ofText? v.display

def accepts (b : VersionBound) (v : Value) : Bool :=
  match b.version?, versionOf? v with
  | some base, some actual =>
    match compare actual base, b.check with
    | .eq, _ => !b.excludeBase
    | .gt, .atLeast => true
    | .lt, .atMost => true
    | _, _ => false
  | _, _ => false

def token (b : VersionBound) : String :=
  let check := match b.check with
    | .atLeast => "ge"
    | .atMost => "le"
  "#".intercalate [check, b.base, boolText b.excludeBase]

def operator (b : VersionBound) : String :=
  match b.check, b.excludeBase with
  | .atLeast, false => ">="
  | .atLeast, true => ">"
  | .atMost, false => "<="
  | .atMost, true => "<"

def display (b : VersionBound) : String := "version " ++ b.operator ++ " " ++ quoted b.base

end VersionBound

end Targeting
