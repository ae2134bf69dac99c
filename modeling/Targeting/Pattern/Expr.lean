import Targeting.Pattern.CharClass

namespace Targeting.Pattern

-- Where a place in the text stands to the words around it.
inductive WordEdge where
  | boundary
  | inside
  | first
  | last
  | notAfterWord
  | notBeforeWord

-- A condition on a place in the text, which takes no character.
inductive Look where
  | textStart
  | textEnd
  | lineStart
  | lineEnd
  | lineStartCrlf
  | lineEndCrlf
  | word (isWord : Char → Bool) (edge : WordEdge)

inductive Expr where
  | empty
  | oneOf (chars : CharClass)
  | look (condition : Look)
  | seq (first second : Expr)
  | either (left right : Expr)
  -- No upper bound when `most` is absent.
  | repeated (body : Expr) (least : Nat) (most : Option Nat)

namespace WordEdge

def holds (edge : WordEdge) (before after : Bool) : Bool :=
  match edge with
  | boundary => before != after
  | inside => before == after
  | first => !before && after
  | last => before && !after
  | notAfterWord => !before
  | notBeforeWord => !after

end WordEdge

namespace Look

-- Whether the condition holds between two characters, absent at the ends of the text.
def holds (condition : Look) (before after : Option Char) : Bool :=
  match condition with
  | textStart => before.isNone
  | textEnd => after.isNone
  | lineStart => before.isNone || before == some '\n'
  | lineEnd => after.isNone || after == some '\n'
  | lineStartCrlf =>
    before.isNone || before == some '\n' || (before == some '\r' && after != some '\n')
  | lineEndCrlf =>
    after.isNone || after == some '\r' || (after == some '\n' && before != some '\r')
  | word isWord edge => edge.holds (before.any isWord) (after.any isWord)

end Look

-- A set of places in a text of `n` characters is a list of `n + 1` flags, one for each place.

-- The characters around each place.
def neighbours (before : Option Char) : List Char → List (Option Char × Option Char)
  | [] => [(before, none)]
  | c :: rest => (before, some c) :: neighbours (some c) rest

def join (a b : List Bool) : List Bool := List.zipWith (· || ·) a b

-- Steps a set of places over one character of the class.
def advance (chars : CharClass) (text : List Char) (places : List Bool) : List Bool :=
  false :: List.zipWith (fun here c => here && chars.contains c) places text

-- Applies `f` that many times, or until nothing changes any more.
def iterate (f : List Bool → List Bool) : Nat → List Bool → List Bool
  | 0, places => places
  | n + 1, places =>
    let next := f places
    if next = places then places else iterate f n next

namespace Expr

-- The places where matches that start at the given places end. The text has `length` characters, so
-- repeating more often than that plus once adds no place.
def reach (text : List Char) : Expr → List Bool → List Bool
  | empty, places => places
  | oneOf chars, places => advance chars text places
  | look condition, places =>
    List.zipWith (fun here around => here && condition.holds around.1 around.2) places (neighbours none text)
  | seq first second, places => reach text second (reach text first places)
  | either left right, places => join (reach text left places) (reach text right places)
  | repeated body least most, places =>
    let bound := text.length + 1
    let extra := match most with
      | none => bound
      | some m => min bound (m - least)
    let started := iterate (fun p => reach text body p) (min bound least) places
    iterate (fun p => join p (reach text body p)) extra started

-- Whether the expression matches some part of the text.
def findsIn (e : Expr) (text : List Char) : Bool :=
  (e.reach text (List.replicate (text.length + 1) true)).any id

end Expr

end Targeting.Pattern
