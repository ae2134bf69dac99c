namespace Targeting.Pattern

-- A set of characters as a pattern describes it.
inductive CharClass where
  | none
  | range (first last : Char)
  | satisfying (holds : Char → Bool)
  | union (a b : CharClass)
  | inter (a b : CharClass)
  | diff (a b : CharClass)
  | symmDiff (a b : CharClass)
  | complement (a : CharClass)
  -- Closed under differences of case, given the characters that differ from one only in case.
  | caseless (orbit : Char → List Char) (a : CharClass)

namespace CharClass

def contains : CharClass → Char → Bool
  | none, _ => false
  | range first last, c => first ≤ c && c ≤ last
  | satisfying holds, c => holds c
  | union a b, c => a.contains c || b.contains c
  | inter a b, c => a.contains c && b.contains c
  | diff a b, c => a.contains c && !b.contains c
  | symmDiff a b, c => a.contains c != b.contains c
  | complement a, c => !a.contains c
  | caseless orbit a, c => (orbit c).any fun d => a.contains d

def single (c : Char) : CharClass := range c c

def unionOf (classes : List CharClass) : CharClass := classes.foldl union none

def negated (negate : Bool) (a : CharClass) : CharClass := if negate then complement a else a

-- Whether no byte above 127 is in the class. A class of bytes that has one could match half of an
-- encoded character.
def isAscii (a : CharClass) : Bool :=
  (List.range 128).all fun i => !a.contains (Char.ofNat (128 + i))

def ofRanges (ranges : List (Char × Char)) : CharClass :=
  unionOf (ranges.map fun r => range r.1 r.2)

-- Classes by name, as in `[:alpha:]`.
def posix? (name : String) : Option CharClass :=
  match name with
  | "alnum" => some (ofRanges [('0', '9'), ('A', 'Z'), ('a', 'z')])
  | "alpha" => some (ofRanges [('A', 'Z'), ('a', 'z')])
  | "ascii" => some (range (Char.ofNat 0) (Char.ofNat 127))
  | "blank" => some (ofRanges [('\t', '\t'), (' ', ' ')])
  | "cntrl" => some (ofRanges [(Char.ofNat 0, Char.ofNat 31), (Char.ofNat 127, Char.ofNat 127)])
  | "digit" => some (range '0' '9')
  | "graph" => some (range '!' '~')
  | "lower" => some (range 'a' 'z')
  | "print" => some (range ' ' '~')
  | "punct" => some (ofRanges [('!', '/'), (':', '@'), ('[', (Char.ofNat 96)), ('\x7b', '~')])
  | "space" => some (ofRanges [('\t', '\r'), (' ', ' ')])
  | "upper" => some (range 'A' 'Z')
  | "word" => some (ofRanges [('0', '9'), ('A', 'Z'), ('_', '_'), ('a', 'z')])
  | "xdigit" => some (ofRanges [('0', '9'), ('A', 'F'), ('a', 'f')])
  | _ => Option.none

end CharClass

end Targeting.Pattern
