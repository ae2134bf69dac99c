import Targeting.Pattern.Escape

namespace Targeting.Pattern

-- The members that a class in brackets has so far, and how deep the deepest of them is nested.
structure Members where
  chars : CharClass
  count : Nat
  depth : Nat

inductive SetOperator where
  | inter
  | diff
  | symmDiff

-- The left side of an operator whose right side is still being read.
structure LeftSide where
  operator : SetOperator
  chars : CharClass
  depth : Nat

namespace Members

def none : Members := ⟨.none, 0, 0⟩

def add (m : Members) (chars : CharClass) (depth : Nat) : Members :=
  ⟨.union m.chars chars, m.count + 1, max m.depth depth⟩

-- Several members form a level of their own.
def level (m : Members) : Nat := if m.count < 2 then m.depth else m.depth + 1

end Members

def SetOperator.apply (operator : SetOperator) (left right : CharClass) : CharClass :=
  match operator with
  | inter => .inter left right
  | diff => .diff left right
  | symmDiff => .symmDiff left right

variable [Engine]

-- The class that the members make with the operator before them, and how deep it is.
def combine (flags : Flags) (left : Option LeftSide) (m : Members) : CharClass × Nat :=
  match left with
  | none => (m.chars, m.level)
  | some l => (l.operator.apply (flags.fold l.chars) (flags.fold m.chars), max l.depth m.level + 1)

def posixNegation : List Char → Bool × List Char
  | '^' :: rest => (true, rest)
  | rest => (false, rest)

-- The name of a class, up to the colon and the bracket that close it.
def readPosixName? (cs : List Char) : Option (CharClass × List Char) :=
  match cs.dropWhile (· != ':') with
  | ':' :: ']' :: after =>
    (CharClass.posix? (String.ofList (cs.takeWhile (· != ':')))).map fun chars => (chars, after)
  | _ => none

-- A named class, read after its opening bracket.
def readPosix? : List Char → Option (Bool × CharClass × List Char)
  | ':' :: rest =>
    (readPosixName? (posixNegation rest).2).map fun (chars, after) =>
      ((posixNegation rest).1, chars, after)
  | _ => none

-- Hyphens right after the opening bracket stand for themselves.
def readHyphens (flags : Flags) : Nat → Members → List Char → Option (Members × List Char)
  | 0, _, _ => none
  | _ + 1, _, [] => none
  | fuel + 1, m, c :: rest =>
    if c == '-' then readHyphens flags fuel (m.add (.single '-') 0) (flags.skip rest)
    else some (m, c :: rest)

-- A negation at the start of a class.
def readNegation (flags : Flags) (cs : List Char) : Bool × List Char :=
  if cs.head? == some '^' then (true, flags.next cs) else (false, cs)

-- A closing bracket that comes first is a member, and something has to follow it.
def readFirstBracket (flags : Flags) (m : Members) : List Char → Option (Members × List Char)
  | ']' :: rest =>
    if m.count == 0 then
      if (flags.skip rest).isEmpty then none
      else some (m.add (.single ']') 0, flags.skip rest)
    else
      some (m, ']' :: rest)
  | cs => some (m, cs)

-- Reads what may stand only at the start of a class, after its bracket: a negation, then hyphens,
-- or one closing bracket that is a member.
def readClassStart (flags : Flags) (cs : List Char) : Option (Bool × Members × List Char) := do
  let (negated, cs) := readNegation flags (flags.skip cs)
  let (m, cs) ← readHyphens flags (cs.length + 1) .none cs
  (readFirstBracket flags m cs).map fun (m, rest) => (negated, m, rest)

def readClassAtom (flags : Flags) : List Char → Option (Escape × List Char)
  | [] => none
  | '\\' :: rest => readEscape flags rest
  | c :: rest => some (.literal c false, rest)

-- Whether a hyphen comes next that makes a range with what comes after it.
def rangeFollows (flags : Flags) (cs : List Char) : Bool :=
  cs.head? == some '-' && flags.peekNext cs != some ']' && flags.peekNext cs != some '-'

def classMember? (flags : Flags) : Escape → Option CharClass
  | .literal c _ => (classLiteral? flags c).map .single
  | .chars chars => some chars
  | .look _ => none

def classRange? (flags : Flags) : Escape → Escape → Option CharClass
  | .literal first _, .literal last _ => do
    let first ← classLiteral? flags first
    let last ← classLiteral? flags last
    if first ≤ last then some (.range first last) else none
  | _, _ => none

-- A single member, or a range of characters between two.
def readClassRange (flags : Flags) (cs : List Char) : Option (CharClass × List Char) := do
  let (atom, cs) ← readClassAtom flags cs
  let rest := flags.skip cs
  if rest.isEmpty then none
  else if rangeFollows flags rest then do
    let (last, rest) ← readClassAtom flags (flags.next rest)
    (classRange? flags atom last).map fun chars => (chars, rest)
  else (classMember? flags atom).map fun chars => (chars, rest)

def readOperator? : List Char → Option (SetOperator × List Char)
  | '&' :: '&' :: rest => some (.inter, rest)
  | '-' :: '-' :: rest => some (.diff, rest)
  | '~' :: '~' :: rest => some (.symmDiff, rest)
  | _ => none

-- Reads a class after its opening, with the depth to which it is nested.
def readClass (flags : Flags) (negated : Bool) :
    Nat → Option LeftSide → Members → List Char → Option ((CharClass × Nat) × List Char)
  | 0, _, _, _ => none
  | fuel + 1, left, m, cs =>
    let (chars, depth) := combine flags left m
    match flags.skip cs with
    | [] => none
    | ']' :: rest =>
      (flags.allow? (.negated negated (flags.fold chars))).map fun chars => ((chars, depth + 1), rest)
    | '[' :: rest =>
      match readPosix? rest with
      | some (negatedName, named, after) => do
        let chars ← flags.allow? (.negated negatedName (flags.fold named))
        readClass flags negated fuel left (m.add chars 0) after
      | none => do
        let (negatedInner, first, inner) ← readClassStart flags rest
        let ((chars, depth), after) ← readClass flags negatedInner fuel none first inner
        readClass flags negated fuel left (m.add chars depth) after
    | cs =>
      match readOperator? cs with
      | some (operator, rest) =>
        readClass flags negated fuel (some ⟨operator, chars, depth⟩) .none rest
      | none => do
        let (chars, rest) ← readClassRange flags cs
        readClass flags negated fuel left (m.add chars 0) rest

section Steps

variable {flags : Flags} {negated : Bool} {fuel : Nat} {left : Option LeftSide} {m : Members}
  {cs rest : List Char}

theorem ne_nil_of_readClass {value : CharClass × Nat}
    (h : readClass flags negated fuel left m cs = some (value, rest)) : cs ≠ [] := by
  rintro rfl
  have hskip : flags.skip [] = [] := by
    rw [Flags.skip]
    split <;> rfl
  cases fuel with
  | zero => cases h
  | succ fuel =>
    simp only [readClass, hskip] at h
    cases h

-- What follows is a member, or an operator between classes.
theorem readClass_other {c : Char} {more : List Char} (hskip : flags.skip cs = c :: more)
    (hclose : c ≠ ']') (hopen : c ≠ '[') :
    readClass flags negated (fuel + 1) left m cs =
      match readOperator? (c :: more) with
      | some (operator, rest) =>
        readClass flags negated fuel
          (some ⟨operator, (combine flags left m).1, (combine flags left m).2⟩) .none rest
      | none => (readClassRange flags (c :: more)).bind fun e =>
        readClass flags negated fuel left (m.add e.1 0) e.2 := by
  rw [readClass]
  dsimp only
  rw [hskip]
  split
  next heq => cases heq
  next heq => cases heq; exact absurd rfl hclose
  next heq => cases heq; exact absurd rfl hopen
  next => rfl

end Steps

end Targeting.Pattern
