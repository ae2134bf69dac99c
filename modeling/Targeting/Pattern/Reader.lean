import Targeting.Pattern.Class

namespace Targeting.Pattern

-- An expression, and how deep its description is nested.
structure Node where
  expr : Expr
  depth : Nat

-- One item in a sequence. A change of modes matches nothing, and cannot be repeated.
inductive Item where
  | node (n : Node)
  | modes

def leaf (e : Expr) : Item := .node ⟨e, 0⟩

def Item.asNode : Item → Node
  | node n => n
  | modes => ⟨.empty, 0⟩

-- Puts together several nodes, on a level of their own unless there is just one.
def gather (join : Expr → Expr → Expr) : List Node → Node
  | [] => ⟨.empty, 0⟩
  | [n] => n
  | n :: m :: rest =>
    ⟨(m :: rest).foldl (fun e k => join e k.expr) n.expr,
      (m :: rest).foldl (fun d k => max d k.depth) n.depth + 1⟩

-- The items and the branches come last first, as they were read.
def sequence (items : List Item) : Node := gather .seq (items.reverse.map Item.asNode)

def alternatives (branches : List Node) : Node := gather .either branches.reverse

-- Repeats the item before an operator. There has to be one.
def repeatLast (least : Nat) (most : Option Nat) : List Item → Option (List Item)
  | .node n :: rest => some (.node ⟨.repeated n.expr least most, n.depth + 1⟩ :: rest)
  | _ => none

-- A question mark after a repetition prefers short matches.
def skipLazy : List Char → List Char
  | '?' :: rest => rest
  | cs => cs

def skipDigits (flags : Flags) : Nat → List Char → List Char → List Char × List Char
  | 0, read, cs => (read.reverse, cs)
  | fuel + 1, read, cs =>
    match cs with
    | c :: rest =>
      if c.isDigit then skipDigits flags fuel (c :: read) (flags.skip rest) else (read.reverse, cs)
    | [] => (read.reverse, [])

-- A bound of a repetition, with blanks around it.
def readBound (flags : Flags) (cs : List Char) : Option Nat × List Char :=
  let cs := cs.dropWhile Unicode.isBlank
  let (digits, rest) := skipDigits flags (cs.length + 1) [] cs
  let value := (Text.nat? digits).bind fun n => if n < 0x100000000 then some n else none
  (value, flags.skip (rest.dropWhile Unicode.isBlank))

-- The upper bound of a repetition, after the lower one. Without a comma it is the same.
def readMost (flags : Flags) (least : Nat) : List Char → Option (Option Nat × List Char)
  | ',' :: rest =>
    match flags.skip rest with
    | '\x7d' :: rest => some (none, '\x7d' :: rest)
    | rest => (readBound flags rest).1.map fun n => (some n, (readBound flags rest).2)
  | rest => some (some least, rest)

-- The bounds of a repetition, read after the opening brace.
def readBounds (flags : Flags) (cs : List Char) : Option (Nat × Option Nat × List Char) := do
  let least ← (readBound flags (flags.skip cs)).1
  let (most, rest) ← readMost flags least (readBound flags (flags.skip cs)).2
  match rest with
  | '\x7d' :: rest =>
    if most.all (least ≤ ·) then some (least, most, skipLazy (flags.skip rest)) else none
  | _ => none

-- What an opening parenthesis begins: a change of modes for the rest of the group around it, or a
-- group with its own modes.
inductive Opening where
  | modes (flags : Flags)
  | group (flags : Flags) (names : List String)

-- Reads modes up to a colon or a closing parenthesis, and says whether it was the parenthesis.
def readFlags (seen : List Flag) (negating dangling : Bool) (flags : Flags) :
    List Char → Option (Bool × Flags × List Char)
  | [] => none
  | ':' :: rest => if dangling then none else some (false, flags, rest)
  | ')' :: rest => if dangling || seen.isEmpty then none else some (true, flags, rest)
  | '-' :: rest => if negating then none else readFlags seen true true flags rest
  | c :: rest =>
    match Flag.ofChar? c with
    | none => none
    | some flag =>
      if seen.contains flag then none
      else readFlags (flag :: seen) negating false (flags.set flag (!negating)) rest

def isNameChar (c : Char) : Bool :=
  Unicode.isAlphabetic c || Unicode.isNumeric c || ['_', '.', '[', ']'].contains c

-- The name of a group, up to the closing angle bracket. No two groups share a name.
def readName (names : List String) (cs : List Char) : Option (String × List Char) :=
  let name := cs.takeWhile (· != '>')
  match name, cs.dropWhile (· != '>') with
  | c :: more, '>' :: rest =>
    if (Unicode.isAlphabetic c || c == '_') && more.all isNameChar
        && !names.contains (String.ofList name) then
      some (String.ofList name, rest)
    else
      none
  | _, _ => none

-- Reads what a question mark after an opening parenthesis begins. Conditions on what lies ahead or
-- behind are refused.
def readExtension (flags : Flags) (names : List String) : List Char → Option (Opening × List Char)
  | '=' :: _ => none
  | '!' :: _ => none
  | '<' :: '=' :: _ => none
  | '<' :: '!' :: _ => none
  | 'P' :: '<' :: rest | '<' :: rest =>
    (readName names rest).map fun (name, rest) => (.group flags (name :: names), rest)
  | rest =>
    (readFlags [] false false flags rest).map fun (closed, inner, rest) =>
      (if closed then .modes inner else .group inner names, rest)

-- Reads what an opening parenthesis begins.
def readOpening (flags : Flags) (names : List String) (cs : List Char) :
    Option (Opening × List Char) :=
  match flags.skip cs with
  | '?' :: rest => readExtension flags names rest
  | rest => some (.group flags names, rest)

variable [Engine]

def escapeExpr? (flags : Flags) : Escape → Option Expr
  | .literal c isByte => literal? flags c isByte
  | .chars chars => some (.oneOf chars)
  | .look condition => some (.look condition)

-- Reads one item that is neither a group nor a class.
def readAtom (flags : Flags) : List Char → Option (Expr × List Char)
  | [] => none
  | '\\' :: rest => do
    let (escape, rest) ← readEscape flags rest
    (escapeExpr? flags escape).map fun e => (e, rest)
  | '.' :: rest => flags.dot?.map fun chars => (.oneOf chars, rest)
  | '^' :: rest => some (.look flags.lineStart, rest)
  | '$' :: rest => some (.look flags.lineEnd, rest)
  | c :: rest => (literal? flags c false).map fun e => (e, rest)

-- Reads the inside of a group, up to its closing parenthesis or the end of the text, with the
-- branches and the items of the current branch read so far. The names of groups are returned too.
def readBody (flags : Flags) (names : List String) (branches : List Node) (items : List Item) :
    Nat → List Char → Option (Node × List String × List Char)
  | 0, _ => none
  | fuel + 1, cs =>
    let close := if branches.isEmpty then sequence items
      else alternatives (sequence items :: branches)
    match flags.skip cs with
    | [] => some (close, names, [])
    | ')' :: rest => some (close, names, ')' :: rest)
    | '|' :: rest => readBody flags names (sequence items :: branches) [] fuel rest
    | '(' :: rest =>
      match readOpening flags names rest with
      | none => none
      | some (.modes changed, rest) => readBody changed names branches (.modes :: items) fuel rest
      | some (.group inner names, rest) =>
        match readBody inner names [] [] fuel rest with
        | some (n, names, ')' :: rest) =>
          readBody flags names branches (.node ⟨n.expr, n.depth + 1⟩ :: items) fuel rest
        | _ => none
    | '[' :: rest => do
      let (negated, first, rest) ← readClassStart flags rest
      let ((chars, depth), rest) ← readClass flags negated (rest.length + 1) none first rest
      readBody flags names branches (.node ⟨.oneOf chars, depth⟩ :: items) fuel rest
    | '?' :: rest => do
      readBody flags names branches (← repeatLast 0 (some 1) items) fuel (skipLazy rest)
    | '*' :: rest => do
      readBody flags names branches (← repeatLast 0 none items) fuel (skipLazy rest)
    | '+' :: rest => do
      readBody flags names branches (← repeatLast 1 none items) fuel (skipLazy rest)
    | '\x7b' :: rest => do
      let (least, most, rest) ← readBounds flags rest
      readBody flags names branches (← repeatLast least most items) fuel rest
    | cs => do
      let (e, rest) ← readAtom flags cs
      readBody flags names branches (leaf e :: items) fuel rest

-- The characters that begin no atom where an item is expected.
def beginsAtom (c : Char) : Bool := !([')', '|', '(', '[', '?', '*', '+', '\x7b'].contains c)

section Steps

variable {flags : Flags} {names : List String} {branches : List Node} {items : List Item} {fuel : Nat}
  {c : Char} {cs more : List Char}

theorem readBody_atom (hskip : flags.skip cs = c :: more) (hc : beginsAtom c = true) :
    readBody flags names branches items (fuel + 1) cs =
      (readAtom flags (c :: more)).bind fun e =>
        readBody flags names branches (leaf e.1 :: items) fuel e.2 := by
  rw [readBody]
  dsimp only
  rw [hskip]
  split
  next heq => cases heq
  next heq => cases heq; cases hc
  next heq => cases heq; cases hc
  next heq => cases heq; cases hc
  next heq => cases heq; cases hc
  next heq => cases heq; cases hc
  next heq => cases heq; cases hc
  next heq => cases heq; cases hc
  next heq => cases heq; cases hc
  next => rfl

-- An operator that is one character long repeats the item before it.
theorem readBody_operator {least : Nat} {most : Option Nat}
    (hc : (c, least, most) ∈ [('?', 0, some 1), ('*', 0, none), ('+', 1, none)])
    (hskip : flags.skip cs = c :: more) :
    readBody flags names branches items (fuel + 1) cs =
      (repeatLast least most items).bind fun items =>
        readBody flags names branches items fuel (skipLazy more) := by
  simp only [List.mem_cons, Prod.mk.injEq, List.not_mem_nil, or_false] at hc
  rcases hc with ⟨rfl, rfl, rfl⟩ | ⟨rfl, rfl, rfl⟩ | ⟨rfl, rfl, rfl⟩
  all_goals
    rw [readBody]
    simp only [hskip]
    rfl

end Steps

-- Reads a whole pattern.
def read? (cs : List Char) : Option Node :=
  match readBody .initial [] [] [] (cs.length + 1) cs with
  | some (n, _, []) => some n
  | _ => none

-- What a pattern means that is well formed and within the limits of the engine.
def compile? (cs : List Char) : Option Expr :=
  (read? cs).bind fun n => if Engine.admits cs n.expr n.depth then some n.expr else none

end Targeting.Pattern
