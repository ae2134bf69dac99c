import Targeting.Pattern.Flags
import Targeting.Decimal

namespace Targeting.Pattern

-- What a backslash and the characters after it stand for. A literal remembers whether it was
-- written as one byte.
inductive Escape where
  | literal (c : Char) (isByte : Bool)
  | chars (cls : CharClass)
  | look (condition : Look)

def isHexDigit (c : Char) : Bool := c.isDigit || ('a' ≤ c && c ≤ 'f') || ('A' ≤ c && c ≤ 'F')

def hexDigitValue (c : Char) : Nat :=
  if c.isDigit then c.toNat - '0'.toNat else c.toLower.toNat - 'a'.toNat + 10

-- The character with a given code point. Surrogates are no characters.
def charOfCode? (n : Nat) : Option Char :=
  if n < 0xd800 ∨ (0xe000 ≤ n ∧ n < 0x110000) then some (Char.ofNat n) else none

def readHexDigits (flags : Flags) : Nat → Nat → List Char → Option (Nat × List Char)
  | 0, value, cs => some (value, cs)
  | _ + 1, _, [] => none
  | k + 1, value, c :: cs =>
    if isHexDigit c then readHexDigits flags k (16 * value + hexDigitValue c) (flags.skip cs)
    else none

-- Reads up to the closing brace; the opening one has been dropped.
def readBraced (flags : Flags) : Nat → List Char → List Char → Option (List Char × List Char)
  | 0, _, _ => none
  | fuel + 1, read, cs =>
    match flags.skip cs with
    | [] => none
    | '\x7d' :: rest => some (read.reverse, rest)
    | c :: rest => readBraced flags fuel (c :: read) rest

-- The code point after `x`, `u` or `U`, in a fixed number of digits or in braces.
def readHex (flags : Flags) (digits : Nat) (cs : List Char) : Option (Escape × List Char) :=
  match flags.skip cs with
  | '\x7b' :: rest => do
    let (code, rest) ← readBraced flags (rest.length + 1) [] rest
    if code.isEmpty || !code.all isHexDigit then none
    else
      let c ← charOfCode? (code.foldl (fun n d => 16 * n + hexDigitValue d) 0)
      some (.literal c false, flags.skip rest)
  | rest => do
    let (code, rest) ← readHexDigits flags digits 0 rest
    let c ← charOfCode? code
    some (.literal c (digits == 2), rest)

-- What names a property, as one letter or in braces, and whether it was in braces.
def readPropertyText (flags : Flags) (cs : List Char) : Option (List Char × Bool × List Char) :=
  match flags.skip cs with
  | [] => none
  | '\x7b' :: rest =>
    (readBraced flags (rest.length + 1) [] rest).map fun (text, rest) => (text, true, rest)
  | c :: rest => if c == '\\' then none else some ([c], false, flags.skip rest)

variable [Engine]

-- A property after `p` or `P`.
def readProperty (flags : Flags) (negated : Bool) (cs : List Char) :
    Option (Escape × List Char) := do
  let (text, braced, rest) ← readPropertyText flags cs
  if !flags.unicode then none
  else
    (Engine.property? flags.caseless negated braced text).map fun holds =>
      (.chars (.satisfying holds), rest)

def wordEdge? (name : List Char) : Option WordEdge :=
  match String.ofList name with
  | "start" => some .first
  | "end" => some .last
  | "start-half" => some .notAfterWord
  | "end-half" => some .notBeforeWord
  | _ => none

def isEdgeNameChar (c : Char) : Bool := c.isAlpha || c == '-'

-- After `b`, an edge may be named in braces. Braces around anything but a name are a count of
-- repetitions instead.
def readWordEdge (flags : Flags) (cs : List Char) : Option (Escape × List Char) :=
  match cs with
  | '\x7b' :: rest =>
    match flags.skip rest with
    | [] => none
    | c :: _ =>
      if isEdgeNameChar c then do
        let (name, rest) ← readBraced flags (rest.length + 1) [] rest
        let edge ← wordEdge? name
        some (.look (flags.word edge), rest)
      else
        some (.look (flags.word .boundary), cs)
  | _ => some (.look (flags.word .boundary), cs)

-- Whether a character stands for itself after a backslash.
def isEscapable (c : Char) : Bool :=
  c.toNat < 128 && !c.isAlphanum && c != '<' && c != '>'

-- What a backslash and a letter stand for, when nothing more belongs to it.
def letterEscape? (flags : Flags) (letter : Char) : Option Escape :=
  match letter with
  | 'a' => some (.literal '\x07' false)
  | 'f' => some (.literal '\x0c' false)
  | 't' => some (.literal '\t' false)
  | 'n' => some (.literal '\n' false)
  | 'r' => some (.literal '\r' false)
  | 'v' => some (.literal '\x0b' false)
  | 'A' => some (.look .textStart)
  | 'z' => some (.look .textEnd)
  | 'B' => some (.look (flags.word .inside))
  | '<' => some (.look (flags.word .first))
  | '>' => some (.look (flags.word .last))
  | _ => (flags.shorthand? letter).map .chars

-- Reads what follows a backslash.
def readEscape (flags : Flags) : List Char → Option (Escape × List Char)
  | [] => none
  | c :: rest =>
    if isEscapable c then some (.literal c false, rest)
    else
      match c with
      | 'x' => readHex flags 2 rest
      | 'u' => readHex flags 4 rest
      | 'U' => readHex flags 8 rest
      | 'p' => readProperty flags false rest
      | 'P' => readProperty flags true rest
      | 'b' => readWordEdge flags rest
      | _ => (letterEscape? flags c).map fun e => (e, rest)

-- A literal outside a class. Without Unicode, bytes beyond ASCII are refused.
def literal? (flags : Flags) (c : Char) (isByte : Bool) : Option Expr :=
  if !flags.unicode && isByte && 128 ≤ c.toNat then none
  else some (.oneOf (flags.fold (.single c)))

-- A literal within a class. Without Unicode it is a byte.
def classLiteral? (flags : Flags) (c : Char) : Option Char :=
  if flags.unicode || c.toNat < 128 then some c else none

end Targeting.Pattern
