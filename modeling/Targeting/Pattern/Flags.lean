import Targeting.Pattern.Expr
import Targeting.Unicode.Property

namespace Targeting.Pattern

-- What reading a pattern takes from outside of the syntax: sets of characters, and the limits within
-- which a pattern is put to use.
class Engine where
  -- The class for what is written after `p` or `P`, as one letter or between braces. Case is folded
  -- before the class is negated.
  property? (caseless negated braced : Bool) (text : List Char) : Option (Char → Bool)
  isDigit : Char → Bool
  isSpace : Char → Bool
  isWord : Char → Bool
  -- The characters that differ from one only in case, itself among them.
  caseOrbit : Char → List Char
  -- Whether a pattern is small enough, given its text, what it means and how deep it is nested.
  admits (source : List Char) (e : Expr) (depth : Nat) : Bool

-- The modes of reading, which a pattern can change for the rest of a group.
structure Flags where
  caseless : Bool
  multiLine : Bool
  dotTakesNewline : Bool
  crlf : Bool
  unicode : Bool
  ignoreSpace : Bool

inductive Flag where
  | caseless
  | multiLine
  | dotTakesNewline
  | swapGreed
  | unicode
  | crlf
  | ignoreSpace
deriving DecidableEq

namespace Flag

def ofChar? : Char → Option Flag
  | 'i' => some caseless
  | 'm' => some multiLine
  | 's' => some dotTakesNewline
  | 'U' => some swapGreed
  | 'u' => some unicode
  | 'R' => some crlf
  | 'x' => some ignoreSpace
  | _ => none

end Flag

-- Drops blanks, and comments from a number sign to the end of the line.
def skipSpace (inComment : Bool) : List Char → List Char
  | [] => []
  | c :: cs =>
    if inComment then skipSpace (c != '\n') cs
    else if Unicode.isBlank c then skipSpace false cs
    else if c == '#' then skipSpace true cs
    else c :: cs

namespace Flags

def initial : Flags := ⟨false, false, false, false, true, false⟩

-- Preferring long or short matches makes no difference to whether there is one.
def set (flags : Flags) (flag : Flag) (on : Bool) : Flags :=
  match flag with
  | .caseless => { flags with caseless := on }
  | .multiLine => { flags with multiLine := on }
  | .dotTakesNewline => { flags with dotTakesNewline := on }
  | .swapGreed => flags
  | .unicode => { flags with unicode := on }
  | .crlf => { flags with crlf := on }
  | .ignoreSpace => { flags with ignoreSpace := on }

def skip (flags : Flags) (cs : List Char) : List Char :=
  if flags.ignoreSpace then skipSpace false cs else cs

-- Past one character and what is skipped after it.
def next (flags : Flags) (cs : List Char) : List Char := flags.skip (cs.drop 1)

-- The next character after the first that is not skipped. The number sign of a comment is passed
-- over here, its text is not.
def peekNext (flags : Flags) (cs : List Char) : Option Char :=
  if flags.ignoreSpace then
    match (cs.drop 1).dropWhile Unicode.isBlank with
    | '#' :: rest => (rest.dropWhile Unicode.isBlank).head?
    | rest => rest.head?
  else
    (cs.drop 1).head?

def asciiOrbit (c : Char) : List Char := [c, if c.isUpper then c.toLower else c.toUpper]

variable [Engine]

def fold (flags : Flags) (chars : CharClass) : CharClass :=
  if flags.caseless then .caseless (if flags.unicode then Engine.caseOrbit else asciiOrbit) chars
  else chars

-- Without Unicode a class ranges over bytes, and may hold only those that are characters.
def allow? (flags : Flags) (chars : CharClass) : Option CharClass :=
  if flags.unicode || chars.isAscii then some chars else none

def dot? (flags : Flags) : Option CharClass :=
  if !flags.unicode then none
  else if flags.dotTakesNewline then some (.complement .none)
  else if flags.crlf then some (.complement (.ofRanges [('\n', '\n'), ('\r', '\r')]))
  else some (.complement (.single '\n'))

def lineStart (flags : Flags) : Look :=
  if flags.multiLine then (if flags.crlf then .lineStartCrlf else .lineStart) else .textStart

def lineEnd (flags : Flags) : Look :=
  if flags.multiLine then (if flags.crlf then .lineEndCrlf else .lineEnd) else .textEnd

def isAsciiWord (c : Char) : Bool := c.isAlphanum || c == '_'

def word (flags : Flags) (edge : WordEdge) : Look :=
  .word (if flags.unicode then Engine.isWord else isAsciiWord) edge

-- The classes that a backslash and a letter stand for.
def shorthand? (flags : Flags) (letter : Char) : Option CharClass :=
  let lower := letter.toLower
  let chars : Option CharClass :=
    if lower == 'd' then
      some (if flags.unicode then .satisfying Engine.isDigit else .range '0' '9')
    else if lower == 's' then
      some (if flags.unicode then .satisfying Engine.isSpace
        else .ofRanges [('\t', '\r'), (' ', ' ')])
    else if lower == 'w' then
      some (.satisfying (if flags.unicode then Engine.isWord else isAsciiWord))
    else
      none
  chars.bind fun c => flags.allow? (.negated letter.isUpper c)

end Flags

end Targeting.Pattern
