import Targeting.DefinitionText.Message

namespace Targeting.DefinitionText

inductive Word where
  | form (f : Form)
  | and
  | or
  | not
  | isIn
  | range
  | matching
  | version
  | weight
  | default
  | bool (b : Bool)
deriving DecidableEq

namespace Word

def text : Word → String
  | form .dnf => "dnf"
  | form .cnf => "cnf"
  | and => "and"
  | or => "or"
  | not => "not"
  | isIn => "in"
  | range => "range"
  | matching => "matches"
  | version => "version"
  | weight => "weight"
  | default => "default"
  | bool b => boolText b

-- Between the predicates of a clause, and between clauses.
def inner : Form → Word
  | .dnf => and
  | .cnf => or

def outer : Form → Word
  | .dnf => or
  | .cnf => and

end Word

-- Brackets are square or round.
inductive Symbol where
  | star
  | comma
  | openBracket (square : Bool)
  | closeBracket (square : Bool)
  | openBrace
  | closeBrace
  | operator (check : VersionCheck) (excludeBase : Bool)
deriving DecidableEq

def Symbol.text : Symbol → String
  | star => "*"
  | comma => ","
  | openBracket square => if square then "[" else "("
  | closeBracket square => if square then "]" else ")"
  | openBrace => "\x7b"
  | closeBrace => "\x7d"
  | operator .atLeast false => ">="
  | operator .atLeast true => ">"
  | operator .atMost false => "<="
  | operator .atMost true => "<"

structure Path where
  head : Char
  tail : List Char
  head_ok : (head.isAlpha || head == '_') = true
  tail_ok : ∀ c ∈ tail, (isWordChar c || c == '.') = true

def Path.name (p : Path) : String := String.ofList (p.head :: p.tail)

-- Digits after an optional minus. Without a minus no zero comes before other digits.
structure Integer where
  negative : Bool
  digits : List Char
  digits_ne_nil : digits ≠ []
  digits_ok : ∀ c ∈ digits, c.isDigit = true
  leading_ok : negative = false → digits.head? = some '0' → digits = ['0']

def Integer.chars (n : Integer) : List Char := (if n.negative then ['-'] else []) ++ n.digits

-- A decimal with digits on both sides of its point.
structure Numeral where
  negative : Bool
  whole : List Char
  fraction : List Char
  whole_ne_nil : whole ≠ []
  fraction_ne_nil : fraction ≠ []
  whole_ok : ∀ c ∈ whole, c.isDigit = true
  fraction_ok : ∀ c ∈ fraction, c.isDigit = true

namespace Numeral

def unsignedChars (n : Numeral) : List Char := n.whole ++ '.' :: n.fraction

def chars (n : Numeral) : List Char := (if n.negative then ['-'] else []) ++ n.unsignedChars

end Numeral

-- Texts are tokens with their quotation marks, and what is between them is not looked at here.
inductive Token where
  | word (w : Word)
  | symbol (s : Symbol)
  | path (p : Path)
  | text (body : List Char)
  | integer (n : Integer)
  | decimal (n : Numeral)

namespace Token

def chars : Token → List Char
  | word w => w.text.toList
  | symbol s => s.text.toList
  | path p => p.head :: p.tail
  | text body => '"' :: (body ++ ['"'])
  | integer n => n.chars
  | decimal n => n.chars

def isPath : Token → Bool
  | path _ => true
  | _ => false

-- Whether two tokens cannot be told apart without a gap: a path takes every word character and every
-- point that follows it, and words take word characters.
def touches (t u : Token) : Bool :=
  t.isPath || (t.chars.getLast?.any isWordChar && u.chars.head?.any isWordChar)

end Token

-- Blanks and comments. A comment goes to the end of its line.
inductive Gap : List Char → Prop where
  | nil : Gap []
  | blank {c : Char} {rest : List Char} : isBlank c = true → Gap rest → Gap (c :: rest)
  | comment {note rest : List Char} : '\n' ∉ note → '\r' ∉ note → Gap rest →
    Gap ('#' :: (note ++ '\n' :: rest))

-- Tokens in order, with gaps before them and at the end. Where a token would touch the one before it
-- the gap is not empty.
inductive Laid : Option Token → List Token → List Char → Prop where
  | nil {previous : Option Token} {gap : List Char} : Gap gap → Laid previous [] gap
  | cons {previous : Option Token} {gap : List Char} {t : Token} {ts : List Token}
    {rest : List Char} : Gap gap → (gap = [] → ∀ u ∈ previous, u.touches t = false) →
    Laid (some t) ts rest → Laid previous (t :: ts) (gap ++ (t.chars ++ rest))

-- What stands between the quotation marks of a text. A backslash before a quotation mark or a
-- backslash stands for it, and so on.
inductive Spelled : List Char → List Char → Prop where
  | nil : Spelled [] []
  | plain {c : Char} {body text : List Char} : c ≠ '"' → c ≠ '\\' → Spelled body text →
    Spelled (c :: body) (c :: text)
  | escape {c : Char} {body text : List Char} : Spelled body text →
    Spelled ('\\' :: c :: body) (unescape c ++ text)

structure WrittenText where
  body : List Char
  text : List Char
  spelled : Spelled body text

namespace WrittenText

def token (t : WrittenText) : Token := .text t.body

def meaning (t : WrittenText) : String := String.ofList t.text

end WrittenText

structure WrittenInteger where
  numeral : Integer
  value : Int64
  reads : Text.int64? numeral.chars = some value

structure WrittenFloat where
  numeral : Numeral
  value : Binary64
  reads : Binary64.ofChars? numeral.chars = some value

inductive WrittenNumber where
  | int (n : WrittenInteger)
  | float (x : WrittenFloat)

namespace WrittenNumber

def token : WrittenNumber → Token
  | int n => .integer n.numeral
  | float x => .decimal x.numeral

def value : WrittenNumber → Value
  | int n => .int n.value
  | float x => .float x.value

def meaning : WrittenNumber → Binary64
  | int n => .ofInt n.value.toInt
  | float x => x.value

end WrittenNumber

inductive WrittenValue where
  | number (n : WrittenNumber)
  | bool (b : Bool)
  | text (t : WrittenText)

namespace WrittenValue

def token : WrittenValue → Token
  | number n => n.token
  | bool b => .word (.bool b)
  | text t => t.token

def meaning : WrittenValue → Value
  | number n => n.value
  | bool b => .bool b
  | text t => .text t.meaning

-- Values with commas between them.
def tokens : List WrittenValue → List Token
  | [] => []
  | v :: vs => v.token :: vs.flatMap fun v => [.symbol .comma, v.token]

end WrittenValue

-- An absent bound is a star, and may have a bracket of either kind.
inductive WrittenCaveat where
  | oneOf (values : List WrittenValue)
  | matching (source : WrittenText)
  | version (check : VersionCheck) (excludeBase : Bool) (base : WrittenText)
  | range (squareLo : Bool) (lo hi : Option WrittenNumber) (squareHi : Bool)

namespace WrittenCaveat

def boundToken (bound : Option WrittenNumber) : Token :=
  (bound.map WrittenNumber.token).getD (.symbol .star)

def tokens : WrittenCaveat → List Token
  | oneOf values =>
    .word .isIn :: .symbol (.openBracket true)
      :: (WrittenValue.tokens values ++ [.symbol (.closeBracket true)])
  | matching source => [.word .matching, source.token]
  | version check excludeBase base =>
    [.word .version, .symbol (.operator check excludeBase), base.token]
  | range squareLo lo hi squareHi =>
    [.word .isIn, .word .range, .symbol (.openBracket squareLo), boundToken lo, .symbol .comma,
      boundToken hi, .symbol (.closeBracket squareHi)]

def meaning : WrittenCaveat → Caveat
  | oneOf values => .oneOf (.ofValues (values.map WrittenValue.meaning))
  | matching source => .pattern (.ofSource source.meaning)
  | version check excludeBase base => .version ⟨check, base.meaning, excludeBase⟩
  | range squareLo lo hi squareHi =>
    .range ⟨lo.map WrittenNumber.meaning, hi.map WrittenNumber.meaning, squareLo && lo.isSome,
      squareHi && hi.isSome⟩

end WrittenCaveat

structure WrittenPredicate where
  path : Path
  negated : Bool
  caveat : WrittenCaveat
  weight : Option WrittenNumber
  override : Option Bool

namespace WrittenPredicate

def weightTokens (weight : Option WrittenNumber) : List Token :=
  weight.elim [] fun w => [.word .weight, w.token]

def overrideTokens (override : Option Bool) : List Token :=
  override.elim [] fun b => [.word .default, .word (.bool b)]

def tokens (p : WrittenPredicate) : List Token :=
  .path p.path :: ((if p.negated then [.word .not] else [])
    ++ (p.caveat.tokens ++ (weightTokens p.weight ++ overrideTokens p.override)))

def meaning (p : WrittenPredicate) : Predicate where
  kind := if p.negated then .excluded else .included
  path := p.path.name
  caveat := p.caveat.meaning
  weight := (p.weight.map WrittenNumber.meaning).getD .zero
  override := p.override

end WrittenPredicate

structure WrittenClause where
  first : WrittenPredicate
  more : List WrittenPredicate

namespace WrittenClause

def tokens (joiner : Word) (c : WrittenClause) : List Token :=
  .symbol (.openBracket false) :: (c.first.tokens
    ++ (c.more.flatMap (fun p => .word joiner :: p.tokens) ++ [.symbol (.closeBracket false)]))

def meaning (c : WrittenClause) : Clause :=
  c.first.meaning :: c.more.map WrittenPredicate.meaning

end WrittenClause

structure WrittenDefinition where
  id : WrittenText
  form : Form
  first : WrittenClause
  more : List WrittenClause

namespace WrittenDefinition

def tokens (d : WrittenDefinition) : List Token :=
  .word (.form d.form) :: d.id.token :: .symbol .openBrace
    :: (d.first.tokens (Word.inner d.form)
      ++ (d.more.flatMap (fun c => .word (Word.outer d.form) :: c.tokens (Word.inner d.form))
        ++ [.symbol .closeBrace]))

def meaning (d : WrittenDefinition) : Definition where
  id := d.id.meaning
  form := d.form
  clauses := d.first.meaning :: d.more.map WrittenClause.meaning

end WrittenDefinition

-- The texts that define these definitions, one after the other.
def Writes (all : List WrittenDefinition) (text : String) : Prop :=
  Laid none (all.flatMap WrittenDefinition.tokens) text.toList

end Targeting.DefinitionText
