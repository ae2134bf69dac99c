import Targeting.Criteria.Basic
import Targeting.DefinitionText.Lexeme

namespace Targeting.DefinitionText

open Reader

def constant {α : Type} (word : String) (a : α) : Reader α := do
  literal word
  return a

def value : Reader Value := do
  blanks
  expecting "value" <| firstOf integer
    [do return .text (← stringLiteral), constant "true" (.bool true), constant "false" (.bool false),
      negativeNumber, floatLiteral]

def number : Reader Binary64 := expecting "number" (mapped value Value.asNumber?)

def boolean : Reader Bool := do
  blanks
  expecting "true or false" (orElse (constant "true" true) (constant "false" false))

-- A token after blanks.
def symbol (word : String) : Reader Unit := do
  blanks
  literal word

-- A token after blanks, without which there is no way on.
def closing (word : String) : Reader Unit := do
  blanks
  commit (literal word)

def valueList : Reader Caveat := do
  symbol "["
  let values ← separated value (symbol ",")
  closing "]"
  return .oneOf (.ofValues values)

def bound : Reader (Option Binary64) := do
  blanks
  orElse (constant "*" none) (do return some (← number))

-- An interval. An absent bound, written as a star, is never inclusive.
def range : Reader Caveat := do
  blanks
  let loInclusive ← expecting "[ or (" (commit (orElse (constant "[" true) (constant "(" false)))
  let lo ← commit bound
  closing ","
  let hi ← commit bound
  blanks
  let hiInclusive ← expecting "] or )" (commit (orElse (constant "]" true) (constant ")" false)))
  return .range ⟨lo, hi, loInclusive && lo.isSome, hiInclusive && hi.isSome⟩

def pattern : Reader Caveat := do
  blanks
  let source ← expecting "pattern" (commit stringLiteral)
  return .pattern (.ofSource source)

def version : Reader Caveat := do
  blanks
  let (check, excludeBase) ← expecting "version operator" <| commit <|
    firstOf (constant "<" (VersionCheck.atMost, true))
      [constant ">=" (.atLeast, false), constant ">" (.atLeast, true),
        constant "<=" (.atMost, false)]
  blanks
  let base ← expecting "version" (commit stringLiteral)
  return .version ⟨check, base, excludeBase⟩

def caveat : Reader Caveat :=
  expecting "in, matches, or version" <|
    firstOf (do keyword "version"; version)
      [do keyword "in"; keyword "range"; commit range,
        do keyword "in"; commit valueList,
        do keyword "matches"; pattern]

def predicate : Reader Predicate := do
  blanks
  let path ← expecting "field path" path
  let negated ← optional (keyword "not")
  let caveat ← commit caveat
  let weight ← optional (do keyword "weight"; commit number)
  let result ← optional (do keyword "default"; commit boolean)
  let p := Predicate.make .included path caveat
  let p := if negated.isSome then p.negate else p
  let p := match weight with
    | some w => p.withWeight w
    | none => p
  return match result with
    | some b => p.withDefault b
    | none => p

-- Predicates in parentheses, with a word between them.
def clause (joiner : String) : Reader Clause := do
  symbol "("
  let first ← commit predicate
  let more ← many (do keyword joiner; commit predicate)
  closing ")"
  return first :: more

def definition : Reader Definition := do
  let form ← orElse (do keyword "dnf"; return Form.dnf) (do keyword "cnf"; return Form.cnf)
  blanks
  let id ← expecting "criteria id" (commit stringLiteral)
  closing "\x7b"
  let (inner, outer) := match form with
    | .dnf => ("and", "or")
    | .cnf => ("or", "and")
  let first ← expecting "clause" (commit (clause inner))
  let more ← many (do keyword outer; commit (clause inner))
  closing "\x7d"
  return ⟨id, form, first :: more⟩

def definitions : Reader (List Definition) := do
  let all ← many definition
  blanks
  return all

end Targeting.DefinitionText
