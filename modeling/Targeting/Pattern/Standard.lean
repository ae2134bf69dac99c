import Targeting.Pattern.Flags
import Targeting.Unicode.CaseFold
import Targeting.Unicode.ScriptExtension

namespace Targeting

-- The sets of characters that properties are names of. Only some properties are known here.
namespace Unicode

-- The form in which names of properties are compared: lower case, without blanks, hyphens,
-- underscores, characters beyond ASCII, and a leading "is".
def looseName (name : List Char) : String :=
  let lowered := name.map Char.toLower
  let (startsWithIs, rest) :=
    match lowered with
    | 'i' :: 's' :: rest => (true, rest)
    | _ => (false, lowered)
  let kept := rest.filter fun c => c != ' ' && c != '_' && c != '-' && c.toNat < 128
  -- "isc" abbreviates no category.
  if startsWithIs && kept == ['c'] then "isc" else String.ofList kept

def sameName (loose name : String) : Bool := looseName name.toList == loose

-- Some categories have a third name.
def categoryAlias (loose : String) : String :=
  match loose with
  | "punct" => "punctuation"
  | "digit" => "decimalnumber"
  | "cntrl" => "control"
  | "combiningmark" => "mark"
  | _ => loose

def categoryNamed? (loose : String) : Option (Char → Bool) :=
  match categoryAlias loose with
  | "any" => some fun _ => true
  | "assigned" => some fun c => category c != "Cn"
  | "ascii" => some fun c => c.toNat < 128
  | "cs" | "surrogate" => none
  | name =>
    match categoryNames.find? fun e => sameName name e.1 || sameName name e.2 with
    | some (code, _) => some fun c => category c == code
    | none =>
      (categoryGroups.find? fun e => sameName name e.1 || sameName name e.2.1).map fun e c =>
        e.2.2.contains (category c)

-- The code of a script under any of its names.
def scriptCode? (loose : String) : Option String :=
  (scriptNames.find? fun names => names.any (sameName loose)).bind List.head?

def scriptNamed? (loose : String) : Option (Char → Bool) :=
  (scriptCode? loose).map fun code c => script c == code

def scriptExtensionNamed? (loose : String) : Option (Char → Bool) :=
  (scriptCode? loose).map isUsedWith

def binaryPropertyNamed? (loose : String) : Option (Char → Bool) :=
  if loose == "wspace" then some isBlank
  else
    (binaryProperties.find? fun e => sameName loose e.1 || sameName loose e.2.1).map fun e => e.2.2

-- A property given by a name alone: a binary property, a general category or a script. Three
-- abbreviations of categories are also those of properties, and mean the categories.
def propertyNamed? (name : List Char) : Option (Char → Bool) :=
  let loose := looseName name
  if ["cf", "sc", "lc"].contains loose then categoryNamed? loose
  else ((binaryPropertyNamed? loose).or (categoryNamed? loose)).or (scriptNamed? loose)

-- A property given by a name and a value.
def propertyWith? (name value : List Char) : Option (Char → Bool) :=
  let loose := looseName name
  if loose == "gc" || loose == "generalcategory" then categoryNamed? (looseName value)
  else if loose == "sc" || loose == "script" then scriptNamed? (looseName value)
  else if loose == "scx" || loose == "scriptextensions" then scriptExtensionNamed? (looseName value)
  else none

-- Splits at the first `!=`.
def splitUnequal : List Char → Option (List Char × List Char)
  | [] => none
  | '!' :: '=' :: rest => some ([], rest)
  | c :: rest => (splitUnequal rest).map fun (name, value) => (c :: name, value)

-- Splits `name!=value`, `name:value` or `name=value`, looking for the signs in this order, and says
-- whether the value is excluded.
def splitProperty (text : List Char) : Option (List Char × List Char × Bool) :=
  match splitUnequal text with
  | some (name, value) => some (name, value, true)
  | none =>
    let sign := if text.contains ':' then ':' else '='
    if text.contains sign then
      some (text.takeWhile (· != sign), (text.dropWhile (· != sign)).drop 1, false)
    else
      none

-- Only between braces there can be a value, too.
def property? (caseless negated braced : Bool) (text : List Char) : Option (Char → Bool) :=
  let fold (holds : Char → Bool) (c : Char) := if caseless then (caseOrbit c).any holds else holds c
  match if braced then splitProperty text else none with
  | some (name, value, unequal) =>
    (propertyWith? name value).map fun holds c => fold holds c != (negated != unequal)
  | none => (propertyNamed? text).map fun holds c => fold holds c != negated

end Unicode

namespace Pattern

-- An estimate of the memory that a set takes. One from a table has hundreds of ranges.
def CharClass.weight : CharClass → Nat
  | none => 0
  | range _ _ => 32
  | satisfying _ => 0xb000
  | union a b => a.weight + b.weight
  | inter a b => a.weight + b.weight
  | diff a b => a.weight + b.weight
  | symmDiff a b => a.weight + b.weight
  | complement a => 512 + a.weight
  | caseless _ a => 2 * a.weight

-- An estimate of the memory that an expression takes when its repetitions are written out.
def Expr.weight : Expr → Nat
  | empty => 32
  | oneOf chars => chars.weight
  | look _ => 32
  | seq first second => first.weight + second.weight
  | either left right => 48 + left.weight + right.weight
  | repeated body least most =>
    match most with
    | none => 48 + max 1 least * body.weight
    | some m => 48 + least * body.weight + (m - least) * (body.weight + 48)

-- The engine that patterns run on, with a limit of ten megabytes.
instance Engine.standard : Engine where
  property? := Unicode.property?
  isDigit := Unicode.isDecimalDigit
  isSpace := Unicode.isBlank
  isWord := Unicode.isWord
  caseOrbit := Unicode.caseOrbit
  admits _ e depth := decide (depth ≤ 250) && decide (e.weight ≤ 0xa00000)

end Pattern

end Targeting
