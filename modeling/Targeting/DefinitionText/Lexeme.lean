import Targeting.DefinitionText.Reader
import Targeting.Value.Basic

namespace Targeting.DefinitionText

open Reader

def isBlank (c : Char) : Bool :=
  c == ' ' || c == '\t' || c == '\n' || c == '\x0c' || c == '\r'

-- Whether a comment can be read to its end, a line feed with or without a carriage return before
-- it, or the end of the text. A carriage return alone ends no comment.
def commentEnds : List Char → Bool
  | [] => true
  | '\n' :: _ => true
  | '\r' :: '\n' :: _ => true
  | '\r' :: _ => false
  | _ :: rest => commentEnds rest

-- Drops blanks and comments.
def dropBlanks (inComment : Bool) : List Char → List Char
  | [] => []
  | c :: rest =>
    if inComment then dropBlanks (c != '\n') rest
    else if isBlank c then dropBlanks false rest
    else if c == '#' && commentEnds rest then dropBlanks true rest
    else c :: rest

def blanks : Reader Unit := fun cs => .done () (dropBlanks false cs)

def literalFrom : List Char → List Char → Option (List Char)
  | [], cs => some cs
  | _ :: _, [] => none
  | w :: ws, c :: cs => if w == c then literalFrom ws cs else none

-- Reads exactly these characters.
def literal (word : String) : Reader Unit := fun cs =>
  match literalFrom word.toList cs with
  | some rest => .done () rest
  | none => .failed ⟨cs, false, []⟩

def isWordChar (c : Char) : Bool := c.isAlphanum || c == '_'

def wordEnd : Reader Unit := fun cs =>
  if cs.head?.any isWordChar then .failed ⟨cs, false, []⟩ else .done () cs

-- A whole word, with blanks before it.
def keyword (word : String) : Reader Unit := do
  blanks
  literal word
  wordEnd

-- A name of letters, digits, underscores and dots that starts with a letter or an underscore.
def path : Reader String := fun cs =>
  match cs with
  | [] => .failed ⟨cs, false, []⟩
  | c :: rest =>
    if c.isAlpha || c == '_' then
      .done (String.ofList (c :: rest.takeWhile fun c => isWordChar c || c == '.'))
        (rest.dropWhile fun c => isWordChar c || c == '.')
    else
      .failed ⟨cs, false, []⟩

-- What a character after a backslash adds to a string. Only four have a meaning, and before any
-- other the backslash stands for itself.
def unescape (c : Char) : List Char :=
  match c with
  | '"' => ['"']
  | '\\' => ['\\']
  | 'n' => ['\n']
  | 't' => ['\t']
  | _ => ['\\', c]

-- The rest of a string up to its closing quotation mark.
def stringRest : List Char → Outcome (List Char)
  | [] => .failed ⟨[], false, []⟩
  | ['\\'] => .failed ⟨[], false, []⟩
  | '"' :: rest => .done [] rest
  | '\\' :: c :: rest =>
    match stringRest rest with
    | .done s rest => .done (unescape c ++ s) rest
    | .failed failure => .failed failure
  | c :: rest =>
    match stringRest rest with
    | .done s rest => .done (c :: s) rest
    | .failed failure => .failed failure

def stringLiteral : Reader String := fun cs =>
  match cs with
  | '"' :: rest =>
    match stringRest rest with
    | .done s rest => .done (String.ofList s) rest
    | .failed failure => .failed failure
  | _ => .failed ⟨cs, false, []⟩

-- After a minus, digits and points are taken before they are read as a number, so that nothing else
-- is tried when they are none.
def negativeNumber : Reader Value := fun cs =>
  match cs with
  | '-' :: rest =>
    let digits := rest.takeWhile fun c => c.isDigit || c == '.'
    let after := rest.dropWhile fun c => c.isDigit || c == '.'
    if digits.isEmpty then .failed ⟨rest, false, []⟩
    else
      let number : Option Value :=
        if digits.contains '.' then (Binary64.ofChars? ('-' :: digits)).map Value.float
        else (Text.int64? ('-' :: digits)).map Value.int
      match number with
      | some v => .done v after
      | none => .failed ⟨after, true, []⟩
  | _ => .failed ⟨cs, false, []⟩

-- Digits on both sides of a point.
def floatLiteral : Reader Value := fun cs =>
  let whole := cs.takeWhile Char.isDigit
  match cs.dropWhile Char.isDigit with
  | '.' :: rest =>
    let fraction := rest.takeWhile Char.isDigit
    if whole.isEmpty || fraction.isEmpty then .failed ⟨cs, false, []⟩
    else
      match Binary64.ofChars? (whole ++ '.' :: fraction) with
      | some x => .done (.float x) (rest.dropWhile Char.isDigit)
      | none => .failed ⟨cs, false, []⟩
  | _ => .failed ⟨cs, false, []⟩

-- An integer does not start with a zero, unless it is the zero, which has no sign.
def integerDigits (cs : List Char) : Option (List Char × List Char) :=
  let (sign, digits) := match cs with
    | '+' :: rest => (['+'], rest)
    | '-' :: rest => (['-'], rest)
    | _ => ([], cs)
  match digits with
  | c :: rest =>
    if c.isDigit && c != '0' then
      some (sign ++ c :: rest.takeWhile Char.isDigit, rest.dropWhile Char.isDigit)
    else if c == '0' && sign.isEmpty then some (['0'], rest)
    else none
  | [] => none

def integer : Reader Value := fun cs =>
  match integerDigits cs with
  | some (digits, rest) =>
    match Text.int64? digits with
    | some n => .done (.int n) rest
    | none => .failed ⟨cs, false, []⟩
  | none => .failed ⟨cs, false, []⟩

end Targeting.DefinitionText
