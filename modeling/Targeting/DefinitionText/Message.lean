import Targeting.DefinitionText.Grammar

namespace Targeting

-- Text that does not read as definitions: the whole text, how many of its bytes come before the
-- failure, and what was expected there.
structure DefinitionTextFault where
  text : String
  offset : Nat
  expected : List String
deriving DecidableEq

namespace DefinitionTextFault

def byteLength (cs : List Char) : Nat := cs.foldl (fun n c => n + c.utf8Size) 0

-- The characters that end at or before a number of bytes, and how many bytes are left over.
def takeBytes : Nat → List Char → List Char × Nat
  | n, [] => ([], n)
  | n, c :: cs =>
    if c.utf8Size ≤ n then
      let (taken, left) := takeBytes (n - c.utf8Size) cs
      (c :: taken, left)
    else
      ([], n)

def spaces (n : Nat) : String := String.ofList (List.replicate n ' ')

def expectation (expected : List String) : String :=
  if expected.isEmpty then "" else "expected " ++ ", ".intercalate expected

-- The lines of a text, between line feeds.
def lines : List Char → List (List Char)
  | [] => [[]]
  | c :: cs =>
    match c == '\n', lines cs with
    | true, rest => [] :: rest
    | false, [] => [[c]]
    | false, line :: rest => (c :: line) :: rest

-- The line that holds the byte before the failure's end, counted from one, and the column in it:
-- characters up to that byte, or bytes when it is within a character.
def position (text : List Char) (offset : Nat) : Nat × Nat :=
  let index := min offset (byteLength text - 1)
  let (before, _) := takeBytes index text
  let line := before.count '\n' + 1
  let start := byteLength (before.reverse.dropWhile (· != '\n'))
  let current := (lines text).getD (line - 1) [] ++ ['\n']
  let (shown, left) := takeBytes (index - start + 1) current
  (line, (if left = 0 then shown.length else index - start + 1) + (offset - index))

-- The text with a mark under the failure, or the line with it when there are several.
def message (fault : DefinitionTextFault) : String :=
  let text := fault.text.toList
  let pointed :=
    if text.contains '\n' then
      let (line, column) := position text fault.offset
      let number := Nat.repr line
      let gutter := spaces number.length
      "parse error at line " ++ number ++ ", column " ++ Nat.repr column ++ "\n"
        ++ gutter ++ " |\n"
        ++ number ++ " | " ++ String.ofList ((lines text).getD (line - 1) []) ++ "\n"
        ++ gutter ++ " | " ++ spaces (column - 1) ++ "^\n"
    else
      fault.text ++ "\n" ++ spaces fault.offset ++ "^\n"
  "parse error: " ++ pointed ++ expectation fault.expected

end DefinitionTextFault

namespace Definition

-- Reads a text of definitions, and nothing else.
def readAll (text : String) : Except DefinitionTextFault (List Definition) :=
  let fault (rest : List Char) (expected : List String) : DefinitionTextFault :=
    ⟨text, text.utf8ByteSize - DefinitionTextFault.byteLength rest, expected⟩
  match DefinitionText.definitions text.toList with
  | .done all [] => .ok all
  | .done _ rest => .error (fault rest [])
  | .failed failure => .error (fault failure.rest failure.expected)

end Definition

-- Why a text gives no criteria.
inductive LoadFault where
  | text (fault : DefinitionTextFault)
  | definition (fault : DefinitionFault)
deriving DecidableEq

namespace LoadFault

def message : LoadFault → String
  | text fault => fault.message
  | definition fault => fault.message

end LoadFault

namespace Criteria

-- The criteria that a text defines. Faults of the text come before faults of a definition.
def readAll (text : String) : Except LoadFault (List Criteria) :=
  match Definition.readAll text with
  | .error fault => .error (.text fault)
  | .ok definitions =>
    match Definition.buildAll definitions with
    | .error fault => .error (.definition fault)
    | .ok all => .ok all

end Criteria

-- Why a file gives no criteria.
inductive FileFault where
  | notFound
  -- The bytes are no UTF-8 text.
  | notText
  | load (fault : LoadFault)
deriving DecidableEq

-- The text of a file, given its bytes if it exists.
def fileText (content : Option ByteArray) : Except FileFault String :=
  match content with
  | none => .error .notFound
  | some bytes =>
    match String.fromUTF8? bytes with
    | none => .error .notText
    | some text => .ok text

-- The criteria that a file defines.
def Criteria.ofFile (content : Option ByteArray) : Except FileFault (List Criteria) :=
  match fileText content with
  | .error fault => .error fault
  | .ok text => (Criteria.readAll text).mapError .load

end Targeting
