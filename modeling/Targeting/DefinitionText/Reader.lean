namespace Targeting.DefinitionText

-- Why and where reading stopped: what was left of the text, whether other ways of reading it are
-- ruled out, and what was expected there, the innermost part first.
structure Failure where
  rest : List Char
  committed : Bool
  expected : List String

inductive Outcome (α : Type) where
  | done (a : α) (rest : List Char)
  | failed (failure : Failure)

-- Reads something from the start of a text.
def Reader (α : Type) := List Char → Outcome α

namespace Reader

variable {α β : Type}

def pure (a : α) : Reader α := fun cs => .done a cs

def bind (p : Reader α) (f : α → Reader β) : Reader β := fun cs =>
  match p cs with
  | .done a rest => f a rest
  | .failed failure => .failed failure

instance : Monad Reader where
  pure := pure
  bind := bind

-- No other way of reading is tried after a failure of `p`.
def commit (p : Reader α) : Reader α := fun cs =>
  match p cs with
  | .failed failure => .failed { failure with committed := true }
  | outcome => outcome

-- Says what `p` reads, for its failures.
def expecting (what : String) (p : Reader α) : Reader α := fun cs =>
  match p cs with
  | .failed failure => .failed { failure with expected := failure.expected ++ [what] }
  | outcome => outcome

-- Reads with `q` from the same place when `p` fails without being committed.
def orElse (p q : Reader α) : Reader α := fun cs =>
  match p cs with
  | .failed failure => if failure.committed then .failed failure else q cs
  | outcome => outcome

-- The first alternative that can be read. If none can, the failure is that of the last one.
def firstOf (last : Reader α) : List (Reader α) → Reader α
  | [] => last
  | p :: rest => orElse p (firstOf last rest)

def optional (p : Reader α) : Reader (Option α) := fun cs =>
  match p cs with
  | .done a rest => .done (some a) rest
  | .failed failure => if failure.committed then .failed failure else .done none cs

-- Refuses what `f` refuses, from where `p` started.
def mapped (p : Reader α) (f : α → Option β) : Reader β := fun cs =>
  match p cs with
  | .done a rest =>
    match f a with
    | some b => .done b rest
    | none => .failed ⟨cs, false, []⟩
  | .failed failure => .failed failure

-- Reads with `p` as often as it can be read, at most `fuel` times.
def manyUpTo (p : Reader α) : Nat → Reader (List α)
  | 0 => fun cs => .done [] cs
  | fuel + 1 => fun cs =>
    match p cs with
    | .done a rest =>
      match manyUpTo p fuel rest with
      | .done as rest => .done (a :: as) rest
      | .failed failure => .failed failure
    | .failed failure => if failure.committed then .failed failure else .done [] cs

-- A reader that takes at least one character can be used no more often than the text is long.
def many (p : Reader α) : Reader (List α) := fun cs => manyUpTo p cs.length cs

-- Elements with separators between them.
def separated (p : Reader α) (separator : Reader Unit) : Reader (List α) := do
  match ← optional p with
  | none => return []
  | some a => return a :: (← many (separator.bind fun _ => p))

end Reader

end Targeting.DefinitionText
