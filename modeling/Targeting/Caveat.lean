import Targeting.Pattern.Reader
import Targeting.Range
import Targeting.Value.Key
import Targeting.Version

namespace Targeting

-- A pattern for whole texts, kept as it was written. It is anchored by writing it into a group
-- between the two anchors, so what it means is decided by the text so made.
def Pattern.anchored (source : String) : List Char :=
  "^(?:".toList ++ source.toList ++ ")$".toList

structure Pattern [Pattern.Engine] where
  source : String
  program : Option Pattern.Expr
  program_eq : program = Pattern.compile? (Pattern.anchored source)

variable [Pattern.Engine]

namespace Pattern

def ofSource (source : String) : Pattern := ⟨source, compile? (anchored source), rfl⟩

def isValid (p : Pattern) : Bool := p.program.isSome

-- A pattern that is refused matches nothing.
def accepts (p : Pattern) (text : String) : Bool :=
  match p.program with
  | some e => e.findsIn text.toList
  | none => false

end Pattern

inductive CaveatKind where
  | equality
  | pattern
  | range
  | version
deriving DecidableEq

namespace CaveatKind

def rank : CaveatKind → Nat
  | equality => 0
  | pattern => 1
  | range => 2
  | version => 3

end CaveatKind

-- The test that a predicate applies to each value of its field.
inductive Caveat where
  | oneOf (keys : KeySet)
  | pattern (p : Pattern)
  | range (r : Range)
  | version (b : VersionBound)

inductive CaveatFault where
  | emptyValueSet
  | invalidPattern (pattern : String)
  | invalidRange (fault : RangeFault)
  | invalidVersion (base : String)
deriving DecidableEq

namespace Caveat

def kind : Caveat → CaveatKind
  | oneOf _ => .equality
  | pattern _ => .pattern
  | range _ => .range
  | version _ => .version

-- Whether a value passes. A value of the wrong type does not.
def accepts : Caveat → Value → Bool
  | oneOf keys, v => keys.contains v.key
  | pattern p, v => v.asText?.any p.accepts
  | range r, v => r.accepts v
  | version b, v => b.accepts v

-- The text that stands for a caveat that is no set of values.
def token? : Caveat → Option String
  | oneOf _ => none
  | pattern p => some p.source
  | range r => some r.token
  | version b => some b.token

def fault? : Caveat → Option CaveatFault
  | oneOf keys => if keys.isEmpty then some .emptyValueSet else none
  | pattern p => if p.isValid then none else some (.invalidPattern p.source)
  | range r => r.fault?.map .invalidRange
  | version b => if b.version?.isNone then some (.invalidVersion b.base) else none

def display : Caveat → String
  | oneOf keys => "in [" ++ ", ".intercalate (keys.toList.map Key.display) ++ "]"
  | pattern p => "matches " ++ quoted p.source
  | range r => "in range " ++ r.display
  | version b => b.display

-- Whether two caveats are written alike. Patterns are compared by their text.
def same : Caveat → Caveat → Bool
  | oneOf a, oneOf b => a == b
  | pattern a, pattern b => a.source == b.source
  | range a, range b => a.same b
  | version a, version b => a == b
  | _, _ => false

end Caveat

end Targeting
