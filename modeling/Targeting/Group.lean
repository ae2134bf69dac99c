import Targeting.DefinitionText.Message
import Targeting.Index.FormIndex

namespace Targeting.Text

-- Characters that leave no mark of their own on a page, the plain blank apart.
def isUnprintable (c : Char) : Bool :=
  c != ' '
    && ["Cc", "Cf", "Cs", "Co", "Cn", "Zl", "Zp", "Zs"].contains (Unicode.category c)

def codePointEscape (c : Char) : List Char :=
  ['\\', 'u', '\x7b'] ++ Nat.toDigits 16 c.toNat ++ ['\x7d']

-- A character as it stands in escaped text. Marks that would attach to the character before them
-- are written by their code point, too.
def escapeChar (c : Char) : List Char :=
  if c == '\x00' then ['\\', '0']
  else if c == '\t' then ['\\', 't']
  else if c == '\n' then ['\\', 'n']
  else if c == '\r' then ['\\', 'r']
  else if c == '"' || c == '\\' then ['\\', c]
  else if Unicode.isGraphemeExtend c || isUnprintable c then codePointEscape c
  else [c]

-- Text in quotation marks, with quotation marks, backslashes and invisible characters escaped.
def escaped (s : String) : String :=
  "\"" ++ String.ofList (s.toList.flatMap escapeChar) ++ "\""

end Targeting.Text

namespace Targeting

structure GroupConfig where
  -- How many instances of one form may go stale before they are compacted. Zero turns that off.
  compactionThreshold : Nat := 4096
  -- A wish about how to search, which changes no answer.
  parallelSearch : Bool := false
deriving DecidableEq

def GroupConfig.describe (c : GroupConfig) : String :=
  "GroupConfig \x7b compaction_threshold: " ++ Nat.repr c.compactionThreshold
    ++ ", parallel_search: " ++ boolText c.parallelSearch ++ " \x7d"

-- Where a criteria is kept.
inductive Placement where
  | indexed (form : Form)
  -- Evaluated on every document, because the index knows natural defaults only.
  | residual
deriving DecidableEq

def Criteria.placement (c : Criteria) : Placement :=
  if c.isIndexable then .indexed c.form else .residual

structure GroupStats where
  criteria : Nat
  residual : Nat
  liveInstances : Nat
  staleInstances : Nat
  postingEntries : Nat
  rows : Nat
deriving DecidableEq

inductive IndexFault where
  | groupNotFound (name : String)
  | inconsistent (group : String) (inconsistency : Index.Inconsistency)
deriving DecidableEq

def IndexFault.message : IndexFault → String
  | groupNotFound name => "index group '" ++ name ++ "' not found"
  | inconsistent group i =>
    "index group '" ++ group ++ "' is inconsistent at internal id " ++ Nat.repr i.internalId ++ ": "
      ++ i.contradiction.reason

-- What is done with a criteria. Adding and updating are one.
inductive Operation where
  | add
  | update
  | delete
deriving DecidableEq

-- A named collection of criteria that can be searched.
structure Group where
  name : String
  config : GroupConfig
  dnf : Index.FormIndex
  cnf : Index.FormIndex
  residual : SortedMap String Criteria
  stored : SortedMap String Criteria

namespace Group

def empty (name : String) (config : GroupConfig) : Group where
  name := name
  config := config
  dnf := .empty .dnf config.compactionThreshold
  cnf := .empty .cnf config.compactionThreshold
  residual := .empty
  stored := .empty

def get? (g : Group) (id : String) : Option Criteria := g.stored.find? id

-- The stored criteria by ascending id.
def toList (g : Group) : List Criteria := g.stored.values

def size (g : Group) : Nat := g.stored.size

def isEmpty (g : Group) : Bool := g.stored.isEmpty

def publish (g : Group) (c : Criteria) : Placement → Group
  | .indexed .dnf => { g with dnf := g.dnf.publish c }
  | .indexed .cnf => { g with cnf := g.cnf.publish c }
  | .residual => { g with residual := g.residual.insert c.id c }

def retire (g : Group) (id : String) : Placement → Group
  | .indexed .dnf => { g with dnf := g.dnf.retire id }
  | .indexed .cnf => { g with cnf := g.cnf.retire id }
  | .residual => { g with residual := g.residual.erase id }

-- Publishes a criteria and takes the one that it replaces out of another place. In the same place
-- publishing has replaced it already.
def store (g : Group) (c : Criteria) : Group :=
  let published := g.publish c c.placement
  let moved :=
    match (g.get? c.id).map Criteria.placement with
    | none => published
    | some previous =>
      if previous = c.placement then published else published.retire c.id previous
  { moved with stored := g.stored.insert c.id c }

-- Stores a criteria in place of one with its id. One that is stored already is left alone.
def add (g : Group) (c : Criteria) : Group :=
  if (g.get? c.id).any fun old => old.same c.toDefinition then g else g.store c

-- Removes a criteria, and tells whether there was one.
def delete (g : Group) (id : String) : Group × Bool :=
  match g.get? id with
  | none => (g, false)
  | some c => ({ g.retire id c.placement with stored := g.stored.erase id }, true)

def apply (g : Group) (c : Criteria) : Operation → Group
  | .add => g.add c
  | .update => g.add c
  | .delete => (g.delete c.id).1

def addAll (g : Group) (all : List Criteria) : Group := all.foldl add g

-- The criteria that a document satisfies, with their scores.
def search (g : Group) (doc : Document) : Except IndexFault MatchSet :=
  match g.dnf.search doc, g.cnf.search doc with
  | .error i, _ => .error (.inconsistent g.name i)
  | .ok _, .error i => .error (.inconsistent g.name i)
  | .ok dnf, .ok cnf =>
    .ok (g.residual.entries.foldl (fun found e =>
      match e.2.score? doc with
      | none => found
      | some score => found.insertMax e.1 score) (dnf.merge cnf))

-- The best matches.
def searchTop (g : Group) (doc : Document) (n : Nat) : Except IndexFault (List Match) :=
  (g.search doc).map (·.top n)

-- Removes what is filed for criteria that were replaced or deleted, and counts it.
def compact (g : Group) : Group × Nat :=
  let dnf := g.dnf.compact
  let cnf := g.cnf.compact
  ({ g with dnf := dnf.1, cnf := cnf.1 }, dnf.2 + cnf.2)

def stats (g : Group) : GroupStats where
  criteria := g.stored.size
  residual := g.residual.size
  liveInstances := g.dnf.stats.liveInstances + g.cnf.stats.liveInstances
  staleInstances := g.dnf.stats.staleInstances + g.cnf.stats.staleInstances
  postingEntries := g.dnf.stats.postingEntries + g.cnf.stats.postingEntries
  rows := g.dnf.stats.rows + g.cnf.stats.rows

-- Adds all criteria that a text defines, or none when there is a fault in it.
def loadText (g : Group) (text : String) : Except LoadFault (Group × Nat) :=
  (Criteria.readAll text).map fun all => (g.addAll all, all.length)

def loadFile (g : Group) (content : Option ByteArray) : Except FileFault (Group × Nat) :=
  match fileText content with
  | .error fault => .error fault
  | .ok text => (g.loadText text).mapError .load

-- Adds what a definition describes, if it stands a check of its own.
def tryAdd (g : Group) (d : Definition) : Except DefinitionFault Group := d.build.map g.add

-- Adds definitions one by one up to the first that is refused. Those before it stay.
def addEach (g : Group) : List Definition → Group × Option DefinitionFault
  | [] => (g, none)
  | d :: rest =>
    match g.tryAdd d with
    | .error fault => (g, some fault)
    | .ok h => h.addEach rest

-- Loads a text step by step: what was added before a refusal is not taken back.
def loadEach (g : Group) (text : String) : Group × Except LoadFault Nat :=
  match Criteria.readAll text with
  | .error fault => (g, .error fault)
  | .ok all =>
    match g.addEach (all.map Criteria.toDefinition) with
    | (h, none) => (h, .ok all.length)
    | (h, some fault) => (h, .error (.definition fault))

def loadFileEach (g : Group) (content : Option ByteArray) : Group × Except FileFault Nat :=
  match fileText content with
  | .error fault => (g, .error fault)
  | .ok text => ((g.loadEach text).1, (g.loadEach text).2.mapError .load)

def describe (g : Group) : String :=
  "IndexGroup \x7b name: " ++ Text.escaped g.name ++ ", config: " ++ g.config.describe
    ++ ", criteria: " ++ Nat.repr g.size ++ ", .. \x7d"

end Group

end Targeting
