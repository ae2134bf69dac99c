import Targeting.SortedMap
import Targeting.Binary64.Rounding
import Targeting.Binary64.Decimal
import Targeting.Unicode.Property
import Targeting.Unicode.ScriptExtension
import Targeting.Unicode.CaseFold
import Targeting.Pattern.Expr
import Targeting.Pattern.Escape
import Targeting.Pattern.Standard
import Targeting.Json.Flattening
import Targeting.Predicate
import Targeting.Criteria.Trace
import Targeting.MatchSet
import Targeting.DefinitionText.Message
import Targeting.Index.FormIndex
import Targeting.Registry
import Targeting.Audit
import Targeting.SortedMap.Lemmas
import Targeting.Proofs.Index.Consistency
import Targeting.Proofs.Group.Refinement
import Targeting.Proofs.Group.Exactness
import Targeting.Proofs.Group.Compaction
import Targeting.Proofs.Group.Duality
import Targeting.Proofs.Group.Loading
import Targeting.Proofs.DefinitionText.Display
import Targeting.Proofs.Group.Staleness
import Targeting.Proofs.Group.Ranking
import Targeting.Proofs.Binary64.Printing
import Targeting.Proofs.Binary64.Real
import Targeting.Proofs.Range
import Targeting.Proofs.Value.Key
import Targeting.Proofs.Group.Alike
import Targeting.Proofs.Pattern.Enclosed
import Targeting.Proofs.Pattern.EnclosedClass
import Targeting.Proofs.Pattern.EnclosedBody
import Targeting.Proofs.Pattern.Anchored
import Targeting.Proofs.Pattern.FullMatch
import Targeting.Proofs.Registry.Isolation
import Targeting.Proofs.Version.Order
import Targeting.Proofs.Version.Numeric
import Targeting.Proofs.Version.Bound
import Targeting.Proofs.Value.Meaning
import Targeting.Proofs.Criteria.Building
import Targeting.Proofs.Criteria.NoMatch
import Targeting.Proofs.Criteria.SameScores
import Targeting.Proofs.Group.Unchanged
import Targeting.Proofs.Group.Joining
import Targeting.Proofs.Json.Dotted
import Targeting.Proofs.Index.Apart
import Targeting.Proofs.Index.Opening
import Targeting.Proofs.Index.Insertion
import Targeting.Proofs.Index.Seeking
import Targeting.Proofs.Index.SharedCaveat
import Targeting.Proofs.Audit.Sampling
