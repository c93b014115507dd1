import TwoWay.Main
import TwoWay.Scan
import TwoWay.Value.Serial
import TwoWay.Proofs.StatementRoundTrip
import TwoWay.Proofs.Encodability
import TwoWay.Proofs.DistinctNames
import TwoWay.Proofs.Locality
import TwoWay.Proofs.Acceptance
import TwoWay.Proofs.Derivation
import TwoWay.Proofs.StatementLanguage
import TwoWay.Proofs.Progress
import TwoWay.Proofs.ErrorReports
import TwoWay.Proofs.Erasure
import TwoWay.Proofs.FieldOrder
import TwoWay.Proofs.FurthestPoint
import TwoWay.Proofs.GreedyRepetition
import TwoWay.Proofs.ListRoundTrip
import TwoWay.Proofs.SerialForm
import TwoWay.Proofs.OrderedChoice
import TwoWay.Proofs.StringLiterals
import TwoWay.Proofs.TemplateRoundTrip
import TwoWay.Proofs.UnfailingItems
import TwoWay.Proofs.QuotedTokens
import TwoWay.Proofs.MaximalMunch
import TwoWay.Proofs.Integers
import TwoWay.Proofs.Anchoring
import TwoWay.Proofs.Adaptation
import TwoWay.Proofs.NestedMaps
import TwoWay.Proofs.RecordHistory
import TwoWay.Proofs.CanonicalTexts
import TwoWay.Proofs.BuilderChecks
