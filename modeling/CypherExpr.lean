import CypherExpr.Duration.Iso
import CypherExpr.Duration.Shift
import CypherExpr.Engine.Aggregate
import CypherExpr.Json.Expression
import CypherExpr.Json.Reader
import CypherExpr.Json.Tagged
import CypherExpr.Json.Writer
import CypherExpr.Proofs.Evaluation.Inlining
import CypherExpr.Proofs.Evaluation.Marks
import CypherExpr.Proofs.Graph.Assembly
import CypherExpr.Proofs.Graph.OneHop
import CypherExpr.Proofs.Value.Equality
import CypherExpr.Proofs.Value.Order
import CypherExpr.Proofs.Typing.Arithmetic
import CypherExpr.Typing.Infer
import CypherExpr.Proofs.Typing.Soundness
import CypherExpr.Proofs.Regex.SharedCache
import CypherExpr.Proofs.Evaluation.Quantifiers
import CypherExpr.Proofs.Evaluation.Connectives
import CypherExpr.Proofs.Json.Members
import CypherExpr.Proofs.Json.PlainForm
import CypherExpr.Proofs.Calendar.IsoText
import CypherExpr.Proofs.Json.TaggedForm
import CypherExpr.Proofs.Value.Duality
import CypherExpr.Proofs.Evaluation.Comparisons
import CypherExpr.Proofs.Function.Extremes
import CypherExpr.Proofs.Graph.Columns
import CypherExpr.Proofs.Graph.Joining
import CypherExpr.Proofs.Duration.DateShift
import CypherExpr.Proofs.Duration.Division
import CypherExpr.Proofs.Evaluation.DistinctColumns
import CypherExpr.Proofs.Calendar.Timeline
import CypherExpr.Proofs.Duration.TimeShift
import CypherExpr.Proofs.Duration.IsoText
import CypherExpr.Proofs.Evaluation.IntegerArithmetic
import CypherExpr.Proofs.Graph.Reversal
import CypherExpr.Proofs.Graph.RepeatedVariable
import CypherExpr.Proofs.Evaluation.Positions
import CypherExpr.Proofs.Regex.Anchoring
import CypherExpr.Proofs.Function.Progressions
import CypherExpr.Proofs.Function.Sums
import CypherExpr.Proofs.Typing.Reductions
import CypherExpr.Proofs.Evaluation.Membership
import CypherExpr.Proofs.Evaluation.Projections
import CypherExpr.Proofs.Function.Returns
import CypherExpr.Proofs.Typing.LiteralData
import CypherExpr.Proofs.Value.NumberOrder
import CypherExpr.Proofs.Duration.Components
import CypherExpr.Proofs.Value.WellFormed
import CypherExpr.Proofs.Function.WellFormed
import CypherExpr.Proofs.Graph.WellFormed
import CypherExpr.Proofs.Operator.WellFormed
import CypherExpr.Proofs.Evaluation.WellFormed
import CypherExpr.Proofs.Json.WellFormed
import CypherExpr.Proofs.Value.Obtained
