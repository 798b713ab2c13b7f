import ChatPlan.Text.Basic
import ChatPlan.Text.Alphabetic
import ChatPlan.Text.Case
import ChatPlan.Number.Decimal
import ChatPlan.Json.Basic
import ChatPlan.Json.Reader
import ChatPlan.Design.Basic
import ChatPlan.Design.Reader
import ChatPlan.Design.Writer
import ChatPlan.Guard.Parser
import ChatPlan.Json.Path
import ChatPlan.Issue
import ChatPlan.Template.Scan
import ChatPlan.Template.Width
import ChatPlan.View.Basic
import ChatPlan.View.Reader
import ChatPlan.View.Writer
import ChatPlan.Regex.Basic
import ChatPlan.Regex.Compile
import ChatPlan.Props.Basic
import ChatPlan.Step.Policies
import ChatPlan.Step.Basic
import ChatPlan.Step.ContentReader
import ChatPlan.Step.Kind
import ChatPlan.Channel.Basic
import ChatPlan.Flow.Cycles
import ChatPlan.Flow.Graph
import ChatPlan.Check.Basic
import ChatPlan.Check.Views
import ChatPlan.Check.Nodes
import ChatPlan.Check.Pipeline
import ChatPlan.Hash
import ChatPlan.Plan.Basic
import ChatPlan.Classifier.Normalizer
import ChatPlan.Classifier.Phrases
import ChatPlan.Classifier.Rules
import ChatPlan.Classifier.Settings
import ChatPlan.Classifier.Basic
import ChatPlan.Proofs.Plan.Valid
import ChatPlan.Proofs.Plan.Order
import ChatPlan.Proofs.Plan.Checksum
import ChatPlan.Proofs.Flow.Cycles
import ChatPlan.Proofs.Flow.WellFormed
import ChatPlan.Proofs.Results
import ChatPlan.Proofs.Step.Picks
import ChatPlan.Proofs.Check.Errors
import ChatPlan.Proofs.Step.Kinds
import ChatPlan.Proofs.Check.Areas
import ChatPlan.Proofs.Template.Width
import ChatPlan.Proofs.Check.Views
import ChatPlan.Proofs.Plan.Compile
import ChatPlan.Proofs.Plan.Lengths
import ChatPlan.Proofs.Text.Basic
import ChatPlan.Proofs.Guard.Grammar
import ChatPlan.Proofs.Guard.Split
import ChatPlan.Proofs.Guard.Clause
import ChatPlan.Proofs.Guard.Accepted
import ChatPlan.Proofs.Guard.Written
import ChatPlan.Proofs.Classifier.Cache
import ChatPlan.Proofs.Classifier.Lanes
import ChatPlan.Proofs.Classifier.FirstMatch
import ChatPlan.Proofs.Template.Segments
import ChatPlan.Proofs.Template.Filters
import ChatPlan.Proofs.Step.Texts
import ChatPlan.Proofs.Plan.Filters
import ChatPlan.Proofs.Step.Wording
import ChatPlan.Proofs.Plan.Content
import ChatPlan.Proofs.Check.PolicyOutputs
import ChatPlan.Proofs.Flow.CycleOrder
import ChatPlan.Proofs.Step.Elements
import ChatPlan.Proofs.Json.Record
import ChatPlan.Proofs.Json.Reading
import ChatPlan.Proofs.Json.Rereading
import ChatPlan.Proofs.Design.Rereading
import ChatPlan.Proofs.Plan.Wider
import ChatPlan.Proofs.Guard.Composed
import ChatPlan.Proofs.Classifier.Freshness
import ChatPlan.Proofs.Step.Scanning
import ChatPlan.Proofs.Plan.Failures
import ChatPlan.Proofs.Flow.Bare
import ChatPlan.Proofs.Check.Under
import ChatPlan.Proofs.Plan.Edit
import ChatPlan.Proofs.Guard.Comparisons
import ChatPlan.Proofs.Classifier.Equality
import ChatPlan.Proofs.Plan.Policies
import ChatPlan.Proofs.Channel.Dropped
import ChatPlan.Proofs.Check.AddedOutputs
import ChatPlan.Proofs.Check.Correspondence
import ChatPlan.Proofs.Text.EditDistance
import ChatPlan.Proofs.Number.RoundingError
import ChatPlan.Proofs.Classifier.Likeness
import ChatPlan.Proofs.Text.Lowercase
import ChatPlan.Proofs.Text.Spacing
import ChatPlan.Proofs.Classifier.Normalizing
import ChatPlan.Proofs.Flow.Outgoing
import ChatPlan.Proofs.Flow.Unreachable
import ChatPlan.Proofs.Design.Values
import ChatPlan.Proofs.Plan.Declared
import ChatPlan.Proofs.Json.Restored
import ChatPlan.Proofs.View.Rereading
import ChatPlan.Proofs.Plan.Stored
import ChatPlan.Proofs.Text.Parts
import ChatPlan.Proofs.Text.Sigma
import ChatPlan.Proofs.Classifier.Literal
