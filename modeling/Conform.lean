import Conform.Binary64.Basic
import Conform.Binary64.Reading
import Conform.Binary64.Shortest
import Conform.Builder.Basic
import Conform.Builder.Chain
import Conform.Builder.Constraint
import Conform.Builder.Step
import Conform.Calendar.Date
import Conform.Calendar.DateTime
import Conform.Calendar.Iso
import Conform.Calendar.Layout
import Conform.Calendar.Zone
import Conform.Conversion.Basic
import Conform.Conversion.Parsing
import Conform.Definition.FilePath
import Conform.Definition.Node
import Conform.Definition.Part
import Conform.Definition.Source
import Conform.Environment
import Conform.Environment.Standard
import Conform.Expectation
import Conform.Fault
import Conform.Json.Printer
import Conform.Json.Reader
import Conform.Number
import Conform.Pattern.Basic
import Conform.Pattern.Escape
import Conform.Pattern.Matching
import Conform.Pattern.Reader
import Conform.Pattern.Reading
import Conform.Predicate.Basic
import Conform.Predicate.Catalogue
import Conform.Predicate.Date
import Conform.Predicate.Format
import Conform.Proofs.Acceptance
import Conform.Proofs.Accounting
import Conform.Proofs.ActivePart
import Conform.Proofs.ActiveSteps
import Conform.Proofs.Alike
import Conform.Proofs.AlikeDefinitions
import Conform.Proofs.Awaiting
import Conform.Proofs.BuilderRun
import Conform.Proofs.CalendarDays
import Conform.Proofs.ChainLinks
import Conform.Proofs.ChainOperations
import Conform.Proofs.ChainOrder
import Conform.Proofs.ChainWrappers
import Conform.Proofs.Collecting
import Conform.Proofs.Composition
import Conform.Proofs.ConvertedTexts
import Conform.Proofs.CustomPivots
import Conform.Proofs.DecisionTrees
import Conform.Proofs.DefinitionFlaws
import Conform.Proofs.DefinitionParts
import Conform.Proofs.DefinitionVerdicts
import Conform.Proofs.DeniedLeaves
import Conform.Proofs.DocumentTexts
import Conform.Proofs.EachItem
import Conform.Proofs.EncodedTexts
import Conform.Proofs.EntryPoints
import Conform.Proofs.EqualTimes
import Conform.Proofs.EqualValues
import Conform.Proofs.Exclusion
import Conform.Proofs.FailFast
import Conform.Proofs.FailedSteps
import Conform.Proofs.FaultKinds
import Conform.Proofs.Faults
import Conform.Proofs.FlattenedKeys
import Conform.Proofs.FormattedTexts
import Conform.Proofs.Guards
import Conform.Proofs.Instants
import Conform.Proofs.Keeping
import Conform.Proofs.KeptRefusals
import Conform.Proofs.LastCoercion
import Conform.Proofs.LayoutTexts
import Conform.Proofs.Layouts
import Conform.Proofs.LeafAnswers
import Conform.Proofs.Leaves
import Conform.Proofs.Locations
import Conform.Proofs.MailAddresses
import Conform.Proofs.MessageLayers
import Conform.Proofs.Messages
import Conform.Proofs.NodeFlaws
import Conform.Proofs.NodeVerdicts
import Conform.Proofs.NumberTexts
import Conform.Proofs.Operators
import Conform.Proofs.OverlongDays
import Conform.Proofs.PartAccounting
import Conform.Proofs.Path
import Conform.Proofs.PatternEnds
import Conform.Proofs.PendingNegation
import Conform.Proofs.Plucking
import Conform.Proofs.Presence
import Conform.Proofs.Presentation
import Conform.Proofs.Ranges
import Conform.Proofs.Refusals
import Conform.Proofs.Reporting
import Conform.Proofs.RequiredFields
import Conform.Proofs.Routes
import Conform.Proofs.RunRelation
import Conform.Proofs.SameAnswers
import Conform.Proofs.SameRuns
import Conform.Proofs.SettledValues
import Conform.Proofs.Shape
import Conform.Proofs.SpacedWords
import Conform.Proofs.StandardForm
import Conform.Proofs.StandardTimes
import Conform.Proofs.StoredConstraints
import Conform.Proofs.StrictMaps
import Conform.Proofs.StricterConversions
import Conform.Proofs.StructureVerdicts
import Conform.Proofs.TaggedUnions
import Conform.Proofs.Targets
import Conform.Proofs.TypeNames
import Conform.Proofs.UniversalTime
import Conform.Proofs.UntouchedValues
import Conform.Proofs.UsedSettings
import Conform.Proofs.Verdicts
import Conform.Proofs.WrappedVerdicts
import Conform.Proofs.WrittenStrings
import Conform.Report
import Conform.Result
import Conform.Run
import Conform.Structure
import Conform.Text.Blank
import Conform.Text.Case
import Conform.Text.CaseTable
import Conform.Text.CodeRange
import Conform.Text.Decimal
import Conform.Text.DecimalDigit
import Conform.Text.Identifier
import Conform.Text.Printable
import Conform.Text.Quoted
import Conform.Text.Split
import Conform.Text.Utf8
import Conform.Text.WordChar
import Conform.Url
import Conform.Validator.Basic
import Conform.Validator.Check
import Conform.Validator.Compose
import Conform.Validator.Evaluate
import Conform.Validator.Label
import Conform.Validator.Walk
import Conform.Value.Basic
import Conform.Value.Entries
import Conform.Value.Equality
import Conform.Value.Literal
import Conform.Value.Membership
import Conform.Value.Order
import Conform.Value.Pretty
import Conform.Yaml.Content
import Conform.Yaml.Document
import Conform.Yaml.Problem
import Conform.Yaml.Scalar
import Conform.Yaml.Token
