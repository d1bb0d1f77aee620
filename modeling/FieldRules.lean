import FieldRules.Address.Url
import FieldRules.Check.Catalog
import FieldRules.Command.Run
import FieldRules.Engine.Evaluate
import FieldRules.Engine.Written
import FieldRules.Main
import FieldRules.Spec.Reading
import FieldRules.Proofs.Tables
import FieldRules.Proofs.Building
import FieldRules.Proofs.ReadSets
import FieldRules.Proofs.Dependents
import FieldRules.Proofs.Revalidation
import FieldRules.Proofs.RuleGrammar
import FieldRules.Proofs.SpecShapes
import FieldRules.Proofs.Evaluation
import FieldRules.Proofs.Order
import FieldRules.Proofs.Overlays
import FieldRules.Proofs.EvaluationLog
import FieldRules.Proofs.Unregistering
import FieldRules.Proofs.SingleField
import FieldRules.Proofs.Concatenation
import FieldRules.Proofs.EmptyValues
import FieldRules.Proofs.NumericText
import FieldRules.Proofs.Agreement
import FieldRules.Proofs.ConfigurationFiles
import FieldRules.Proofs.LogFilters
import FieldRules.Proofs.Outcomes
import FieldRules.Proofs.Rounding
import FieldRules.Proofs.SizeRules
import FieldRules.Proofs.IntegerBounds
import FieldRules.Proofs.NearestNumber
import FieldRules.Proofs.ShortestDecimal
import FieldRules.Proofs.NumberReading
import FieldRules.Proofs.DateOrder
import FieldRules.Proofs.PatternSearch
import FieldRules.Proofs.PatternReading
import FieldRules.Proofs.PatternArguments
import FieldRules.Proofs.CharSets
import FieldRules.Proofs.MailAddress
import FieldRules.Proofs.DayCount
import FieldRules.Proofs.DateForms
import FieldRules.Proofs.DateCommas
import FieldRules.Proofs.DateLiterals
import FieldRules.Proofs.Candidates
import FieldRules.Proofs.Confirmation
import FieldRules.Proofs.NumericMark
import FieldRules.Proofs.EmptyAnswers
import FieldRules.Proofs.DigitCounts
import FieldRules.Proofs.CompactText
import FieldRules.Proofs.RemoteFiles
import FieldRules.Proofs.NestedLists
import FieldRules.Proofs.Layers
import FieldRules.Proofs.JsonParts
import FieldRules.Proofs.Declarations
