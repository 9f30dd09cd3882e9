import FieldValidation.Calendar.DayNumber
import FieldValidation.Calendar.Format
import FieldValidation.Calendar.Matching
import FieldValidation.Failure.Basic
import FieldValidation.Host.Multipart
import FieldValidation.Host.Percent
import FieldValidation.Host.SentRequest
import FieldValidation.Host.Yaml.Block
import FieldValidation.Host.Yaml.BlockCollection
import FieldValidation.Host.Yaml.Cursor
import FieldValidation.Host.Yaml.Document
import FieldValidation.Host.Yaml.Fault
import FieldValidation.Host.Yaml.Filling
import FieldValidation.Host.Yaml.FlowCollection
import FieldValidation.Host.Yaml.Graph
import FieldValidation.Host.Yaml.Moment
import FieldValidation.Host.Yaml.Plain
import FieldValidation.Host.Yaml.Properties
import FieldValidation.Host.Yaml.Quoted
import FieldValidation.Host.Yaml.Reading
import FieldValidation.Host.Yaml.Scalar
import FieldValidation.Host.Yaml.Slot
import FieldValidation.Host.Yaml.Tag
import FieldValidation.Http.Error
import FieldValidation.Http.Exchange
import FieldValidation.Http.Guard
import FieldValidation.Json.Reader
import FieldValidation.Json.Writer
import FieldValidation.Log.Line
import FieldValidation.Message.Catalog
import FieldValidation.Message.Layers
import FieldValidation.Message.Phrase
import FieldValidation.Message.Use
import FieldValidation.Number.Basic
import FieldValidation.Number.Decimal
import FieldValidation.Number.Reading
import FieldValidation.Number.Written
import FieldValidation.Proofs.Calendar.Completeness
import FieldValidation.Proofs.Calendar.Cutting
import FieldValidation.Proofs.Calendar.HalfDay
import FieldValidation.Proofs.Calendar.OtherHalf
import FieldValidation.Proofs.Calendar.Reading
import FieldValidation.Proofs.Calendar.Rendering
import FieldValidation.Proofs.Calendar.Soundness
import FieldValidation.Proofs.Calendar.Widest
import FieldValidation.Proofs.Calendar.Writing
import FieldValidation.Proofs.Failure.Kinds
import FieldValidation.Proofs.Http.Admission
import FieldValidation.Proofs.Http.Guard
import FieldValidation.Proofs.Message.Aliases
import FieldValidation.Proofs.Message.Interleaving
import FieldValidation.Proofs.Message.Loading
import FieldValidation.Proofs.Message.Telling
import FieldValidation.Proofs.Number.Identity
import FieldValidation.Proofs.Number.Numerals
import FieldValidation.Proofs.Number.Place
import FieldValidation.Proofs.Number.Readable
import FieldValidation.Proofs.Number.Rounding
import FieldValidation.Proofs.Number.Shortest
import FieldValidation.Proofs.Number.Whole
import FieldValidation.Proofs.Number.Written
import FieldValidation.Proofs.Regex.CharacterSets
import FieldValidation.Proofs.Regex.Delimiters
import FieldValidation.Proofs.Regex.Groups
import FieldValidation.Proofs.Regex.Language
import FieldValidation.Proofs.Regex.Search
import FieldValidation.Proofs.Regex.Units
import FieldValidation.Proofs.Requirement.PresenceTable
import FieldValidation.Proofs.Requirement.Resolution
import FieldValidation.Proofs.Rule.AllowedValues
import FieldValidation.Proofs.Rule.Bounds
import FieldValidation.Proofs.Rule.CustomText
import FieldValidation.Proofs.Rule.Declared
import FieldValidation.Proofs.Rule.Discipline
import FieldValidation.Proofs.Rule.EmailAddresses
import FieldValidation.Proofs.Rule.IntegerBounds
import FieldValidation.Proofs.Rule.IntegerTexts
import FieldValidation.Proofs.Rule.Layers
import FieldValidation.Proofs.Rule.LengthBounds
import FieldValidation.Proofs.Rule.NumericTexts
import FieldValidation.Proofs.Rule.NumericTypes
import FieldValidation.Proofs.Rule.OwnText
import FieldValidation.Proofs.Rule.Parsing
import FieldValidation.Proofs.Rule.Reworded
import FieldValidation.Proofs.Rule.RoundTrip
import FieldValidation.Proofs.Rule.Violations
import FieldValidation.Proofs.RuleSet.Documents
import FieldValidation.Proofs.RuleSet.Faithful
import FieldValidation.Proofs.Sequence.Results
import FieldValidation.Proofs.Settings.Precedence
import FieldValidation.Proofs.Settings.QuotedLines
import FieldValidation.Proofs.Settings.TrailingComments
import FieldValidation.Proofs.Text.Characters
import FieldValidation.Proofs.Text.CodePoints
import FieldValidation.Proofs.Text.Digits
import FieldValidation.Proofs.Text.Lower
import FieldValidation.Proofs.Text.Pieces
import FieldValidation.Proofs.Validator.Agreement
import FieldValidation.Proofs.Validator.Alternatives
import FieldValidation.Proofs.Validator.Compilation
import FieldValidation.Proofs.Validator.Declarations
import FieldValidation.Proofs.Validator.FieldCheck
import FieldValidation.Proofs.Validator.Fields
import FieldValidation.Proofs.Validator.Findings
import FieldValidation.Proofs.Validator.Locality
import FieldValidation.Proofs.Validator.MessageKeys
import FieldValidation.Proofs.Validator.NamedFields
import FieldValidation.Proofs.Validator.Passing
import FieldValidation.Proofs.Validator.Presence
import FieldValidation.Proofs.Validator.Rewording
import FieldValidation.Proofs.Validator.Runs
import FieldValidation.Proofs.Validator.Session
import FieldValidation.Proofs.Validator.Shape
import FieldValidation.Proofs.Value.Denotation
import FieldValidation.Proofs.Value.Enumeration
import FieldValidation.Proofs.Value.Lookup
import FieldValidation.Proofs.Value.MapKeys
import FieldValidation.Proofs.Value.NumericOrder
import FieldValidation.Proofs.Value.Paths
import FieldValidation.Regex.CharacterSet
import FieldValidation.Regex.Class
import FieldValidation.Regex.Delimited
import FieldValidation.Regex.Escape
import FieldValidation.Regex.Matching
import FieldValidation.Regex.Parser
import FieldValidation.Regex.Searcher
import FieldValidation.Regex.Syntax
import FieldValidation.Requirement.Constraints
import FieldValidation.Requirement.Inquiry
import FieldValidation.Requirement.Resolution
import FieldValidation.Rule.Builtin
import FieldValidation.Rule.Checks
import FieldValidation.Rule.FieldRule
import FieldValidation.Rule.Numeral
import FieldValidation.Rule.Registry
import FieldValidation.Rule.Spec
import FieldValidation.RuleSet.Basic
import FieldValidation.RuleSet.Decoder
import FieldValidation.Settings.Environment
import FieldValidation.Settings.Files
import FieldValidation.Settings.Line
import FieldValidation.Settings.Sources
import FieldValidation.Text.Basic
import FieldValidation.Text.Blank
import FieldValidation.Text.Lower
import FieldValidation.Unicode.CaseRange
import FieldValidation.Unicode.CaseTable
import FieldValidation.Unicode.CasedTable
import FieldValidation.Unicode.CategoryTable
import FieldValidation.Unicode.EmojiSequences
import FieldValidation.Unicode.FoldTable
import FieldValidation.Unicode.GraphemeTable
import FieldValidation.Unicode.LetterTable
import FieldValidation.Unicode.LowerTable
import FieldValidation.Unicode.Property
import FieldValidation.Unicode.Runs
import FieldValidation.Unicode.ScriptTable
import FieldValidation.Unicode.SymbolTable
import FieldValidation.Unicode.UpperTable
import FieldValidation.Validator.Basic
import FieldValidation.Validator.Compiled
import FieldValidation.Validator.Events
import FieldValidation.Validator.Session
import FieldValidation.Validator.Traced
import FieldValidation.Value.Basic
import FieldValidation.Value.Dataset
import FieldValidation.Value.Entries
import FieldValidation.Value.Written
