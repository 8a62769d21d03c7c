import Reduct.Calendar
import Reduct.Digest
import Reduct.Entries
import Reduct.Error
import Reduct.Evaluation
import Reduct.Event
import Reduct.Journal
import Reduct.Json
import Reduct.Json.Fault
import Reduct.Json.Printer
import Reduct.Json.Reader
import Reduct.Json.Record
import Reduct.Json.Skip
import Reduct.Library
import Reduct.Library.Table
import Reduct.Meter
import Reduct.Node
import Reduct.Node.Parse
import Reduct.Node.Text
import Reduct.Node.Wire
import Reduct.Number.Binary
import Reduct.Number.Layout
import Reduct.Number.Literal
import Reduct.Number.Shortest
import Reduct.Pattern
import Reduct.Pattern.Bracket
import Reduct.Pattern.Class
import Reduct.Pattern.Cost
import Reduct.Pattern.Flags
import Reduct.Pattern.Parse
import Reduct.Pattern.Property
import Reduct.Preflight
import Reduct.Proofs.AsciiLiteral
import Reduct.Proofs.Bindings
import Reduct.Proofs.Budget
import Reduct.Proofs.Calculation
import Reduct.Proofs.Canonical
import Reduct.Proofs.Chain
import Reduct.Proofs.CompleteExpansion
import Reduct.Proofs.Decimal
import Reduct.Proofs.DigitRounding
import Reduct.Proofs.Enclosure
import Reduct.Proofs.EventPayload
import Reduct.Proofs.ExactInteger
import Reduct.Proofs.Exhaustion
import Reduct.Proofs.Expansion
import Reduct.Proofs.Expression
import Reduct.Proofs.Extension
import Reduct.Proofs.FailedWrite
import Reduct.Proofs.Finality
import Reduct.Proofs.Forwarding
import Reduct.Proofs.Grammar
import Reduct.Proofs.Invocation
import Reduct.Proofs.Isolation
import Reduct.Proofs.JsonScalar
import Reduct.Proofs.JsonText
import Reduct.Proofs.Leader
import Reduct.Proofs.Ledger
import Reduct.Proofs.LeftFold
import Reduct.Proofs.LexicalRule
import Reduct.Proofs.ListBounds
import Reduct.Proofs.ListElements
import Reduct.Proofs.ListFunctions
import Reduct.Proofs.Literal
import Reduct.Proofs.Lookup
import Reduct.Proofs.Mapping
import Reduct.Proofs.Metering
import Reduct.Proofs.NearestDouble
import Reduct.Proofs.NestedCalls
import Reduct.Proofs.NullResults
import Reduct.Proofs.NumberToken
import Reduct.Proofs.Packing
import Reduct.Proofs.PartialApplication
import Reduct.Proofs.Preflight
import Reduct.Proofs.RadixText
import Reduct.Proofs.Reduction
import Reduct.Proofs.Resemblance
import Reduct.Proofs.Rounding
import Reduct.Proofs.Run
import Reduct.Proofs.Sandbox
import Reduct.Proofs.Scanning
import Reduct.Proofs.Schedule
import Reduct.Proofs.Segments
import Reduct.Proofs.Series
import Reduct.Proofs.Shadowing
import Reduct.Proofs.SiblingOrder
import Reduct.Proofs.Sorting
import Reduct.Proofs.SourceRoundTrip
import Reduct.Proofs.SourceText
import Reduct.Proofs.StepCount
import Reduct.Proofs.Steps
import Reduct.Proofs.StoredPaths
import Reduct.Proofs.StringLiteral
import Reduct.Proofs.StructuralEquality
import Reduct.Proofs.Substitution
import Reduct.Proofs.Suspension
import Reduct.Proofs.Tariff
import Reduct.Proofs.Termination
import Reduct.Proofs.Transparency
import Reduct.Proofs.UnknownNames
import Reduct.Proofs.Unlimited
import Reduct.Proofs.Visits
import Reduct.Proofs.Walk
import Reduct.Proofs.Watch
import Reduct.Proofs.Weight
import Reduct.Proofs.WholeNumber
import Reduct.Proofs.WireText
import Reduct.RandomStream
import Reduct.Reduction
import Reduct.Scope
import Reduct.Session
import Reduct.Settings
import Reduct.Signature
import Reduct.Standard
import Reduct.Standard.Argument
import Reduct.Standard.Arithmetic
import Reduct.Standard.Caster
import Reduct.Standard.Clock
import Reduct.Standard.Closure
import Reduct.Standard.Constant
import Reduct.Standard.Control
import Reduct.Standard.Definition
import Reduct.Standard.Hash
import Reduct.Standard.Listing
import Reduct.Standard.Store
import Reduct.Standard.Wording
import Reduct.Storage
import Reduct.Text.Age
import Reduct.Text.Base64
import Reduct.Text.Blank
import Reduct.Text.Break
import Reduct.Text.Case
import Reduct.Text.Category
import Reduct.Text.CharSet
import Reduct.Text.Class
import Reduct.Text.Digit
import Reduct.Text.Folding
import Reduct.Text.Normal
import Reduct.Text.Property
import Reduct.Text.Punycode
import Reduct.Text.Quoted
import Reduct.Text.Ranges
import Reduct.Text.Script
import Reduct.Text.Split
import Reduct.Text.Utf8
import Reduct.Token
import Reduct.Token.Rule
import Reduct.Token.Scan
import Reduct.Url.Address
import Reduct.Url.Direction
import Reduct.Url.Domain
import Reduct.Url.Fault
import Reduct.Url.Host
import Reduct.Url.Joining
import Reduct.Url.Mapping
import Reduct.World
