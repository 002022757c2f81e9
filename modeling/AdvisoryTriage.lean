import AdvisoryTriage.Checker
import AdvisoryTriage.Cpe.Basic
import AdvisoryTriage.Cpe.Binding
import AdvisoryTriage.Cpe.Component
import AdvisoryTriage.Cpe.Json
import AdvisoryTriage.Cpe.Matching
import AdvisoryTriage.Diagnostic
import AdvisoryTriage.Error
import AdvisoryTriage.Feed.Basic
import AdvisoryTriage.Feed.Edit
import AdvisoryTriage.Feed.Json
import AdvisoryTriage.Index
import AdvisoryTriage.Json.Fields
import AdvisoryTriage.Json.Reader
import AdvisoryTriage.Json.Token
import AdvisoryTriage.Json.Value
import AdvisoryTriage.Json.Writer
import AdvisoryTriage.Keyed
import AdvisoryTriage.Logging.Level
import AdvisoryTriage.Logging.Setup
import AdvisoryTriage.Logging.Subscriber
import AdvisoryTriage.Logging.Trace
import AdvisoryTriage.Oracle
import AdvisoryTriage.Package.Basic
import AdvisoryTriage.Package.Json
import AdvisoryTriage.Package.Order
import AdvisoryTriage.Package.Specifier
import AdvisoryTriage.Proofs.Checker.Decision
import AdvisoryTriage.Proofs.Checker.Division
import AdvisoryTriage.Proofs.Checker.Rules
import AdvisoryTriage.Proofs.Cpe.Components
import AdvisoryTriage.Proofs.Cpe.Encoding
import AdvisoryTriage.Proofs.Cpe.Language
import AdvisoryTriage.Proofs.Cpe.Matching
import AdvisoryTriage.Proofs.Cpe.Printed
import AdvisoryTriage.Proofs.Cpe.RoundTrip
import AdvisoryTriage.Proofs.Cpe.Scan
import AdvisoryTriage.Proofs.Cpe.Uri
import AdvisoryTriage.Proofs.Cpe.Wildcard
import AdvisoryTriage.Proofs.Cpe.Written
import AdvisoryTriage.Proofs.Feed.Documents
import AdvisoryTriage.Proofs.Index
import AdvisoryTriage.Proofs.Json.Grammar
import AdvisoryTriage.Proofs.Json.Objects
import AdvisoryTriage.Proofs.Json.Reading
import AdvisoryTriage.Proofs.Package.Grammar
import AdvisoryTriage.Proofs.Package.Order
import AdvisoryTriage.Proofs.Package.Reading
import AdvisoryTriage.Proofs.Package.RoundTrip
import AdvisoryTriage.Proofs.Resolver.Answer
import AdvisoryTriage.Proofs.Resolver.Failure
import AdvisoryTriage.Proofs.Resolver.FixedBuild
import AdvisoryTriage.Proofs.Resolver.FullScan
import AdvisoryTriage.Proofs.Resolver.Growth
import AdvisoryTriage.Proofs.Resolver.Relevance
import AdvisoryTriage.Proofs.Resolver.Session
import AdvisoryTriage.Proofs.Settings.Environment
import AdvisoryTriage.Proofs.Settings.Statements
import AdvisoryTriage.Proofs.Steps
import AdvisoryTriage.Proofs.Text.LowerCase
import AdvisoryTriage.Proofs.Text.Pass
import AdvisoryTriage.Proofs.Version.Cursors
import AdvisoryTriage.Proofs.Version.Digits
import AdvisoryTriage.Proofs.Version.Marks
import AdvisoryTriage.Proofs.Version.Tokens
import AdvisoryTriage.Resolver
import AdvisoryTriage.Settings.Basic
import AdvisoryTriage.Settings.Reader
import AdvisoryTriage.Text.Blank
import AdvisoryTriage.Text.Cased
import AdvisoryTriage.Text.LowerCase
import AdvisoryTriage.Text.Quoted
import AdvisoryTriage.Text.Ranges
import AdvisoryTriage.Text.Replace
import AdvisoryTriage.Text.Split
import AdvisoryTriage.Text.Utf8
import AdvisoryTriage.Toml.Blank
import AdvisoryTriage.Toml.DateTime
import AdvisoryTriage.Toml.Key
import AdvisoryTriage.Toml.Number
import AdvisoryTriage.Toml.Reader
import AdvisoryTriage.Toml.Text
import AdvisoryTriage.Toml.Value
import AdvisoryTriage.Version.Order
