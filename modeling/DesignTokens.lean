import DesignTokens.Action
import DesignTokens.Binary64
import DesignTokens.Binary64.Arithmetic
import DesignTokens.Binary64.Shortest
import DesignTokens.Calendar
import DesignTokens.CommandLine
import DesignTokens.CommandLine.Options
import DesignTokens.Content
import DesignTokens.Csv
import DesignTokens.Cycle
import DesignTokens.Datum
import DesignTokens.Datum.Agreement
import DesignTokens.Datum.Literal
import DesignTokens.Duplicate
import DesignTokens.Entries
import DesignTokens.Event
import DesignTokens.Files
import DesignTokens.Graph
import DesignTokens.Json.Lexeme
import DesignTokens.Json.Printer
import DesignTokens.Json.Reader
import DesignTokens.Main
import DesignTokens.Numeral
import DesignTokens.Reference
import DesignTokens.Report
import DesignTokens.Report.Csv
import DesignTokens.Report.Json
import DesignTokens.Report.Plain
import DesignTokens.Report.Screen
import DesignTokens.Resolution
import DesignTokens.Resolution.Machine
import DesignTokens.Resolver
import DesignTokens.Screen
import DesignTokens.Session
import DesignTokens.Settings
import DesignTokens.Settings.Sources
import DesignTokens.Status
import DesignTokens.Text.Base64
import DesignTokens.Text.Blank
import DesignTokens.Text.Decoding
import DesignTokens.Text.Digit
import DesignTokens.Text.Emoji
import DesignTokens.Text.Emoji.Names
import DesignTokens.Text.Markup
import DesignTokens.Text.Pattern
import DesignTokens.Text.Printable
import DesignTokens.Text.Quoted
import DesignTokens.Text.Surrogate
import DesignTokens.Timestamp
import DesignTokens.TokenFile
import DesignTokens.Tree
import DesignTokens.Value
import DesignTokens.Value.Agreement
import DesignTokens.Value.Key
import DesignTokens.Value.Location
import DesignTokens.Yaml.Data
import DesignTokens.Yaml.Failure
import DesignTokens.Yaml.Kind
import DesignTokens.Yaml.Lexeme
import DesignTokens.Yaml.Node
import DesignTokens.Yaml.Number
import DesignTokens.Yaml.Scalar
import DesignTokens.Yaml.Time
import DesignTokens.Proofs.Graph.Reachability
import DesignTokens.Proofs.Graph.Walk
import DesignTokens.Proofs.Graph.Dangling
import DesignTokens.Proofs.Entries.Overlay
import DesignTokens.Proofs.Graph.Layers
import DesignTokens.Proofs.Graph.Pruned
import DesignTokens.Proofs.Cycle.Search
import DesignTokens.Proofs.Cycle.Complete
import DesignTokens.Proofs.Cycle.Distinct
import DesignTokens.Proofs.Cycle.Pruned
import DesignTokens.Proofs.Resolution.Rule
import DesignTokens.Proofs.Resolution.Chain
import DesignTokens.Proofs.Resolution.Cache
import DesignTokens.Proofs.Resolution.Simulation
import DesignTokens.Proofs.Value.WellKeyed
import DesignTokens.Proofs.Value.Substitution
import DesignTokens.Proofs.Value.Place
import DesignTokens.Proofs.Value.Scan
import DesignTokens.Proofs.Value.Sites
import DesignTokens.Proofs.Tree.Walk
import DesignTokens.Proofs.Tree.Children
import DesignTokens.Proofs.Tree.Lookup
import DesignTokens.Proofs.Content
import DesignTokens.Proofs.Content.Classes
import DesignTokens.Proofs.Graph.Built
import DesignTokens.Proofs.Resolution.Built
import DesignTokens.Proofs.Resolution.Local
import DesignTokens.Proofs.Resolution.Dereferenced
import DesignTokens.Proofs.Resolution.Redeclared
import DesignTokens.Proofs.Resolution.Faultless
import DesignTokens.Proofs.Resolver.Answers
import DesignTokens.Proofs.Resolver.Calls
import DesignTokens.Proofs.Resolver.Cache
import DesignTokens.Proofs.Resolver.History
import DesignTokens.Proofs.Resolver.Growth
import DesignTokens.Proofs.Resolver.Again
import DesignTokens.Proofs.Resolver.Serving
import DesignTokens.Proofs.Duplicate
import DesignTokens.Proofs.Session.Run
import DesignTokens.Proofs.Report.Coherent
import DesignTokens.Proofs.Report.Writable
import DesignTokens.Proofs.Json.Reader
import DesignTokens.Proofs.Json.Writable
import DesignTokens.Proofs.Session.Loading
import DesignTokens.Proofs.Session.Calls
import DesignTokens.Proofs.Session.Faultless
import DesignTokens.Proofs.Duplicate.Classes
import DesignTokens.Proofs.CommandLine.Written
import DesignTokens.Proofs.CommandLine.Gates
import DesignTokens.Proofs.Duplicate.Distinct
import DesignTokens.Proofs.Duplicate.Values
import DesignTokens.Proofs.Resolver.Reordered
import DesignTokens.Proofs.Duplicate.Searches
import DesignTokens.Proofs.Json.Lexeme
import DesignTokens.Proofs.Json.RoundTrip
import DesignTokens.Proofs.Report.Transcript
import DesignTokens.Proofs.Csv.Reader
import DesignTokens.Proofs.Report.Rows
import DesignTokens.Proofs.Value.Reordered
import DesignTokens.Proofs.Reference
import DesignTokens.Proofs.Files
import DesignTokens.Proofs.Fold
import DesignTokens.Proofs.Json.LongInteger
import DesignTokens.Proofs.TokenFile
import DesignTokens.Proofs.Settings.Overrides
import DesignTokens.Proofs.Settings.Sources
import DesignTokens.Proofs.Settings.Composition
import DesignTokens.Proofs.Value.Lens
