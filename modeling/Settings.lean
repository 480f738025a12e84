import Settings.Text.Blank
import Settings.Text.CellWidth
import Settings.Text.DecimalDigit
import Settings.Text.Lower
import Settings.Text.Printable
import Settings.Value
import Settings.Json.Printer
import Settings.Json.Reader
import Settings.FileTree
import Settings.OrderedMap
import Settings.Text.Utf8
import Settings.Duration
import Settings.Entry
import Settings.Log.Level
import Settings.Store.Basic
import Settings.Store.Request
import Settings.Properties.Statement
import Settings.Properties.Reader
import Settings.Environment
import Settings.Session
import Settings.Log.Root
import Settings.Terminal.Markup
import Settings.Terminal.Table
import Settings.Cli.Arguments
import Settings.Main
import Settings.Proofs.Number.Numeral
import Settings.Proofs.Store.History
import Settings.Proofs.Store.Effect
import Settings.Proofs.Store.Contents
import Settings.Proofs.Store.Warnings
import Settings.Proofs.Store.RoundTrip
import Settings.Proofs.Store.Refusal
import Settings.Proofs.Store.Resolution
import Settings.Proofs.Store.Migration
import Settings.Proofs.Duration.Grammar
import Settings.Proofs.Properties.Loading
import Settings.Proofs.Deprecation.Building
import Settings.Proofs.Deprecation.Freezing
import Settings.Proofs.Deprecation.Reverse
import Settings.Proofs.Duration.Overlong
import Settings.Proofs.Duration.Arithmetic
import Settings.Proofs.Store.Taxonomy
import Settings.Proofs.Store.Clients
import Settings.Proofs.Store.Linear
import Settings.Proofs.Store.Seeding
import Settings.Proofs.Store.Defaults
import Settings.Proofs.Store.Gaps
import Settings.Proofs.Store.Copies
import Settings.Proofs.Cli.Getting
import Settings.Proofs.Store.Interchange
import Settings.Proofs.Store.Lookups
import Settings.Proofs.Properties.Locating
import Settings.Proofs.Log.Lines
import Settings.Proofs.Log.Setup
import Settings.Proofs.Properties.Decoding
import Settings.Proofs.Terminal.Markup
import Settings.Proofs.Terminal.Lines
import Settings.Proofs.Cli.Messages
import Settings.Proofs.Cli.Records
import Settings.Proofs.Terminal.Escape
import Settings.Proofs.Terminal.Table
import Settings.Proofs.Cli.Listing
