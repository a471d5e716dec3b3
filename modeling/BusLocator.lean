import BusLocator.CommandLine.Grammar
import BusLocator.CommandLine.Help
import BusLocator.CommandLine.Invocation
import BusLocator.CommandLine.Values
import BusLocator.Decimal.Binary64
import BusLocator.Decimal.Shortest
import BusLocator.Diagnostic
import BusLocator.EnvironmentFile
import BusLocator.EnvironmentFile.Binding
import BusLocator.EnvironmentFile.Line
import BusLocator.FileSystem
import BusLocator.FileTree
import BusLocator.Host
import BusLocator.Installation.Basic
import BusLocator.Installation.Descriptor
import BusLocator.Installation.Search
import BusLocator.Json.Basic
import BusLocator.Json.Error
import BusLocator.Json.Reader
import BusLocator.Json.Skim
import BusLocator.Json.Writer
import BusLocator.Locator
import BusLocator.Locator.Report
import BusLocator.Locator.Session
import BusLocator.Main
import BusLocator.Network
import BusLocator.Participant
import BusLocator.Path.Basic
import BusLocator.Path.Normal
import BusLocator.Platform
import BusLocator.Program
import BusLocator.Program.Footprint
import BusLocator.Settings
import BusLocator.Settings.Reader
import BusLocator.Template
import BusLocator.Template.Placeholder
import BusLocator.Template.Reference
import BusLocator.Text.AlphanumericTable
import BusLocator.Text.Character
import BusLocator.Text.Edit
import BusLocator.Text.Quoted
import BusLocator.Text.Terminal
import BusLocator.Text.Utf8
import BusLocator.Text.VisibleTable
import BusLocator.Text.WordTable
import BusLocator.Proofs.Search.Candidates
import BusLocator.Proofs.Locator.Answer
import BusLocator.Proofs.Session.Memory
import BusLocator.Proofs.Template.Precedence
import BusLocator.Proofs.Search.Revalidation
import BusLocator.Proofs.Text.Replacement
import BusLocator.Proofs.Template.Segments
import BusLocator.Proofs.Template.Identity
import BusLocator.Proofs.Path.Components
import BusLocator.Proofs.Search.Descriptor
import BusLocator.Proofs.Session.Verbosity
import BusLocator.Proofs.FileTree.Entries
import BusLocator.Proofs.Search.Growth
import BusLocator.Proofs.Path.Tidy
import BusLocator.Proofs.Locator.Spelling
import BusLocator.Proofs.Session.Isolation
import BusLocator.Proofs.Json.Fields
import BusLocator.Proofs.Json.Locality
import BusLocator.Proofs.Json.Spelling
import BusLocator.Proofs.Json.RoundTrip
import BusLocator.Proofs.Json.Shape
import BusLocator.Proofs.Network.RoundTrip
import BusLocator.Proofs.Path.Location
import BusLocator.Proofs.Path.Joining
import BusLocator.Proofs.Search.Layout
import BusLocator.Proofs.Json.Numbers
import BusLocator.Proofs.Program.Node
import BusLocator.Proofs.Path.Sameness
import BusLocator.Proofs.Search.SearchPath
import BusLocator.Proofs.Template.Expansion
import BusLocator.Proofs.Template.Substitution
import BusLocator.Proofs.Text.Encoding
import BusLocator.Proofs.Network.Acceptance
import BusLocator.Proofs.Template.Home
import BusLocator.Proofs.Template.Platforms
import BusLocator.Proofs.CommandLine.Framing
import BusLocator.Proofs.Program.Anchor
import BusLocator.Proofs.Path.Ancestors
import BusLocator.Proofs.FileTree.Shape
