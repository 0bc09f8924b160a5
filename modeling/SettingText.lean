import SettingText.Calendar.Clock
import SettingText.Calendar.Date
import SettingText.Calendar.Iso
import SettingText.Calendar.Moment
import SettingText.Calendar.Region
import SettingText.Calendar.Regions
import SettingText.Calendar.Span
import SettingText.Classes.Builtin
import SettingText.Classes.Making
import SettingText.Classes.Own
import SettingText.Classes.Ref
import SettingText.Classes.Standard
import SettingText.Classes.Universe
import SettingText.Command.Arguments
import SettingText.Command.Help
import SettingText.Command.Program
import SettingText.Command.Run
import SettingText.Config.Discovery
import SettingText.Config.Equipment
import SettingText.Config.Settings
import SettingText.Config.Source
import SettingText.Converter.Basic
import SettingText.Converter.Convert
import SettingText.Datum.Basic
import SettingText.Datum.Canonical
import SettingText.Datum.Equality
import SettingText.Datum.Map
import SettingText.Datum.Plain
import SettingText.Datum.Shown
import SettingText.Datum.Tagged
import SettingText.Editor.Basic
import SettingText.Editor.Duration
import SettingText.Entries.Lookup
import SettingText.Fault.Cause
import SettingText.Fault.Conversion
import SettingText.Fault.Kind
import SettingText.FileTree
import SettingText.Fragment.Split
import SettingText.Journal.Layout
import SettingText.Journal.Pattern
import SettingText.Journal.Record
import SettingText.Json.Reader
import SettingText.Json.Token
import SettingText.Json.Value
import SettingText.Json.Writer
import SettingText.LogLevel
import SettingText.Main
import SettingText.Network.Address
import SettingText.Network.Uri
import SettingText.Number.Binary64
import SettingText.Number.Complex
import SettingText.Number.Decimal
import SettingText.Number.Fraction
import SettingText.Number.Literal
import SettingText.Number.Places
import SettingText.Number.Shortest
import SettingText.Outcome.Basic
import SettingText.Outcome.Report
import SettingText.Outcome.Validate
import SettingText.Outcome.Wrap
import SettingText.PathName
import SettingText.Plugin.Basic
import SettingText.Plugin.Manager
import SettingText.Proofs.Command.Flags
import SettingText.Proofs.Config.Loading
import SettingText.Proofs.Config.Merging
import SettingText.Proofs.Config.Variables
import SettingText.Proofs.Converter.Clash
import SettingText.Proofs.Converter.Ensures
import SettingText.Proofs.Converter.Entries
import SettingText.Proofs.Converter.Outcome
import SettingText.Proofs.Converter.Own
import SettingText.Proofs.Converter.Single
import SettingText.Proofs.Converter.Steady
import SettingText.Proofs.Converter.Unnumbered
import SettingText.Proofs.Datum.Equality
import SettingText.Proofs.Datum.Lookup
import SettingText.Proofs.Datum.Plain
import SettingText.Proofs.Except
import SettingText.Proofs.Expression.Spelling
import SettingText.Proofs.Expression.Tree
import SettingText.Proofs.Fragment.Escape
import SettingText.Proofs.Fragment.Image
import SettingText.Proofs.Fragment.Scan
import SettingText.Proofs.Meaning.Absence
import SettingText.Proofs.Meaning.Assembly
import SettingText.Proofs.Meaning.Basic
import SettingText.Proofs.Meaning.Kind
import SettingText.Proofs.Meaning.Leaf
import SettingText.Proofs.Meaning.Soundness
import SettingText.Proofs.Nesting.Attribution
import SettingText.Proofs.Nesting.Basic
import SettingText.Proofs.Nesting.Image
import SettingText.Proofs.Nesting.Pieces
import SettingText.Proofs.Nesting.RoundTrip
import SettingText.Proofs.Plugin.Applied
import SettingText.Proofs.Plugin.Isolation
import SettingText.Proofs.Plugin.Visibility
import SettingText.Proofs.Registry.Catalogue
import SettingText.Proofs.Registry.Coherence
import SettingText.Proofs.Registry.Hierarchy
import SettingText.Proofs.Registry.Memoization
import SettingText.Proofs.Registry.Missing
import SettingText.Proofs.Registry.Reached
import SettingText.Proofs.Registry.Session
import SettingText.Proofs.Registry.Standard
import SettingText.Proofs.Registry.Used
import SettingText.Registry.Basic
import SettingText.Registry.Recipe
import SettingText.Registry.Resolve
import SettingText.Sample.Classes
import SettingText.Sample.Plugins
import SettingText.Setting
import SettingText.Text.Blank
import SettingText.Text.Case
import SettingText.Text.Cell
import SettingText.Text.Cluster
import SettingText.Text.CodePoint
import SettingText.Text.Digit
import SettingText.Text.Printable
import SettingText.Text.Quoted
import SettingText.Text.Sigma
import SettingText.Text.Similar
import SettingText.Text.Terminal
import SettingText.Text.Word
import SettingText.Toml.Reader
import SettingText.Toml.Scalar
import SettingText.Toml.Table
import SettingText.Toml.Text
import SettingText.Toml.Value
import SettingText.Types.Descriptor
import SettingText.Types.Expression
import SettingText.Types.Form
import SettingText.Types.Subscription
import SettingText.Types.Token
import SettingText.Uuid
import SettingText.Validation.Basic
import SettingText.Proofs.Expression.Beginning
import SettingText.Proofs.Expression.Reading
import SettingText.Proofs.Expression.Rendering
import SettingText.Proofs.Expression.Grammar
import SettingText.Proofs.Expression.Faults
import SettingText.Proofs.Registry.Locality
import SettingText.Proofs.Registry.Lookup
import SettingText.Proofs.Converter.Confined
import SettingText.Proofs.Registry.Confinement
import SettingText.Proofs.Converter.Provenance
import SettingText.Proofs.Converter.Gathering
import SettingText.Proofs.Converter.Independent
import SettingText.Proofs.Datum.Hashable
import SettingText.Proofs.Registry.Handled
import SettingText.Proofs.Registry.Provenance
import SettingText.Proofs.Registry.Shapes
import SettingText.Proofs.Registry.Stumbling
import SettingText.Proofs.Types.Made
import SettingText.Proofs.Types.Written
import SettingText.Proofs.Types.RoundTrip
import SettingText.Proofs.Datum.Table
import SettingText.Proofs.Types.Congruence
import SettingText.Proofs.Datum.Members
import SettingText.Proofs.Registry.Members
import SettingText.Proofs.Plugin.Overlay
import SettingText.Proofs.Text.Run
import SettingText.Proofs.Network.Authority
import SettingText.Proofs.Network.Reference
import SettingText.Proofs.Duration.Grammar
import SettingText.Proofs.Number.Literal
import SettingText.Proofs.Number.Whole
import SettingText.Proofs.Duration.Acceptance
import SettingText.Proofs.Calendar.Date
import SettingText.Proofs.Calendar.Instant
import SettingText.Proofs.Calendar.Octets
import SettingText.Proofs.Calendar.Iso
import SettingText.Proofs.Calendar.Read
import SettingText.Proofs.Calendar.Zoned
import SettingText.Proofs.Calendar.Recorded
import SettingText.Proofs.Entries.Canonical
import SettingText.Proofs.Registry.Tuples
import SettingText.Proofs.FileTree
import SettingText.Proofs.Config.Discovery
