import Whereabouts.Check.Audit
import Whereabouts.Check.Clock
import Whereabouts.Check.Lifecycle
import Whereabouts.Check.Sweep
import Whereabouts.Command.Arguments
import Whereabouts.Command.Checks
import Whereabouts.Command.Host
import Whereabouts.Command.Inspection
import Whereabouts.Command.Program
import Whereabouts.Command.Report
import Whereabouts.Disk.Basic
import Whereabouts.Disk.Path
import Whereabouts.Disk.Tree
import Whereabouts.Domain.Expansions
import Whereabouts.Domain.Label
import Whereabouts.Domain.Mapping
import Whereabouts.Domain.Name
import Whereabouts.Domain.Punycode
import Whereabouts.Domain.Refused
import Whereabouts.Domain.Variants
import Whereabouts.Double
import Whereabouts.Fault
import Whereabouts.FileIndex.Basic
import Whereabouts.FileIndex.Survey
import Whereabouts.Instant.Basic
import Whereabouts.Instant.Printer
import Whereabouts.Instant.Reader
import Whereabouts.Json.Basic
import Whereabouts.Json.Bounds
import Whereabouts.Json.Fields
import Whereabouts.Json.Printer
import Whereabouts.Json.Reader
import Whereabouts.Main
import Whereabouts.OrderedMap
import Whereabouts.Reconcile.Attribution
import Whereabouts.Reconcile.Bench
import Whereabouts.Reconcile.Pass
import Whereabouts.Reconcile.Provenance
import Whereabouts.Reconcile.Verdict
import Whereabouts.Records.Check
import Whereabouts.Records.Database
import Whereabouts.Records.Item
import Whereabouts.Records.Location
import Whereabouts.Records.Project
import Whereabouts.Remote.Connection
import Whereabouts.Remote.Gateway
import Whereabouts.Remote.Host
import Whereabouts.Remote.Url
import Whereabouts.Remote.Wire
import Whereabouts.RemotePath
import Whereabouts.Settings.Basic
import Whereabouts.Settings.Load
import Whereabouts.Settings.Paths
import Whereabouts.Settings.Validity
import Whereabouts.Settings.Variables
import Whereabouts.Storage.Basic
import Whereabouts.Storage.Directory
import Whereabouts.Storage.Script
import Whereabouts.Store.File
import Whereabouts.Store.Session
import Whereabouts.Store.Vault
import Whereabouts.Text.Alphanumeric
import Whereabouts.Text.Blank
import Whereabouts.Text.CombiningClass
import Whereabouts.Text.Composed
import Whereabouts.Text.Composite
import Whereabouts.Text.Decimal
import Whereabouts.Text.Digit
import Whereabouts.Text.Direction
import Whereabouts.Text.Hexadecimal
import Whereabouts.Text.Joining
import Whereabouts.Text.Mark
import Whereabouts.Text.Percent
import Whereabouts.Text.Pieces
import Whereabouts.Text.Quoted
import Whereabouts.Text.Ranges
import Whereabouts.Text.Shortened
import Whereabouts.Text.Unprintable
import Whereabouts.Toml.Basic
import Whereabouts.Toml.Reader
import Whereabouts.Toml.Scalar
import Whereabouts.Variables.File
import Whereabouts.Variables.Mentions
import Whereabouts.Proofs.Items
import Whereabouts.Proofs.Pending
import Whereabouts.Proofs.Bookkeeping
import Whereabouts.Proofs.Surroundings
import Whereabouts.Proofs.Lockstep
import Whereabouts.Proofs.CheckerLockstep
import Whereabouts.Proofs.Findings
import Whereabouts.Proofs.Sweep
import Whereabouts.Proofs.Accounting
import Whereabouts.Proofs.MemoryWorld
import Whereabouts.Proofs.Caches
import Whereabouts.Proofs.Settling
import Whereabouts.Proofs.Rerun
import Whereabouts.Proofs.Relocation
import Whereabouts.Proofs.Histories
import Whereabouts.Proofs.CheckSteps
import Whereabouts.Proofs.Exchanges
import Whereabouts.Proofs.PassEffects
import Whereabouts.Proofs.JustifiedChanges
import Whereabouts.Proofs.Frame
import Whereabouts.Proofs.Progress
import Whereabouts.Proofs.Timeless
import Whereabouts.Proofs.Clockless
import Whereabouts.Proofs.Batches
import Whereabouts.Proofs.Order
import Whereabouts.Proofs.Starts
import Whereabouts.Proofs.CommandOrder
import Whereabouts.Proofs.FileIndex
import Whereabouts.Proofs.Walks
import Whereabouts.Proofs.Paging
import Whereabouts.Proofs.Endings
import Whereabouts.Proofs.Milestones
import Whereabouts.Proofs.Rereading
import Whereabouts.Proofs.Timestamps
import Whereabouts.Proofs.Documents
import Whereabouts.Proofs.StoreFiles
import Whereabouts.Proofs.FileVaults
import Whereabouts.Proofs.Refusals
import Whereabouts.Proofs.Confines
import Whereabouts.Proofs.RemoteWork
import Whereabouts.Proofs.RemoteWorkOnce
import Whereabouts.Proofs.Observation
import Whereabouts.Proofs.PassPlan
import Whereabouts.Proofs.RelocationTargets
import Whereabouts.Proofs.Encoding
import Whereabouts.Proofs.Addresses
import Whereabouts.Proofs.Destinations
import Whereabouts.Proofs.Mirrors
import Whereabouts.Proofs.Spellings
import Whereabouts.Proofs.Rulings
import Whereabouts.Proofs.EncodedPaths
import Whereabouts.Proofs.Repairs
import Whereabouts.Proofs.Failures
import Whereabouts.Proofs.Attributions
import Whereabouts.Proofs.Staging
import Whereabouts.Proofs.Fates
import Whereabouts.Proofs.Setups
import Whereabouts.Proofs.Ids
import Whereabouts.Proofs.Assemblies
import Whereabouts.Proofs.Patterns
import Whereabouts.Proofs.Mentions
import Whereabouts.Proofs.Variables
import Whereabouts.Proofs.Layers
