import ServiceLifecycle.Bootstrap
import ServiceLifecycle.Broker.Construction
import ServiceLifecycle.Broker.Event
import ServiceLifecycle.Broker.Lifecycle
import ServiceLifecycle.Broker.Phases
import ServiceLifecycle.Broker.Services
import ServiceLifecycle.Broker.Store
import ServiceLifecycle.Component.Basic
import ServiceLifecycle.Component.Script
import ServiceLifecycle.Configuration.Basic
import ServiceLifecycle.Configuration.InMemory
import ServiceLifecycle.Configuration.Properties
import ServiceLifecycle.Decimal.Notation
import ServiceLifecycle.Decimal.Shortest
import ServiceLifecycle.Deployment.Basic
import ServiceLifecycle.Deployment.Codec
import ServiceLifecycle.Deployment.Validation
import ServiceLifecycle.Diagnostics
import ServiceLifecycle.Entries
import ServiceLifecycle.Fault
import ServiceLifecycle.Host.Announcement
import ServiceLifecycle.Host.Arguments
import ServiceLifecycle.Logging.Directive
import ServiceLifecycle.Logging.Filter
import ServiceLifecycle.Logging.Settings
import ServiceLifecycle.Logging.Setup
import ServiceLifecycle.Logging.Threshold
import ServiceLifecycle.Main
import ServiceLifecycle.Mapping
import ServiceLifecycle.Pattern.Class
import ServiceLifecycle.Pattern.Group
import ServiceLifecycle.Pattern.Height
import ServiceLifecycle.Pattern.Item
import ServiceLifecycle.Pattern.Mode
import ServiceLifecycle.Registry
import ServiceLifecycle.Source.Files
import ServiceLifecycle.Source.Loader
import ServiceLifecycle.Source.Merge
import ServiceLifecycle.Source.Path
import ServiceLifecycle.Source.Surroundings
import ServiceLifecycle.Source.VariableValue
import ServiceLifecycle.Source.Variables
import ServiceLifecycle.StartupData
import ServiceLifecycle.Text.Alphanumeric
import ServiceLifecycle.Text.Blank
import ServiceLifecycle.Text.Bytes
import ServiceLifecycle.Text.Hexadecimal
import ServiceLifecycle.Text.Quoted
import ServiceLifecycle.Text.Shown
import ServiceLifecycle.Toml.Document
import ServiceLifecycle.Toml.Lexis
import ServiceLifecycle.Toml.Moment
import ServiceLifecycle.Toml.Number
import ServiceLifecycle.Value.Annotation
import ServiceLifecycle.Value.Basic
import ServiceLifecycle.Value.Decoding
import ServiceLifecycle.Value.Printer
import ServiceLifecycle.Value.Reader
import ServiceLifecycle.Proofs.Broker.Calls
import ServiceLifecycle.Proofs.Broker.Construction
import ServiceLifecycle.Proofs.Broker.Moves
import ServiceLifecycle.Proofs.Broker.Simulation
import ServiceLifecycle.Proofs.Broker.Underway
import ServiceLifecycle.Proofs.Broker.InProgress
import ServiceLifecycle.Proofs.Broker.DependencyStack
import ServiceLifecycle.Proofs.Broker.FailureRecord
import ServiceLifecycle.Proofs.Broker.Readiness
import ServiceLifecycle.Proofs.Broker.Caching
import ServiceLifecycle.Proofs.Broker.Instances
import ServiceLifecycle.Proofs.Broker.Reentry
import ServiceLifecycle.Proofs.Broker.Shutdown
import ServiceLifecycle.Proofs.Startup.Graph
import ServiceLifecycle.Proofs.Startup.Search
import ServiceLifecycle.Proofs.Startup.Tracking
import ServiceLifecycle.Proofs.Startup.DepthFirst
import ServiceLifecycle.Proofs.Startup.EarlyCall
import ServiceLifecycle.Proofs.Startup.BulkStart
import ServiceLifecycle.Proofs.Resolution.Ledger
import ServiceLifecycle.Proofs.Resolution.Bookkeeping
import ServiceLifecycle.Proofs.Resolution.FirstNeed
import ServiceLifecycle.Proofs.Resolution.CallSequence
import ServiceLifecycle.Proofs.Broker.Poison
import ServiceLifecycle.Proofs.Locality.Footprint
import ServiceLifecycle.Proofs.Locality.Agreement
import ServiceLifecycle.Proofs.Locality.Twins
import ServiceLifecycle.Proofs.Locality.Operations
import ServiceLifecycle.Proofs.Locality.Balance
import ServiceLifecycle.Proofs.Locality.Poise
import ServiceLifecycle.Proofs.Startup.Termination
import ServiceLifecycle.Proofs.Broker.Deeds
import ServiceLifecycle.Proofs.Broker.Constancy
import ServiceLifecycle.Proofs.Broker.Registration
import ServiceLifecycle.Proofs.Broker.RegistrationHistory
import ServiceLifecycle.Proofs.Startup.Completion
import ServiceLifecycle.Proofs.Startup.Notices
import ServiceLifecycle.Proofs.Startup.FirstFailure
import ServiceLifecycle.Proofs.Diagnostics.Delivery
import ServiceLifecycle.Proofs.Diagnostics.Stream
import ServiceLifecycle.Proofs.Diagnostics.DroppedCount
import ServiceLifecycle.Proofs.Bootstrap.Stages
import ServiceLifecycle.Proofs.Bootstrap.DeclaredMapping
import ServiceLifecycle.Proofs.Bootstrap.Reports
import ServiceLifecycle.Proofs.Deployment.Sections
import ServiceLifecycle.Proofs.Source.BareSurroundings
import ServiceLifecycle.Proofs.Bootstrap.ConfigurationService
import ServiceLifecycle.Proofs.Bootstrap.ServedConfiguration
import ServiceLifecycle.Proofs.Bootstrap.ProvidedSections
import ServiceLifecycle.Proofs.Configuration.InMemorySections
import ServiceLifecycle.Proofs.Racing.Threads
import ServiceLifecycle.Proofs.Racing.Accounts
import ServiceLifecycle.Proofs.Racing.CriticalSection
import ServiceLifecycle.Proofs.Racing.FirstAccess
import ServiceLifecycle.Proofs.Racing.Alone
import ServiceLifecycle.Proofs.Fault.Chain
import ServiceLifecycle.Proofs.Broker.Replay
import ServiceLifecycle.Proofs.Broker.Solitude
import ServiceLifecycle.Proofs.Broker.ShutdownOrder
import ServiceLifecycle.Proofs.Broker.Propagation
import ServiceLifecycle.Proofs.Locality.Past
import ServiceLifecycle.Proofs.Broker.Refusal
import ServiceLifecycle.Proofs.Configuration.DottedPaths
import ServiceLifecycle.Proofs.Entries.Ascending
import ServiceLifecycle.Proofs.Configuration.DistinctKeys
import ServiceLifecycle.Proofs.Deployment.FirstOffence
import ServiceLifecycle.Proofs.Configuration.JsonText
import ServiceLifecycle.Proofs.Configuration.FlatProperties
import ServiceLifecycle.Proofs.Deployment.Reading
import ServiceLifecycle.Proofs.Deployment.SettingsReading
import ServiceLifecycle.Proofs.Deployment.RoundTrip
import ServiceLifecycle.Proofs.Source.Overlay
import ServiceLifecycle.Proofs.Source.LayerPrecedence
import ServiceLifecycle.Proofs.Fault.Levels
