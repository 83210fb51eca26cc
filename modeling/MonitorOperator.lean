import MonitorOperator.Cluster.Api
import MonitorOperator.Cluster.Store
import MonitorOperator.Config
import MonitorOperator.Cycle.Basic
import MonitorOperator.Cycle.Converge
import MonitorOperator.Cycle.Reconcile
import MonitorOperator.Cycle.Status
import MonitorOperator.Dashboard
import MonitorOperator.Decimal.Binary64
import MonitorOperator.Decimal.Layout
import MonitorOperator.Decimal.Reader
import MonitorOperator.Decimal.Shortest
import MonitorOperator.Document.Access
import MonitorOperator.Document.Basic
import MonitorOperator.Document.Display
import MonitorOperator.Document.Reader
import MonitorOperator.Document.Sorted
import MonitorOperator.Document.Writer
import MonitorOperator.Fault
import MonitorOperator.Http.Address
import MonitorOperator.Http.Charset
import MonitorOperator.Http.Message
import MonitorOperator.Http.Percent
import MonitorOperator.Http.Redirect
import MonitorOperator.Http.Url
import MonitorOperator.Image
import MonitorOperator.Log.Event
import MonitorOperator.Log.Line
import MonitorOperator.Metrics
import MonitorOperator.Moment
import MonitorOperator.Monitor.Basic
import MonitorOperator.Monitor.Manifest
import MonitorOperator.Operator
import MonitorOperator.Process
import MonitorOperator.Proofs.Cluster.Place
import MonitorOperator.Proofs.Cluster.StatusWrite
import MonitorOperator.Proofs.Cluster.Versioned
import MonitorOperator.Proofs.Config.Validation
import MonitorOperator.Proofs.Cycle.BestEffort
import MonitorOperator.Proofs.Cycle.CallSequence
import MonitorOperator.Proofs.Cycle.ConvergenceCalls
import MonitorOperator.Proofs.Cycle.Counting
import MonitorOperator.Proofs.Cycle.CycleCalls
import MonitorOperator.Proofs.Cycle.FailFast
import MonitorOperator.Proofs.Cycle.FaultTaxonomy
import MonitorOperator.Proofs.Cycle.NoLostUpdate
import MonitorOperator.Proofs.Cycle.Phases
import MonitorOperator.Proofs.Cycle.Reach
import MonitorOperator.Proofs.Cycle.RecordedVersion
import MonitorOperator.Proofs.Cycle.Resumption
import MonitorOperator.Proofs.Cycle.Schedule
import MonitorOperator.Proofs.Cycle.SharedStatus
import MonitorOperator.Proofs.Cycle.Succession
import MonitorOperator.Proofs.Cycle.UnchangedSound
import MonitorOperator.Proofs.Cycle.UpdateAnnounced
import MonitorOperator.Proofs.Dashboard.Registration
import MonitorOperator.Proofs.Decimal.Canonical
import MonitorOperator.Proofs.Decimal.Order
import MonitorOperator.Proofs.Decimal.ShortestRounds
import MonitorOperator.Proofs.Decimal.WrittenNumber
import MonitorOperator.Proofs.Document.Alike
import MonitorOperator.Proofs.Document.CanonicalFingerprint
import MonitorOperator.Proofs.Document.CanonicalText
import MonitorOperator.Proofs.Document.Fields
import MonitorOperator.Proofs.Document.LiteralText
import MonitorOperator.Proofs.Document.ReaderFaults
import MonitorOperator.Proofs.Document.ReorderedFields
import MonitorOperator.Proofs.Document.Reordering
import MonitorOperator.Proofs.Document.ScalarText
import MonitorOperator.Proofs.Document.StringText
import MonitorOperator.Proofs.Http.QueryPairs
import MonitorOperator.Proofs.Http.RequestFaults
import MonitorOperator.Proofs.Http.Userless
import MonitorOperator.Proofs.Image.Parts
import MonitorOperator.Proofs.Image.Reading
import MonitorOperator.Proofs.Image.Rendering
import MonitorOperator.Proofs.Moment.Calendar
import MonitorOperator.Proofs.Moment.Timestamp
import MonitorOperator.Proofs.Monitor.Reading
import MonitorOperator.Proofs.Monitor.ReorderedManifest
import MonitorOperator.Proofs.Monitor.Spelling
import MonitorOperator.Proofs.Monitor.StatusBlock
import MonitorOperator.Proofs.Process.Along
import MonitorOperator.Proofs.Process.Contract
import MonitorOperator.Proofs.Process.Interleaving
import MonitorOperator.Proofs.Process.Interpretation
import MonitorOperator.Proofs.Process.Path
import MonitorOperator.Proofs.Process.Trace
import MonitorOperator.Proofs.Registry.Alongside
import MonitorOperator.Proofs.Registry.AnswerFaults
import MonitorOperator.Proofs.Registry.BearerSession
import MonitorOperator.Proofs.Registry.ChallengeText
import MonitorOperator.Proofs.Registry.ConfigFaults
import MonitorOperator.Proofs.Registry.DockerEntries
import MonitorOperator.Proofs.Registry.EmptyEntry
import MonitorOperator.Proofs.Registry.Fetches
import MonitorOperator.Proofs.Registry.LookupFaults
import MonitorOperator.Proofs.Registry.PullSecret
import MonitorOperator.Proofs.Registry.RegistryHost
import MonitorOperator.Proofs.Registry.ResolvedVersion
import MonitorOperator.Proofs.Registry.Session
import MonitorOperator.Proofs.Registry.SessionDiscipline
import MonitorOperator.Proofs.Registry.StoredCredentials
import MonitorOperator.Proofs.Registry.TokenRequest
import MonitorOperator.Proofs.Text.Base64
import MonitorOperator.Proofs.Text.Cut
import MonitorOperator.Proofs.Text.Utf8
import MonitorOperator.Proofs.Workload.Built
import MonitorOperator.Proofs.Workload.Drift
import MonitorOperator.Proofs.Workload.EquivalentSpellings
import MonitorOperator.Proofs.Workload.InPlace
import MonitorOperator.Proofs.Workload.ReadBack
import MonitorOperator.Proofs.Workload.RoundTrip
import MonitorOperator.Registry.Challenge
import MonitorOperator.Registry.Credentials
import MonitorOperator.Registry.Lookup
import MonitorOperator.Registry.Version
import MonitorOperator.Simulation.Peer
import MonitorOperator.Simulation.Server
import MonitorOperator.Simulation.Session
import MonitorOperator.Simulation.World
import MonitorOperator.System
import MonitorOperator.Text.Base64
import MonitorOperator.Text.Blank
import MonitorOperator.Text.Cut
import MonitorOperator.Text.Digit
import MonitorOperator.Text.Keyed
import MonitorOperator.Text.Printable
import MonitorOperator.Text.Quoted
import MonitorOperator.Text.Sha256
import MonitorOperator.Text.Unicode
import MonitorOperator.Text.Utf8
import MonitorOperator.Text.Word
import MonitorOperator.Workload.Basic
import MonitorOperator.Workload.Build
import MonitorOperator.Workload.Fingerprint
import MonitorOperator.Workload.Manifest
