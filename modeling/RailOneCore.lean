import RailOneCore.Api.Audits
import RailOneCore.Api.Auth
import RailOneCore.Api.Guard
import RailOneCore.Api.Issuance
import RailOneCore.Api.KeyRevocation
import RailOneCore.Api.Quota
import RailOneCore.Api.RateLimits
import RailOneCore.Callbacks.Mpesa
import RailOneCore.Callbacks.Store
import RailOneCore.Certification.Codec
import RailOneCore.Certification.Evaluator
import RailOneCore.Certification.HistoryReads
import RailOneCore.Certification.Models
import RailOneCore.Certification.Runner
import RailOneCore.Contracts.Models
import RailOneCore.Contracts.Service
import RailOneCore.Contracts.Store
import RailOneCore.Crypto.Authenticity
import RailOneCore.Crypto.Envelope
import RailOneCore.Crypto.SignatureService
import RailOneCore.Crypto.Totality
import RailOneCore.Execution.Budget
import RailOneCore.Execution.Identifiers
import RailOneCore.Execution.Ledger
import RailOneCore.Execution.Lifecycle
import RailOneCore.Execution.Lineage
import RailOneCore.Execution.Models
import RailOneCore.Execution.Protocol
import RailOneCore.Execution.Ranking
import RailOneCore.Execution.Reconciliation
import RailOneCore.Execution.Runs
import RailOneCore.Execution.Scoring
import RailOneCore.Execution.Sequential
import RailOneCore.Execution.Service
import RailOneCore.Execution.Steps
import RailOneCore.Execution.Store
import RailOneCore.Foundation.CanonicalJson
import RailOneCore.Foundation.Epoch
import RailOneCore.Foundation.Json
import RailOneCore.Foundation.JsonDecoder
import RailOneCore.Foundation.PyEquality
import RailOneCore.Foundation.PyValue
import RailOneCore.Foundation.Runtime
import RailOneCore.Foundation.SampleRuntime
import RailOneCore.Foundation.Text
import RailOneCore.History.Access
import RailOneCore.History.Indexing
import RailOneCore.History.Pages
import RailOneCore.History.Runs
import RailOneCore.History.Service
import RailOneCore.History.Store
import RailOneCore.Identity.Attestation
import RailOneCore.Identity.Continuity
import RailOneCore.Identity.Repository
import RailOneCore.Identity.Runs
import RailOneCore.Institutions.Callback
import RailOneCore.Institutions.Discovery
import RailOneCore.Institutions.Generic
import RailOneCore.Institutions.Legacy
import RailOneCore.Institutions.Manifest
import RailOneCore.Institutions.Models
import RailOneCore.Institutions.Registry
import RailOneCore.Library.Base64
import RailOneCore.Library.Dict
import RailOneCore.Library.FixedWindow
import RailOneCore.Library.Interleaving
import RailOneCore.Library.LatestWins
import RailOneCore.Library.Leases
import RailOneCore.Library.Machine
import RailOneCore.Library.Pagination
import RailOneCore.Library.Program
import RailOneCore.Library.Schedule
import RailOneCore.Library.WriteOnce
import RailOneCore.Notifications.Relay
import RailOneCore.Notifications.Service
import RailOneCore.Notifications.Store
import RailOneCore.Operations.BlindRetry
import RailOneCore.Operations.Chronicle
import RailOneCore.Operations.Completion
import RailOneCore.Operations.Delivery
import RailOneCore.Operations.Lifecycle
import RailOneCore.Operations.Models
import RailOneCore.Operations.Progress
import RailOneCore.Operations.Protocol
import RailOneCore.Operations.Runs
import RailOneCore.Operations.Service
import RailOneCore.Operations.Store
import RailOneCore.Operations.SubmitOnce
import RailOneCore.Partners.Agreement
import RailOneCore.Partners.Directory
import RailOneCore.Platform.Calls
import RailOneCore.Platform.Footprint
import RailOneCore.Platform.Persistence
import RailOneCore.Platform.World
import RailOneCore.Postgres.Agreement
import RailOneCore.Postgres.Execution
import RailOneCore.Postgres.RateLimits
import RailOneCore.Projection.Convergence
import RailOneCore.Projection.Service
import RailOneCore.Projection.Store
import RailOneCore.Providers.Classification
import RailOneCore.Providers.Mpesa
import RailOneCore.Sandbox.Delivery
import RailOneCore.Sandbox.Effects
import RailOneCore.Sandbox.Models
import RailOneCore.Sandbox.Providers
import RailOneCore.Sandbox.Replay
import RailOneCore.Sandbox.Settlement
import RailOneCore.Sandbox.Store
import RailOneCore.Sandbox.Workers
import RailOneCore.Security.Envelope
import RailOneCore.Security.KeyProvider
import RailOneCore.Security.Models
import RailOneCore.Security.Vaults
