import WorkflowForge.Application.AggregateRuns
import WorkflowForge.Application.MembershipRuns
import WorkflowForge.Infrastructure.RecordRoundTrips
import WorkflowForge.Infrastructure.TextFilters
import WorkflowForge.Audit.Events
import WorkflowForge.Security.AccessTokens
import WorkflowForge.Settings.RedisUrl
import WorkflowForge.Uri.Laws
import WorkflowForge.Domain.CaseLifecycle
import WorkflowForge.Memberships.Lifecycle
import WorkflowForge.Infrastructure.IdentityRecords
import WorkflowForge.Architecture.CycleDetection
import WorkflowForge.Tenancy.UserMemberships
import WorkflowForge.Tenancy.KeyConfinement
import WorkflowForge.Uploads.TemporaryRuns
import WorkflowForge.Uploads.ReservedUploads
import WorkflowForge.Uploads.DeletedUploads
import WorkflowForge.Security.LoginRuns
import WorkflowForge.Security.RateLimit
import WorkflowForge.Web.LatestAction
import WorkflowForge.Web.Staleness
import WorkflowForge.Web.Generations
import WorkflowForge.Web.SingleFlight
import WorkflowForge.Web.TenantSelection
import WorkflowForge.Web.Effects
import WorkflowForge.Web.Continuations
import WorkflowForge.Web.AuthProvider
import WorkflowForge.Web.AuthState
import WorkflowForge.Concurrency.Transitions
import WorkflowForge.Memberships.Selection
import WorkflowForge.Application.Organizations
import WorkflowForge.Python.Composition
import WorkflowForge.Uploads.Filenames
import WorkflowForge.Uploads.Archives
import WorkflowForge.Uploads.Fingerprints
import WorkflowForge.Uploads.StreamedBytes
import WorkflowForge.Bootstrap.FirstOwner
import WorkflowForge.Bootstrap.Runs
import WorkflowForge.Bootstrap.Specs
import WorkflowForge.Application.BootstrapOwner
import WorkflowForge.Infrastructure.Commitless
import WorkflowForge.Documents.DuplicateContent
import WorkflowForge.Authorization.Auditors
import WorkflowForge.Authorization.ArtifactRegistration
import WorkflowForge.Infrastructure.Returns
import WorkflowForge.Authorization.AuditorCalls
import WorkflowForge.Domain.Permissions
import WorkflowForge.Migrations.LegacyLoading
import WorkflowForge.Migrations.Upgrade
import WorkflowForge.Migrations.Backfill
import WorkflowForge.Migrations.RoundTrip
import WorkflowForge.Migrations.DocumentTenancy
import WorkflowForge.Migrations.Ddl
import WorkflowForge.Memberships.AdministrationRuns
import WorkflowForge.Memberships.Administration
import WorkflowForge.Application.MembershipAdministration
import WorkflowForge.Tenancy.ServiceContracts
import WorkflowForge.Tenancy.RepositoryContracts
import WorkflowForge.Domain.Aggregates
import WorkflowForge.Tenancy.Ownership
import WorkflowForge.Application.TenantCalls
import WorkflowForge.Application.CaseService
import WorkflowForge.Application.BatchService
import WorkflowForge.Concurrency.Sequential
import WorkflowForge.Identity.CleanupBatches
import WorkflowForge.Ordering.Ranks
import WorkflowForge.Identity.RevocationRuns
import WorkflowForge.Identity.RotationRuns
import WorkflowForge.Identity.LineageRuns
import WorkflowForge.Identity.SessionRuns
import WorkflowForge.Identity.Cleanups
import WorkflowForge.Identity.RefreshCalls
import WorkflowForge.Identity.SessionCalls
import WorkflowForge.Identity.Credentials
import WorkflowForge.Identity.Rotations
import WorkflowForge.Identity.Revocations
import WorkflowForge.Identity.Updates
import WorkflowForge.Identity.Inserts
import WorkflowForge.Identity.Operations
import WorkflowForge.Identity.Specs
import WorkflowForge.Identity.Steps
import WorkflowForge.Identity.Commits
import WorkflowForge.Identity.Discipline
import WorkflowForge.Identity.Lineage
import WorkflowForge.Transactions.Lookups
import WorkflowForge.Application.SessionLifecycle
import WorkflowForge.Infrastructure.SessionRepository
import WorkflowForge.Infrastructure.SessionWorld
import WorkflowForge.Domain.Sessions
import WorkflowForge.Python.Ascii
import WorkflowForge.Documents.Replies
import WorkflowForge.Documents.StoredUploads
import WorkflowForge.Documents.VersionHistory
import WorkflowForge.Documents.Runs
import WorkflowForge.Documents.UploadCalls
import WorkflowForge.Application.Streaming
import WorkflowForge.Documents.ServiceCalls
import WorkflowForge.Documents.Versions
import WorkflowForge.Documents.Additions
import WorkflowForge.Documents.ObjectMethods
import WorkflowForge.Documents.DocumentMethods
import WorkflowForge.Documents.Repositories
import WorkflowForge.Documents.Writes
import WorkflowForge.Documents.Ports
import WorkflowForge.Documents.Modes
import WorkflowForge.Documents.Sessions
import WorkflowForge.Concurrency.Triples
import WorkflowForge.Documents.Commits
import WorkflowForge.Transactions.Isolation
import WorkflowForge.Application.DocumentService
import WorkflowForge.Application.UploadDocument
import WorkflowForge.Infrastructure.ObjectStorage
import WorkflowForge.Infrastructure.DocumentRepository
import WorkflowForge.Application.UploadValidation
import WorkflowForge.Infrastructure.World
import WorkflowForge.Infrastructure.Schema
import WorkflowForge.Domain.Audit
import WorkflowForge.Domain.Cases
import WorkflowForge.Domain.Documents
import WorkflowForge.Domain.Identity
import WorkflowForge.Python.Text
import WorkflowForge.Concurrency.RelyGuarantee
import WorkflowForge.Transactions.Store
import WorkflowForge.Concurrency.JointModes
import WorkflowForge.Security.AuthRoutes
import WorkflowForge.Security.CounterSteps
import WorkflowForge.Security.Lockouts
import WorkflowForge.Security.LoginPhases
import WorkflowForge.Security.Retries
