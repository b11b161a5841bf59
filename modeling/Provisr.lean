import Provisr.Foundation.Interleaving
import Provisr.Foundation.Json
import Provisr.Foundation.JsonText
import Provisr.Foundation.JsonNormal
import Provisr.Foundation.JsNumber
import Provisr.Foundation.JsText
import Provisr.Foundation.Zod
import Provisr.Foundation.PyText
import Provisr.Orchestrator.Transitions
import Provisr.Orchestrator.PlanningContracts
import Provisr.Orchestrator.Components
import Provisr.Orchestrator.ProvisioningRun
import Provisr.Orchestrator.IacContracts
import Provisr.Orchestrator.Database
import Provisr.Foundation.Exceptional
import Provisr.Foundation.Versioned
import Provisr.Orchestrator.World
import Provisr.Orchestrator.PlanningClients
import Provisr.Orchestrator.RunsService
import Provisr.Orchestrator.Mutations
import Provisr.Orchestrator.RunInvariants
import Provisr.Orchestrator.WorldInvariant
import Provisr.Orchestrator.RunDiscipline
import Provisr.Orchestrator.RunPrograms
import Provisr.Orchestrator.WorkerPrograms
import Provisr.Orchestrator.ServicePrograms
import Provisr.Orchestrator.RunHistory
import Provisr.Orchestrator.RunSafety
import Provisr.Orchestrator.StoredAnswers
import Provisr.Orchestrator.Clarification
import Provisr.Foundation.Transactions
import Provisr.Foundation.Feed
import Provisr.Foundation.JsNumeric
import Provisr.Foundation.JsonOrder
import Provisr.Foundation.JsonLiteral
import Provisr.Foundation.JsonReader
import Provisr.Foundation.JsonbText
import Provisr.Foundation.GoJson
import Provisr.Foundation.JsonScan
import Provisr.Foundation.HashChain
import Provisr.Audit.Writers
import Provisr.Audit.Chain
import Provisr.Audit.TamperEvidence
import Provisr.Events.SsePublish
import Provisr.Frontend.SseClient
import Provisr.Events.SseDelivery
import Provisr.Events.ChatEvents
import Provisr.Events.Outbox
import Provisr.Events.OutboxLease
import Provisr.Events.OutboxOrder
import Provisr.Foundation.Sublists
import Provisr.Backend.ManifestStore
import Provisr.Backend.HclLiterals
import Provisr.Backend.IacArtifact
import Provisr.Backend.IacArtifactStore
import Provisr.Backend.IacGeneration
import Provisr.Backend.IacExactlyOnce
import Provisr.Mcp.ManifestCreation
import Provisr.System.PlanningServices
import Provisr.System.ShownManifest
import Provisr.System.EventDelivery
import Provisr.Backend.PolicyProjection
import Provisr.Backend.PolicyEvaluator
import Provisr.Backend.InputShapes
import Provisr.Backend.WildcardStatements
import Provisr.Agent.PolicyModels
import Provisr.System.PolicyBoundary
import Provisr.Foundation.Float64
import Provisr.Backend.Strings
import Provisr.Backend.ApprovalRules
import Provisr.Foundation.StableSort
import Provisr.Backend.ApprovalOrder
import Provisr.Backend.ApprovalMonotone
import Provisr.Backend.ApprovalAggregation
import Provisr.Backend.WideOpenIngress
import Provisr.Backend.ManifestTables
import Provisr.Backend.ManifestPrograms
import Provisr.Backend.ManifestLocking
import Provisr.Backend.ManifestVersions
import Provisr.Backend.ManifestHistory
import Provisr.Backend.ManifestReplay
import Provisr.Backend.DraftStore
import Provisr.Backend.DraftVerdicts
import Provisr.Foundation.UnderLocks
import Provisr.Orchestrator.SessionTables
import Provisr.Orchestrator.SessionPrograms
import Provisr.Orchestrator.SessionLocking
import Provisr.Orchestrator.SessionWrites
import Provisr.Orchestrator.SessionDeletion
import Provisr.Foundation.PgUuid
import Provisr.Workspace.Permissions
import Provisr.Foundation.Restriction
import Provisr.Workspace.Tables
import Provisr.Workspace.Programs
import Provisr.Workspace.Locking
import Provisr.Workspace.Requests
import Provisr.Foundation.Proceeding
import Provisr.Workspace.Proceeding
import Provisr.Workspace.AdminRace
import Provisr.Workspace.LastAdmin
import Provisr.Workspace.Creations
import Provisr.Cloud.Capabilities
import Provisr.Foundation.LateTasks
import Provisr.Cloud.CapabilityFreshness
import Provisr.Cloud.AccountTrail
import Provisr.Foundation.Transcripts
import Provisr.StateBackend.BucketPolicy
import Provisr.StateBackend.Bucket
import Provisr.StateBackend.BucketSafety
import Provisr.Foundation.Clients
import Provisr.StateBackend.Manager
import Provisr.StateBackend.Preparation
import Provisr.StateBackend.Attempts
import Provisr.StateBackend.PreparedOnce
import Provisr.Foundation.DepthFirst
import Provisr.Foundation.GoSlices
import Provisr.Backend.DependencyCycles
import Provisr.Backend.ManifestValidator
import Provisr.Orchestrator.AnswerOptions
import Provisr.Orchestrator.DisplayComponents
import Provisr.Foundation.PyRegex
import Provisr.Agent.Contexts
import Provisr.Agent.GapDetection
import Provisr.Foundation.PyValue
import Provisr.Foundation.Regex
import Provisr.Foundation.Pydantic
import Provisr.Contracts.Monitoring
import Provisr.Foundation.RegexMatching
import Provisr.Contracts.MonitoringFragments
import Provisr.Contracts.MetricFilterGrammar
import Provisr.Contracts.MetricFilterSearch
import Provisr.Contracts.Manifest
import Provisr.Agent.Envelopes
import Provisr.Agent.RegionDefault
import Provisr.Agent.Compliance
import Provisr.Agent.Drafting
import Provisr.Foundation.Guarded
import Provisr.Agent.TurnService
import Provisr.Agent.SessionHistory
import Provisr.Backend.PolicyTables
import Provisr.Backend.PolicyService
import Provisr.Backend.PolicyRecords
import Provisr.Foundation.JsonEquality
import Provisr.Audit.CanonicalPayload
import Provisr.Foundation.CommonSubsequence
import Provisr.Foundation.GoMap
import Provisr.Backend.PricingSelection
import Provisr.Backend.DecodedNumbers
import Provisr.Backend.MetadataBytes
import Provisr.Frontend.DriftDiff
import Provisr.Frontend.SingleConnection
import Provisr.Orchestrator.TokenVerification
import Provisr.Orchestrator.TurnAuthorization
import Provisr.Orchestrator.ComponentPayloads
import Provisr.Backend.ProjectionReference
import Provisr.Backend.DecisionLaw
import Provisr.Backend.TerraformClosed
import Provisr.Mcp.IacGeneration
import Provisr.System.IacEvidence
import Provisr.Backend.BundleAgreement
import Provisr.Orchestrator.RunRecords
import Provisr.Workspace.MutationKeys
