import ClaudeCodeProxy.Effects.Program
import ClaudeCodeProxy.Effects.Run
import ClaudeCodeProxy.Effects.Faults
import ClaudeCodeProxy.Effects.Interleaving
import ClaudeCodeProxy.Effects.History
import ClaudeCodeProxy.Effects.Trace
import ClaudeCodeProxy.Lifecycle.Registry
import ClaudeCodeProxy.Store.Table
import ClaudeCodeProxy.Text.Base64
import ClaudeCodeProxy.Text.Strings
import ClaudeCodeProxy.Text.Glob
import ClaudeCodeProxy.Python.Value
import ClaudeCodeProxy.Models.Domain
import ClaudeCodeProxy.Models.Errors
import ClaudeCodeProxy.Security.Encryption
import ClaudeCodeProxy.Security.Keys
import ClaudeCodeProxy.Repositories.VirtualKey
import ClaudeCodeProxy.Repositories.KeyRegistry
import ClaudeCodeProxy.Services.Collaborators
import ClaudeCodeProxy.TokenService.IssueService
import ClaudeCodeProxy.Api.AdminUsers
import ClaudeCodeProxy.Api.AdminVirtualKeys
import ClaudeCodeProxy.Api.InternalOps
import ClaudeCodeProxy.Proxy.Auth
import ClaudeCodeProxy.Services.World
import ClaudeCodeProxy.Services.Requests
import ClaudeCodeProxy.TokenService.Lemmas
import ClaudeCodeProxy.Api.Lemmas
import ClaudeCodeProxy.Proxy.Lemmas
import ClaudeCodeProxy.Services.Samples
import ClaudeCodeProxy.Services.Steps
import ClaudeCodeProxy.Services.Freshness
import ClaudeCodeProxy.Services.RetiredKeys
import ClaudeCodeProxy.Services.ActiveKeys
import ClaudeCodeProxy.Services.PartialEffects
import ClaudeCodeProxy.TokenService.CacheCoherence
import ClaudeCodeProxy.TokenService.Eligibility
import ClaudeCodeProxy.Proxy.Acceptance
import ClaudeCodeProxy.Services.Concurrency
import ClaudeCodeProxy.TokenService.CacheRaces
import ClaudeCodeProxy.TokenService.Staleness
import ClaudeCodeProxy.TokenService.ConcurrentIssue
import ClaudeCodeProxy.Proxy.PolicyEngine
import ClaudeCodeProxy.Proxy.ModelResolver
import ClaudeCodeProxy.Proxy.QuotaEngine
import ClaudeCodeProxy.Proxy.RateLimiter
import ClaudeCodeProxy.Proxy.BedrockConverse.RequestBuilder
import ClaudeCodeProxy.Proxy.BedrockConverse.ResponseParser
import ClaudeCodeProxy.Proxy.BedrockConverse.StreamDecoder
import ClaudeCodeProxy.Proxy.Runtime
import ClaudeCodeProxy.Proxy.AuditLogger
import ClaudeCodeProxy.Api.ErrorResponses
import ClaudeCodeProxy.Proxy.BedrockConverse.SseEvents
import ClaudeCodeProxy.Api.ProxyRouter
import ClaudeCodeProxy.Api.MessageRuns
import ClaudeCodeProxy.Proxy.BedrockConverse.Iteration
import ClaudeCodeProxy.Api.MessageLogs
import ClaudeCodeProxy.Api.Components
import ClaudeCodeProxy.Api.FailClosed
import ClaudeCodeProxy.Api.CountRuns
import ClaudeCodeProxy.Api.UserGate
import ClaudeCodeProxy.Proxy.BedrockConverse.RequestErrors
import ClaudeCodeProxy.Api.AdminBudgetPolicies
import ClaudeCodeProxy.Api.StoredPolicies
import ClaudeCodeProxy.Api.ModelSpellings
import ClaudeCodeProxy.Api.CostLedger
import ClaudeCodeProxy.Proxy.BedrockConverse.UsageCollection
import ClaudeCodeProxy.Api.StreamRecords
import ClaudeCodeProxy.Api.AuditTrail
import ClaudeCodeProxy.Api.LedgerViews
import ClaudeCodeProxy.Proxy.BedrockConverse.Draining
import ClaudeCodeProxy.Proxy.BedrockConverse.ProviderEvents
import ClaudeCodeProxy.Proxy.BedrockConverse.StreamGrammar
import ClaudeCodeProxy.TokenService.Handler
import ClaudeCodeProxy.TokenService.CacheOutage
import ClaudeCodeProxy.Proxy.BedrockConverse.BuiltRequests
import ClaudeCodeProxy.Proxy.BedrockConverse.Noninterference
import ClaudeCodeProxy.Proxy.BedrockConverse.Transcript
import ClaudeCodeProxy.Proxy.BedrockConverse.EnabledReasoning
import ClaudeCodeProxy.Api.TokenCap
import ClaudeCodeProxy.Proxy.BedrockConverse.ParsedResponses
import ClaudeCodeProxy.Proxy.BedrockConverse.RoundTrips
import ClaudeCodeProxy.Api.AdminModelMappings
import ClaudeCodeProxy.Api.PricingHistory
import ClaudeCodeProxy.Proxy.BedrockConverse.ClientMessages
import ClaudeCodeProxy.Api.StreamParity
import ClaudeCodeProxy.Proxy.BedrockConverse.StreamReplay
import ClaudeCodeProxy.Proxy.BedrockConverse.StreamedReasoning
import ClaudeCodeProxy.Effects.Machine
import ClaudeCodeProxy.Proxy.RateCounts
import ClaudeCodeProxy.Access.Rules
import ClaudeCodeProxy.Proxy.PolicyDecisions
import ClaudeCodeProxy.Proxy.PolicyChanges
import ClaudeCodeProxy.Lists.Extremes
import ClaudeCodeProxy.Proxy.QuotaAdmission
import ClaudeCodeProxy.Effects.Simulation
import ClaudeCodeProxy.Api.AdminRoutes
import ClaudeCodeProxy.Api.AdminPurge
import ClaudeCodeProxy.Lists.Latest
import ClaudeCodeProxy.Repositories.Storage
import ClaudeCodeProxy.Repositories.StoredLedger
import ClaudeCodeProxy.Api.StatusChanges
import ClaudeCodeProxy.TokenService.StoredService
import ClaudeCodeProxy.TokenService.StorageSwap
import ClaudeCodeProxy.Services.ExpiredKeys
import ClaudeCodeProxy.Api.RetryAfter
import ClaudeCodeProxy.Proxy.ResolutionOrder
import ClaudeCodeProxy.Api.ModelRoutes
import ClaudeCodeProxy.Schema.Positions
import ClaudeCodeProxy.Proxy.BedrockConverse.SchemaNormalization
import ClaudeCodeProxy.Validation.Findings
import ClaudeCodeProxy.Proxy.BedrockConverse.MalformedRequests
import ClaudeCodeProxy.Effects.Forwarding
import ClaudeCodeProxy.Api.Envelopes
import ClaudeCodeProxy.Proxy.BedrockConverse.UnstartedBlocks
import ClaudeCodeProxy.Text.EventStream
import ClaudeCodeProxy.Proxy.BedrockConverse.SseFrames
import ClaudeCodeProxy.Proxy.BedrockConverse.CacheControls
import ClaudeCodeProxy.Bash.Arithmetic
import ClaudeCodeProxy.Scripts.ApiKeyHelper
import ClaudeCodeProxy.Proxy.Authentication
import ClaudeCodeProxy.TokenService.HandlerRuns
import ClaudeCodeProxy.TokenService.HandlerAnswers
import ClaudeCodeProxy.Api.PairedLedgers
import ClaudeCodeProxy.Validation.Defects
import ClaudeCodeProxy.Proxy.BedrockConverse.RequestDefects
import ClaudeCodeProxy.Proxy.BedrockConverse.DisabledThinking
import ClaudeCodeProxy.Effects.Ownership
import ClaudeCodeProxy.Jq.Alternatives
import ClaudeCodeProxy.Scripts.HelperRuns
import ClaudeCodeProxy.Scripts.CacheFiles
import ClaudeCodeProxy.Scripts.ConcurrentHelpers
import ClaudeCodeProxy.Store.Expiring
import ClaudeCodeProxy.Scripts.HelperSessions
import ClaudeCodeProxy.Effects.Threads
import ClaudeCodeProxy.Api.ConcurrentRequests
import ClaudeCodeProxy.Api.Conversations
import ClaudeCodeProxy.Proxy.StandingKeys
import ClaudeCodeProxy.Scripts.IssuedKeys
import ClaudeCodeProxy.Api.Observability
import ClaudeCodeProxy.Api.RequestIds
import ClaudeCodeProxy.Api.TracedRequests
