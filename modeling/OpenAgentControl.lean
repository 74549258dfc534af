import OpenAgentControl.Foundations.Json
import OpenAgentControl.Foundations.JsonText
import OpenAgentControl.Foundations.Hex
import OpenAgentControl.Foundations.Base64
import OpenAgentControl.Foundations.HashChain
import OpenAgentControl.Foundations.Transition
import OpenAgentControl.Foundations.Machine
import OpenAgentControl.Foundations.Traced
import OpenAgentControl.Foundations.DateTime
import OpenAgentControl.Foundations.SortedKeys
import OpenAgentControl.Foundations.JsonData
import OpenAgentControl.Domain.Models
import OpenAgentControl.Domain.Ports
import OpenAgentControl.Application.GovernedExecution
import OpenAgentControl.Application.Runs
import OpenAgentControl.Application.Mediation
import OpenAgentControl.Application.Receipting
import OpenAgentControl.Adapters.Identity
import OpenAgentControl.Application.Delegation
import OpenAgentControl.Application.Provenance
import OpenAgentControl.Adapters.Ledger.Signing
import OpenAgentControl.Adapters.Ledger.VaultSigner
import OpenAgentControl.Adapters.Ledger.Postgres
import OpenAgentControl.Adapters.Ledger.PostgresQuery
import OpenAgentControl.Adapters.Ledger.Tampering
import OpenAgentControl.Adapters.Ledger.Rotation
import OpenAgentControl.Adapters.Ledger.Ed25519Chain
import OpenAgentControl.Foundations.Rego
import OpenAgentControl.Adapters.Policy.McpAuthz
import OpenAgentControl.Adapters.Policy.Decisions
import OpenAgentControl.Application.Listing
import OpenAgentControl.Application.FailClosed
import OpenAgentControl.Application.ShadowMode
import OpenAgentControl.Adapters.Ledger.Migration
import OpenAgentControl.Foundations.WriteBack
import OpenAgentControl.Adapters.Registry.Postgres
import OpenAgentControl.Adapters.Registry.Caching
import OpenAgentControl.Adapters.McpUpstream.Merge
import OpenAgentControl.Adapters.McpUpstream.Routing
import OpenAgentControl.Adapters.McpUpstream.Visibility
import OpenAgentControl.Adapters.Http
import OpenAgentControl.Adapters.McpUpstream.Transports
import OpenAgentControl.Application.Forwarding
import OpenAgentControl.Adapters.McpUpstream.Paging
import OpenAgentControl.Foundations.Paging
import OpenAgentControl.Application.Paging
import OpenAgentControl.Adapters.Ledger.Verdict
import OpenAgentControl.Foundations.Words
import OpenAgentControl.Adapters.Claims
import OpenAgentControl.Adapters.McpUpstream.FanOut
import OpenAgentControl.Adapters.McpUpstream.Outage
import OpenAgentControl.Adapters.McpUpstream.Burst
import OpenAgentControl.Foundations.CallBinding
import OpenAgentControl.Sdk.Client
import OpenAgentControl.Sdk.Decorator
import OpenAgentControl.Adapters.TokenExchange
import OpenAgentControl.Application.Downstream
import OpenAgentControl.Gateway.Routes
import OpenAgentControl.Adapters.Authentication
import OpenAgentControl.Domain.Validation
import OpenAgentControl.Adapters.Registry.Directory
import OpenAgentControl.Adapters.Registry.Storage
import OpenAgentControl.Adapters.Registry.File
import OpenAgentControl.Diagnostics
import OpenAgentControl.Adapters.TokenExchange.Caching
import OpenAgentControl.Adapters.Ledger.Search
import OpenAgentControl.Foundations.Tally
import OpenAgentControl.ControlPlane.Fleet
import OpenAgentControl.Adapters.Ledger.Payload
import OpenAgentControl.Foundations.Interleaving
import OpenAgentControl.Adapters.Ledger.Lookup
import OpenAgentControl.Gateway.Replicas
import OpenAgentControl.Adapters.AuditExport
import OpenAgentControl.Gateway.AuditTrail
import OpenAgentControl.Adapters.Ledger.Pages
import OpenAgentControl.Foundations.OffsetPages
import OpenAgentControl.Foundations.LateStores
import OpenAgentControl.ControlPlane.Summary
import OpenAgentControl.ControlPlane.Routes
import OpenAgentControl.ControlPlane.Sessions
import OpenAgentControl.Gateway.KillSwitch
import OpenAgentControl.Gateway.McpServer
import OpenAgentControl.Sdk.Enforcement
import OpenAgentControl.Sdk.Langchain
import OpenAgentControl.Adapters.Policy.Ruling
import OpenAgentControl.Gateway.Authority
import OpenAgentControl.Gateway.Credentials
import OpenAgentControl.Gateway.Principals
import OpenAgentControl.Adapters.Ledger.Downgrade
import OpenAgentControl.Gateway.SingleProcess
