import PettyFlow.Funds.Conservation
import PettyFlow.Workflow.PolicyCoverage
import PettyFlow.Foundation.Json
import PettyFlow.Workflow.Service
import PettyFlow.Adapters.CardIndexes
import PettyFlow.Adapters.MobileMoney
import PettyFlow.Adapters.NetSuiteAdapter
import PettyFlow.Adapters.PlaidAdapter
import PettyFlow.Adapters.ReplayIsolation
import PettyFlow.Audit.TamperLog
import PettyFlow.Foundation.Automaton
import PettyFlow.Foundation.JsonRoundTrip
import PettyFlow.Foundation.Separators
import PettyFlow.Idempotency.Store
import PettyFlow.Ledger.CanonicalBytes
import PettyFlow.Ledger.ChainIntegrity
import PettyFlow.Ledger.TamperEvidence
import PettyFlow.Wallet.Disbursement
import PettyFlow.Wallet.DisbursementManager
import PettyFlow.Wallet.ProviderEvents
import PettyFlow.Workflow.AuditTrail
import PettyFlow.Workflow.Authority
import PettyFlow.Foundation.Pool
import PettyFlow.Wallet.SingleOwner
import PettyFlow.Currency.RoundTrip
import PettyFlow.Reconciliation.VarianceAnalyzer
import PettyFlow.Analytics.AggregateAgreement
import PettyFlow.Audit.LogSoundness
import PettyFlow.Cache.KeyIsolation
import PettyFlow.Cache.AnchoredBalance
import PettyFlow.Cache.OptimisticLocking
import PettyFlow.Fraud.WindowClusters
import PettyFlow.Fraud.LateArrivals
import PettyFlow.Foundation.TwoRuns
import PettyFlow.Foundation.RecordMakers
import PettyFlow.Cache.VersionDefaults
import PettyFlow.Audit.ConcurrentAppends
import PettyFlow.Idempotency.TenantIsolation
import PettyFlow.Idempotency.Ownership
import PettyFlow.Wallet.EventDeliveries
import PettyFlow.Wallet.Payments
import PettyFlow.Wallet.DisburseCalls
import PettyFlow.Wallet.ReusedKeys
import PettyFlow.Wallet.CallExits
import PettyFlow.Wallet.NestedPayments
import PettyFlow.Wallet.AuditedWorkers
import PettyFlow.Adapters.DerivedKeys
import PettyFlow.Cache.ExactSums
import PettyFlow.Fraud.EvidenceReceipts
import PettyFlow.Fraud.QueryEffects
import PettyFlow.Frontend.DraftDelivery
import PettyFlow.Migrations.Probes
import PettyFlow.Security.FieldIsolation
import PettyFlow.Security.Tokens
import PettyFlow.Workflow.EventStates
import PettyFlow.Workflow.TenantIsolation
import PettyFlow.Migrations.AppliedVersions
import PettyFlow.Currency.PositiveRates
import PettyFlow.Currency.Triangle
import PettyFlow.Fraud.VelocityWindow
import PettyFlow.Fraud.LinkGraph
import PettyFlow.Fraud.ClearedCustodians
import PettyFlow.Analytics.SummaryExactness
import PettyFlow.Ledger.RecordedTypes
import PettyFlow.Reconciliation.Adjustments
import PettyFlow.Wallet.RestoredResults
import PettyFlow.Security.VerifyErrors
import PettyFlow.Workflow.SummaryAgreement
import PettyFlow.Api.EndpointErrors
import PettyFlow.Api.ApprovalPages
import PettyFlow.Adapters.TransferAmounts
import PettyFlow.Migrations.ScriptNames
import PettyFlow.Receipts.Totals
import PettyFlow.Receipts.ItemisedReceipts
import PettyFlow.Receipts.ReceiptDates
import PettyFlow.Adapters.DocumentNumbers
import PettyFlow.Fraud.DuplicateReceipts
import PettyFlow.Fraud.CategoryProfiles
import PettyFlow.Migrations.StatementSplitting
import PettyFlow.Api.LiveConnections
import PettyFlow.Frontend.CachedAnswers
import PettyFlow.Api.WireBalances
import PettyFlow.Api.Statements
import PettyFlow.Fraud.DifferenceHash
import PettyFlow.Api.ClosingRecords
import PettyFlow.Migrations.Snapshots
import PettyFlow.Api.RestIsolation
import PettyFlow.Ledger.FloatAmounts
import PettyFlow.Frontend.AuditPage
import PettyFlow.Frontend.DraftsBanner
import PettyFlow.Observability.TenantCounters
import PettyFlow.Frontend.ShownTiers
import PettyFlow.Fraud.Screening
import PettyFlow.Frontend.ScannedReceipts
