import MigrationLedger.Callback
import MigrationLedger.Checksum
import MigrationLedger.Config.Read
import MigrationLedger.Discovery
import MigrationLedger.Execution
import MigrationLedger.Inspect
import MigrationLedger.Logging
import MigrationLedger.Proofs.CurrentTarget
import MigrationLedger.Proofs.Cycle
import MigrationLedger.Proofs.Pass
import MigrationLedger.Proofs.Planning
import MigrationLedger.Proofs.Refusal
import MigrationLedger.Proofs.Reopening
import MigrationLedger.Proofs.Retry
import MigrationLedger.Proofs.Completeness
import MigrationLedger.Proofs.AuditLog
import MigrationLedger.Proofs.FailedRefresh
import MigrationLedger.Proofs.Stepwise
import MigrationLedger.Proofs.RunConfiguration
import MigrationLedger.Proofs.OlderHistory
import MigrationLedger.Proofs.Tombstones
import MigrationLedger.Proofs.Validation
import MigrationLedger.Proofs.Survivors
import MigrationLedger.Proofs.Enumeration
import MigrationLedger.Proofs.CanonicalOrder
import MigrationLedger.Proofs.LedgerCalls
import MigrationLedger.Proofs.KindNames
import MigrationLedger.Proofs.StoredRows
import MigrationLedger.Proofs.RowRecords
import MigrationLedger.Proofs.ExactSelection
import MigrationLedger.Proofs.PlanBounds
import MigrationLedger.Proofs.RowStates
import MigrationLedger.Proofs.LooserRequests
import MigrationLedger.Proofs.Silencing
import MigrationLedger.Proofs.VersionMeaning
import MigrationLedger.Proofs.VersionGrammar
import MigrationLedger.Proofs.Pointwise
import MigrationLedger.Proofs.Respelling
import MigrationLedger.Proofs.SpellingInvariance
import MigrationLedger.Proofs.RespelledPasses
import MigrationLedger.Proofs.SharedRanks
import MigrationLedger.Proofs.Registration
import MigrationLedger.Proofs.ScriptLines
import MigrationLedger.Proofs.Expansion
import MigrationLedger.Proofs.PatternGrammar
import MigrationLedger.Proofs.EnvironmentCalls
