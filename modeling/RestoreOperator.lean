import RestoreOperator.Calls.Log
import RestoreOperator.Calls.Along
import RestoreOperator.System.Events
import RestoreOperator.System.Control
import RestoreOperator.System.Observed
import RestoreOperator.System.Gates
import RestoreOperator.System.Invariants
import RestoreOperator.Correctness.Redaction
import RestoreOperator.Correctness.Sweep
import RestoreOperator.Correctness.Verification
import RestoreOperator.Correctness.Migration
import RestoreOperator.Correctness.ActiveRestore
import RestoreOperator.Correctness.Exclusion
import RestoreOperator.Correctness.Backoff
import RestoreOperator.System.Cluster
import RestoreOperator.Correctness.Concurrency
import RestoreOperator.Correctness.Role
import RestoreOperator.Correctness.CredentialReset
import RestoreOperator.Correctness.Queue
import RestoreOperator.Correctness.Promotion
import RestoreOperator.Correctness.Reaper
import RestoreOperator.Correctness.RedactionRetry
import RestoreOperator.Correctness.GatesStayOpen
import RestoreOperator.Correctness.SchemaCallback
import RestoreOperator.Correctness.JobCallbacks
import RestoreOperator.Correctness.DroppedTrigger
import RestoreOperator.Correctness.FailureCount
import RestoreOperator.Correctness.ManifestApplied
import RestoreOperator.Correctness.UserSecrets
import RestoreOperator.Correctness.ContentCache
import RestoreOperator.Correctness.JobClassification
import RestoreOperator.Correctness.RunId
import RestoreOperator.Correctness.RestoreLimit
import RestoreOperator.Correctness.BuildAttempts
import RestoreOperator.Correctness.Alternation
import RestoreOperator.Base.Rfc3339
import RestoreOperator.Correctness.StorageSize
import RestoreOperator.Correctness.DatabaseMemory
import RestoreOperator.Correctness.LatestSnapshot
import RestoreOperator.Correctness.Scheduling
import RestoreOperator.Correctness.IntentParams
import RestoreOperator.Correctness.SchemaGrants
import RestoreOperator.Correctness.LogTail
import RestoreOperator.Correctness.LogMasking
import RestoreOperator.Correctness.ReindexVerdict
import RestoreOperator.Correctness.QueueOrder
import RestoreOperator.Correctness.Placement
import RestoreOperator.Correctness.PhaseText
import RestoreOperator.Correctness.MaskRange
import RestoreOperator.Correctness.ExtraUsers
import RestoreOperator.Correctness.Registration
import RestoreOperator.Correctness.Namespace
import RestoreOperator.Correctness.Quoting
import RestoreOperator.Correctness.Syncer
import RestoreOperator.Correctness.SyncerRuns
import RestoreOperator.Correctness.SyncerOwnership
import RestoreOperator.Correctness.VerificationReport
import RestoreOperator.Correctness.StartupRuns
import RestoreOperator.Correctness.Credentials
import RestoreOperator.Correctness.MigrationTest
import RestoreOperator.Correctness.Regrants
import RestoreOperator.Correctness.InitScript
import RestoreOperator.Correctness.MigrationInSystem
