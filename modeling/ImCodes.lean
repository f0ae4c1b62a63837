import ImCodes.Queue.WebRefinement
import ImCodes.Queue.Reordering
import ImCodes.Queue.CrashSafety
import ImCodes.Queue.Cancellation
import ImCodes.Queue.RecipientIsolation
import ImCodes.Queue.Resend.AbortedDrain
import ImCodes.Queue.Resend.ClearedDrain
import ImCodes.Queue.Resend.Removal
import ImCodes.Queue.Supersession
import ImCodes.Queue.AdoptedQueues
import ImCodes.Queue.EqualVersions
import ImCodes.Queue.OutOfOrder
import ImCodes.Queue.WholeRuns
import ImCodes.Timeline.MergeOrder
import ImCodes.Timeline.Signals
import ImCodes.Timeline.Cursors
import ImCodes.TaskPair.EarnedPass
import ImCodes.TaskPair.OwnRound
import ImCodes.TaskPair.ClosedPairs
import ImCodes.TaskPair.ResourceClaims
import ImCodes.Acks.Flushing
import ImCodes.Acks.Recovery
import ImCodes.Remote.ReplayedInput
import ImCodes.Remote.RelayCeiling
import ImCodes.TaskPair.StaleWakes
import ImCodes.TaskPair.Admissions
import ImCodes.Remote.IceGenerations
import ImCodes.Remote.ConsentHistory
import ImCodes.Delegation.ClosedReplies
import ImCodes.Timeline.TextPriority
import ImCodes.Timeline.Compaction
import ImCodes.Upgrade.Deliveries
import ImCodes.Preview.ReadCache
import ImCodes.TaskPair.CoalescedTriggers
import ImCodes.TaskPair.Rejections
import ImCodes.Memory.StoredRows
import ImCodes.TaskPair.ChecklistUpdates
import ImCodes.Delegation.AuditDelivery
import ImCodes.Timeline.TailLines
import ImCodes.Supervision.AuditTargets
import ImCodes.Discussion.Reconcile
import ImCodes.Agent.LeakedThink
import ImCodes.Files.UnifiedDiff
import ImCodes.Storage.SanitizedJson
import ImCodes.Agent.CappedContext
import ImCodes.Supervision.CapabilityIds
import ImCodes.Workflow.CanonicalContracts
