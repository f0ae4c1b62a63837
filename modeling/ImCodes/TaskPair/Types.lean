import ImCodes.Library.Numerals

/-!
# Task pairs

An executor and an auditor working on one task under a Brain, the markers they write and
the state the markers move.
-/

set_option autoImplicit false

namespace ImCodes.TaskPair

open Library

inductive AuditSeverity where
  | p0 | p1 | p2 | p3 | p4
deriving DecidableEq, Repr

inductive TaskPairVerb where
  | dispatch | queue | started | working | readyForAudit | pass | rework | done | blocked
  | needsInput | reassign | cancel | claim | check | nextRound
deriving DecidableEq, Repr

inductive TaskPairStatus where
  | queued | working | inAudit | awaitingAudit | awaitingBrainDecision | rework | passed | done
  | cancelled
deriving DecidableEq, Repr

inductive TaskPairFlag where
  | blocked | needsInput | unaudited | needsAuditor | overLimit | offPool | economyUnreviewed
  | waitingForCapacity | executorSilent | verdictInconsistent | awaitingAuditIgnored
  | replacementChurn | markersUnresolved | allProvidersLimited | auditorCapacityHold
  | policyViolation | noPoolConfigured | brainReminderDue
deriving DecidableEq, Repr

inductive TaskPairRole where
  | brain | executor | auditor | other | daemon
deriving DecidableEq, Repr

inductive TaskPairEventSource where
  | marker | implicitDispatch | legacyTool | legacyImport | heartbeat | queue | mcp | daemon
deriving DecidableEq, Repr

/-- Reasons for messages a marker triggers; each is capped per round. -/
inductive TaskPairCappedReason where
  | verdictCorrection | doneReminder | policyRejection | blockedReplacement | unresolvedHint
deriving DecidableEq, Repr

inductive TaskPairVerdictJudgement where
  | consistent | inconsistent | missingSeverity | implicitZero
deriving DecidableEq, Repr

inductive TaskPairBlockingSource where
  | explicit | config
deriving DecidableEq, Repr

inductive TaskPairWorkspaceKind where
  | worktree | dir | none
deriving DecidableEq, Repr

structure TaskPairSeverityCounts where
  p0 : Nat
  p1 : Nat
  p2 : Nat
  p3 : Nat
  p4 : Nat
deriving DecidableEq, Repr

structure TaskPairMaterial where
  worktree : Option String
  head : Option String
  base : Option String
  path : Option String
  report : Bool
  intentionalNote : Option String
  files : Option String
  at_ : Int
deriving DecidableEq, Repr

/-- Of the workspace only where it is and the last commit seen there matter here. -/
structure TaskPairWorkspace where
  path : String
  lastHead : Option String
deriving DecidableEq, Repr

structure TaskPairOutput where
  path : String
  dest : Option String
deriving DecidableEq, Repr

inductive TaskPairRoundBaseSource where
  | passedHead | brain
deriving DecidableEq, Repr

structure TaskPairRoundBase where
  commit : String
  source : TaskPairRoundBaseSource
  deliveryRound : Nat
  previousHead : Option String
  note : Option String
  at_ : Int
deriving DecidableEq, Repr

structure TaskPairMaterialHold where
  head : String
  base : String
  at_ : Int
deriving DecidableEq, Repr

inductive TaskPairVerdictVerb where
  | pass | rework
deriving DecidableEq, Repr

structure TaskPairLastVerdict where
  verb : TaskPairVerdictVerb
  counts : TaskPairSeverityCounts
  judgement : TaskPairVerdictJudgement
  round : Nat
  noticeText : Option String
deriving DecidableEq, Repr

structure TaskPairWaitResolution where
  writer : String
  note : Option String
  at_ : Int
deriving DecidableEq, Repr

/-- The scheduling of a stored pair; on the wire the dependencies may be left out and counted
instead. -/
structure TaskPairScheduling where
  epoch : Nat
  manual : Bool
  dependsOn : List String
  since : Int
  writer : String
  note : Option String
  resumePending : Option Bool
  admitted : Option Bool
  resumedAt : Option Int
  resumeRetryAt : Option Int
  failureNotified : Option Bool
deriving DecidableEq, Repr

structure TaskPairState where
  scheduling : Option TaskPairScheduling
  taskId : String
  brain : String
  executor : Option String
  auditor : Option String
  title : Option String
  status : TaskPairStatus
  flags : List TaskPairFlag
  blockedSide : Option TaskPairRole
  needsInputSide : Option TaskPairRole
  blockedNote : Option String
  lastWaitResolution : Option TaskPairWaitResolution
  round : Nat
  passRound : Option Nat
  deliveryRound : Option Nat
  roundBase : Option TaskPairRoundBase
  materialHold : Option TaskPairMaterialHold
  blocking : List AuditSeverity
  blockingSource : Option TaskPairBlockingSource
  lastVerdict : Option TaskPairLastVerdict
  previousAuditors : List String
  auditorPinned : Option String
  executorPool : Option String
  executorModel : Option String
  executorThinking : Option String
  auditorModel : Option String
  auditorThinking : Option String
  brief : Option String
  material : Option TaskPairMaterial
  workspace : Option TaskPairWorkspace
  capacityWaitReason : Option String
  auditorProposalNudgeRound : Option Nat
  workspaceKind : Option TaskPairWorkspaceKind
  parallelInPlace : Bool
  urgent : Option Bool
  output : Option TaskPairOutput
  capCounts : List (TaskPairCappedReason × Nat)
  capRound : Nat
  closedNoticeSentTo : List String
  inAuditNoticeRound : Option Nat
  integrationDismissedAt : Option Int
  startedAt : Option Int
  createdAt : Int
  updatedAt : Int
deriving DecidableEq, Repr

abbrev TaskPairAttrs := List (String × String)

namespace TaskPairAttrs

def get? (attrs : TaskPairAttrs) (key : String) : Option String :=
  (attrs.find? fun attr => attr.1 = key).map (·.2)

def named? (attrs : TaskPairAttrs) (key : String) : Option String :=
  truthy (attrs.get? key)

end TaskPairAttrs

structure TaskPairMarker where
  knownVerb : Option TaskPairVerb
  taskId : String
  attrs : TaskPairAttrs
  brief : Option String
deriving DecidableEq, Repr

structure TaskPairApplyContext where
  writer : String
  fallbackBrain : String
  projectBlocking : Option (List AuditSeverity)
  now : Int
  source : TaskPairEventSource
  busySessions : Option (List String)
  turnText : Option String
  requireStructuredPairCreate : Bool
deriving DecidableEq, Repr

structure TaskPairVerdictJudgementResult where
  judgement : TaskPairVerdictJudgement
  counts : TaskPairSeverityCounts
  blockingCount : Nat
  statedBlocking : Option (List AuditSeverity)
  blockingMismatch : Bool
deriving DecidableEq, Repr

inductive TaskPairIntent where
  | pickAuditor
  | pickExecutor
  | correction (target : String) (judgement : TaskPairVerdictJudgement)
  | doneReminder (target : String)
  | reworkNotice (target : String) (counts : TaskPairSeverityCounts)
  | brainReopenNotice (reason : Option String)
  | nextRoundNotice (note : Option String)
  | auditorProposalNudge (target : String)
  | convergenceCheckpointNudge (target : String)
  | auditRequest (target : String)
  | replaceAuditor
  | brainNotice (flag : TaskPairFlag)
  | slotChanged
  | queueSettings (brain : String) (maxConcurrency : Int)
  | closedPairNotice (target : String)
  | policyNotice (target taskId text : String)
deriving DecidableEq, Repr

inductive TaskPairEffect where
  | recorded | unrecognized | unresolved | queueSettings | created | updated | reopened
  | dispatched | status | titleUpdated | checklistUnchanged | checklistUpdated | inAuditGuarded
  | duplicateReady | verdict | verdictHeld | nextRound | forced | reportedToBrain
  | integrationDismissed | brainResolved | flag | reassignedAuditor | reassigned
deriving DecidableEq, Repr

structure TaskPairTransition where
  pair : Option TaskPairState
  fromStatus : Option TaskPairStatus
  toStatus : Option TaskPairStatus
  effect : TaskPairEffect
  unusual : Bool
  intents : List TaskPairIntent
  verdict : Option TaskPairVerdictJudgementResult
deriving DecidableEq, Repr

inductive TaskPairChecklistBox where
  | implemented | audited
deriving DecidableEq, Repr

/-- No indexes stand for all items. -/
structure TaskPairChecklistCheck where
  box : TaskPairChecklistBox
  indexes : List Nat
  checked : Bool
deriving DecidableEq, Repr

/-- Text processing that decides nothing about a pair's lifecycle, and the language's
Unicode case mapping. -/
structure TaskPairHost where
  toLowerCase : String → String
  /-- The turn's text without its markers, trimmed and cut to 4000 characters. -/
  noticeText : String → String
  hasAuditorProposal : String → Bool
  /-- A brief with the boxes of a check set, and which items that concerns. -/
  applyTaskPairChecklistCheck : String → TaskPairChecklistCheck → String × List Nat

end ImCodes.TaskPair
