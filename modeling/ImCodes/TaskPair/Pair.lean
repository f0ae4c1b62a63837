import ImCodes.TaskPair.Types
import Mathlib.Algebra.GroupWithZero.Nat

/-!
# Operations on a task pair

What `applyTaskPairMarker` is made of: who a writer is to a pair, flags and caps, roles and
audit material named by a marker, and the judgement of a verdict.
-/

set_option autoImplicit false

namespace ImCodes.TaskPair

open Library

/-! ## Severities -/

def auditSeverityLevels : List AuditSeverity := [.p0, .p1, .p2, .p3, .p4]

namespace AuditSeverity

def text : AuditSeverity → String
  | .p0 => "P0"
  | .p1 => "P1"
  | .p2 => "P2"
  | .p3 => "P3"
  | .p4 => "P4"

/-- The attribute that counts findings of the severity. -/
def attr : AuditSeverity → String
  | .p0 => "p0"
  | .p1 => "p1"
  | .p2 => "p2"
  | .p3 => "p3"
  | .p4 => "p4"

def ofText? (text : String) : Option AuditSeverity :=
  auditSeverityLevels.find? fun level => level.text = text

end AuditSeverity

def TaskPairSeverityCounts.get (counts : TaskPairSeverityCounts) : AuditSeverity → Nat
  | .p0 => counts.p0
  | .p1 => counts.p1
  | .p2 => counts.p2
  | .p3 => counts.p3
  | .p4 => counts.p4

def normalizeAuditBlockingSeverities (value : Option (List AuditSeverity)) : List AuditSeverity :=
  let levels := auditSeverityLevels.filter fun level => level ∈ value.getD []
  if levels = [] then [.p0] else levels

def parseBlockingAttr (value : Option String) : Option (List AuditSeverity) :=
  value.map fun value => normalizeAuditBlockingSeverities <| some <|
    (splitCommas value).filterMap fun level =>
      AuditSeverity.ofText? (String.ofList ((trim level).toList.map Char.toUpper))

/-- REWORK needs a blocking finding, PASS must have none; a PASS with no severity at all
counts as zero. -/
def judgeTaskPairVerdict (verb : TaskPairVerdictVerb) (attrs : TaskPairAttrs)
    (pairBlocking : List AuditSeverity) : TaskPairVerdictJudgementResult :=
  let count := fun level : AuditSeverity =>
    ((attrs.get? level.attr).bind parseInt).elim 0 Int.toNat
  let counts : TaskPairSeverityCounts := ⟨count .p0, count .p1, count .p2, count .p3, count .p4⟩
  let hasSeverity := (attrs.get? "blocking").isSome ||
    auditSeverityLevels.any fun level => (attrs.get? level.attr).isSome
  let statedBlocking := parseBlockingAttr (attrs.get? "blocking")
  let blockingCount := (pairBlocking.map counts.get).sum
  let judgement :=
    if !hasSeverity then
      match verb with
      | .pass => TaskPairVerdictJudgement.implicitZero
      | .rework => .missingSeverity
    else
      match verb with
      | .pass => if blockingCount = 0 then .consistent else .inconsistent
      | .rework => if 1 ≤ blockingCount then .consistent else .inconsistent
  { judgement, counts, blockingCount, statedBlocking
    blockingMismatch := statedBlocking.any (· ≠ pairBlocking) }

def isAppliedVerdict (judgement : TaskPairVerdictJudgement) : Bool :=
  judgement = .consistent || judgement = .implicitZero

/-! ## Writers -/

/-- `auditor=none`: no audit wanted. -/
def taskPairNoAuditor : String := "none"

def taskPairInferTaskId : String := "-"

def isTerminalTaskPairStatus (status : TaskPairStatus) : Bool :=
  status = .done || status = .cancelled

def taskPairAuditHeldStatuses : List TaskPairStatus := [.inAudit, .awaitingAudit]

def taskPairOpenStatuses : List TaskPairStatus :=
  [.working, .inAudit, .awaitingAudit, .awaitingBrainDecision, .rework, .passed]

def taskPairRoleOf (pair : Option TaskPairState) (writer : String) : TaskPairRole :=
  if writer = "daemon" then .daemon
  else
    match pair with
    | none => .other
    | some pair =>
      if writer = pair.brain then .brain
      else if some writer = pair.executor then .executor
      else if some writer = pair.auditor then .auditor
      else .other

def isTaskPairSuspended (pair : TaskPairState) : Bool :=
  !(isTerminalTaskPairStatus pair.status) && pair.scheduling.any fun scheduling =>
    scheduling.manual || decide (0 < scheduling.dependsOn.length) ||
      scheduling.resumePending = some true

def taskPairDeliveryRound (deliveryRound : Option Nat) : Nat :=
  match deliveryRound with
  | some round => if 1 < round then round else 1
  | none => 1

def isTrue (value : Option String) : Bool :=
  value = some "true" || value = some "1" || value = some "yes"

def namedParticipantIsBusy (attrs : TaskPairAttrs) (busySessions : Option (List String)) : Bool :=
  busySessions.any fun busy =>
    (attrs.get? "executor").any (busy.contains ·) ||
      (attrs.get? "auditor").any fun auditor => auditor ≠ taskPairNoAuditor && busy.contains auditor

namespace TaskPairCappedReason

def flag : TaskPairCappedReason → TaskPairFlag
  | .verdictCorrection => .verdictInconsistent
  | .doneReminder => .awaitingAuditIgnored
  | .policyRejection => .policyViolation
  | .blockedReplacement => .replacementChurn
  | .unresolvedHint => .markersUnresolved

def all : List TaskPairCappedReason :=
  [.verdictCorrection, .doneReminder, .policyRejection, .blockedReplacement, .unresolvedHint]

end TaskPairCappedReason

def taskPairMessageCapPerRound : Nat := 2

namespace TaskPairState

def hasAudit (pair : TaskPairState) : Bool :=
  pair.auditor ≠ some taskPairNoAuditor

/-! ## Flags and caps -/

def addFlag (pair : TaskPairState) (flag : TaskPairFlag) : TaskPairState :=
  if pair.flags.contains flag then pair else { pair with flags := pair.flags ++ [flag] }

def removeFlag (pair : TaskPairState) (flag : TaskPairFlag) : TaskPairState :=
  { pair with flags := pair.flags.filter (· ≠ flag) }

def markTaskPairStarted (pair : TaskPairState) (now : Int) : TaskPairState :=
  { (pair.removeFlag .waitingForCapacity).removeFlag .noPoolConfigured with
    status := .working
    startedAt := some now
    capacityWaitReason := none }

/-- An authoritative reply resolves a participant's wait, whichever side raised it. -/
def resolveTaskPairBrainWait (pair : TaskPairState) (now : Int) (writer : String)
    (note : Option String) : TaskPairState :=
  let resolved : TaskPairState := { (pair.removeFlag .blocked).removeFlag .needsInput with
    blockedSide := none
    needsInputSide := none
    blockedNote := none
    lastWaitResolution := some ⟨writer, truthy note, now⟩ }
  if resolved.status = .awaitingBrainDecision then resolved.markTaskPairStarted now else resolved

def clearBlocked (pair : TaskPairState) : TaskPairState :=
  { pair.removeFlag .blocked with blockedSide := none, blockedNote := none }

def clearNeedsInput (pair : TaskPairState) : TaskPairState :=
  { pair.removeFlag .needsInput with needsInputSide := none, blockedNote := none }

def clearSideFlags (pair : TaskPairState) (role : TaskPairRole) (all : Bool) : TaskPairState :=
  let first := if all || pair.blockedSide = some role then pair.clearBlocked else pair
  if all || first.needsInputSide = some role then first.clearNeedsInput else first

def capCount (pair : TaskPairState) (reason : TaskPairCappedReason) : Nat :=
  ((pair.capCounts.find? fun count => count.1 = reason).map (·.2)).getD 0

/-- Spend one capped message; past the cap set the flag and tell Brain once. -/
def spendCap (pair : TaskPairState) (reason : TaskPairCappedReason) :
    Bool × TaskPairState × List TaskPairIntent :=
  let counted := if pair.capRound = pair.round then pair
    else { pair with capRound := pair.round, capCounts := [] }
  let used := counted.capCount reason
  if used < taskPairMessageCapPerRound then
    (true, { counted with capCounts :=
      (reason, used + 1) :: counted.capCounts.filter fun count => count.1 ≠ reason }, [])
  else if counted.flags.contains reason.flag then (false, counted, [])
  else (false, counted.addFlag reason.flag, [.brainNotice reason.flag])

/-- A new round or a Brain action clears the cap flags and counters. -/
def resetCaps (pair : TaskPairState) : TaskPairState :=
  { pair with
    capCounts := []
    capRound := pair.round
    flags := pair.flags.filter fun flag => flag ∉ TaskPairCappedReason.all.map (·.flag) }

/-! ## Roles -/

def applyWorkspaceAttr (pair : TaskPairState) (attrs : TaskPairAttrs) : TaskPairState :=
  let kind := match attrs.get? "workspace" with
    | some "worktree" => some TaskPairWorkspaceKind.worktree
    | some "dir" => some .dir
    | some "none" => some .none
    | _ => pair.workspaceKind
  { pair with
    workspaceKind := kind
    parallelInPlace := pair.parallelInPlace || attrs.get? "parallel" = some "true" }

def applyBlockingAttr (pair : TaskPairState) (attrs : TaskPairAttrs) : TaskPairState :=
  match parseBlockingAttr (attrs.get? "blocking") with
  | some blocking => { pair with blocking := blocking, blockingSource := some .explicit }
  | none => pair

def applyOutputAttr (pair : TaskPairState) (attrs : TaskPairAttrs) : TaskPairState :=
  match attrs.named? "output" with
  | some path => { pair with output := some ⟨path, attrs.named? "dest"⟩ }
  | none => pair

/-- The attributes both ways of naming roles share. -/
def applyRoleAttrs (pair : TaskPairState) (attrs : TaskPairAttrs) : TaskPairState :=
  { pair with
    executor := (attrs.named? "executor").or pair.executor
    executorModel := (attrs.named? "executormodel").or pair.executorModel
    executorThinking := (attrs.named? "executorthinking").or pair.executorThinking
    auditor := (attrs.named? "auditor").or pair.auditor
    auditorModel := (attrs.named? "auditormodel").or pair.auditorModel
    auditorThinking := (attrs.named? "auditorthinking").or pair.auditorThinking
    title := (attrs.named? "title").or pair.title
    executorPool := (attrs.named? "pool").or pair.executorPool }

def setRolesFromAttrsQueued (pair : TaskPairState) (attrs : TaskPairAttrs) : TaskPairState :=
  let named := pair.applyRoleAttrs attrs
  let placed := { named with
    urgent := match attrs.get? "urgent" with
      | some value => some (isTrue (some value))
      | none => named.urgent }.applyWorkspaceAttr attrs
  placed.applyBlockingAttr attrs

def setRolesFromAttrs (pair : TaskPairState) (attrs : TaskPairAttrs) :
    TaskPairState × List TaskPairIntent :=
  let audited := match attrs.named? "auditor" with
    | some auditor =>
      let kept := match truthy pair.auditor with
        | some previous =>
          if previous ≠ auditor && previous ≠ taskPairNoAuditor then
            { pair with previousAuditors := pair.previousAuditors ++ [previous] }
          else pair
        | none => pair
      kept.removeFlag .needsAuditor
    | none => pair
  let named := ((audited.applyRoleAttrs attrs).applyWorkspaceAttr attrs).applyBlockingAttr attrs
  if (truthy named.auditor).isNone then (named.addFlag .needsAuditor, [.pickAuditor])
  else (named, [])

def withBrief (pair : TaskPairState) (brief : Option String) : TaskPairState :=
  { pair with brief := brief.or pair.brief }

/-! ## What the operations change -/

section
variable (pair : TaskPairState)

theorem spendCap_changes (reason : TaskPairCappedReason) :
    ∃ flags round counts, (pair.spendCap reason).2.1 =
      { pair with flags := flags, capRound := round, capCounts := counts } := by
  unfold spendCap
  extract_lets counted used
  have countedIs : ∃ round counts, counted =
      { pair with capRound := round, capCounts := counts } := by
    simp only [counted]
    split <;> exact ⟨_, _, rfl⟩
  obtain ⟨round, counts, countedIs⟩ := countedIs
  rw [countedIs]
  split
  · exact ⟨_, _, _, rfl⟩
  · split
    · exact ⟨_, _, _, rfl⟩
    · unfold addFlag
      split <;> exact ⟨_, _, _, rfl⟩

theorem setRolesFromAttrs_changes (attrs : TaskPairAttrs) :
    ∃ flags previous blocking source, (pair.setRolesFromAttrs attrs).1 =
      { (pair.applyRoleAttrs attrs).applyWorkspaceAttr attrs with
        flags := flags
        previousAuditors := previous
        blocking := blocking
        blockingSource := source } := by
  unfold setRolesFromAttrs
  extract_lets audited named
  have auditedIs : ∃ flags previous, audited =
      { pair with flags := flags, previousAuditors := previous } := by
    simp only [audited]
    split
    · split
      · split <;> exact ⟨_, _, rfl⟩
      · exact ⟨_, _, rfl⟩
    · exact ⟨_, _, rfl⟩
  obtain ⟨flags, previous, auditedIs⟩ := auditedIs
  simp only [named, auditedIs, applyBlockingAttr, addFlag]
  repeat' split
  all_goals exact ⟨_, _, _, _, rfl⟩

end

/-! ## New pairs -/

def newPair (taskId brain : String) (ctx : TaskPairApplyContext) (status : TaskPairStatus) :
    TaskPairState where
  scheduling := none
  taskId := taskId
  brain := brain
  executor := none
  auditor := none
  title := none
  status := status
  flags := []
  blockedSide := none
  needsInputSide := none
  blockedNote := none
  lastWaitResolution := none
  round := 0
  passRound := none
  deliveryRound := none
  roundBase := none
  materialHold := none
  blocking := normalizeAuditBlockingSeverities ctx.projectBlocking
  blockingSource := some .config
  lastVerdict := none
  previousAuditors := []
  auditorPinned := none
  executorPool := none
  executorModel := none
  executorThinking := none
  auditorModel := none
  auditorThinking := none
  brief := none
  material := none
  workspace := none
  capacityWaitReason := none
  auditorProposalNudgeRound := none
  workspaceKind := none
  parallelInPlace := false
  urgent := none
  output := none
  capCounts := []
  capRound := 0
  closedNoticeSentTo := []
  inAuditNoticeRound := none
  integrationDismissedAt := none
  startedAt := if status = .queued then none else some ctx.now
  createdAt := ctx.now
  updatedAt := ctx.now

end TaskPairState

/-! ## Audit material -/

def isCommitId (text : String) : Bool :=
  decide (7 ≤ text.toList.length ∧ text.toList.length ≤ 64) &&
    text.toList.all fun c => c.isDigit || ('a' ≤ c && c ≤ 'f')

/-- Two commit ids name the same commit when one is a prefix of the other. -/
def sameTaskPairCommit (host : TaskPairHost) (a b : String) : Bool :=
  let left := host.toLowerCase (trim a)
  let right := host.toLowerCase (trim b)
  if !(isCommitId left) || !(isCommitId right) then left = right
  else right.toList.isPrefixOf left.toList || left.toList.isPrefixOf right.toList

def materialFromAttrs (attrs : TaskPairAttrs) (now : Int) : Option TaskPairMaterial :=
  let material : TaskPairMaterial := {
    worktree := attrs.named? "worktree"
    head := attrs.named? "head"
    base := attrs.named? "base"
    path := attrs.named? "path"
    report := false
    intentionalNote := (attrs.named? "intentionalNote").or (attrs.named? "note")
    files := attrs.named? "files"
    at_ := now }
  if material.worktree.isSome || material.head.isSome || material.base.isSome ||
      material.path.isSome then some material
  else none

def taskPairFileSet (files : Option String) : String :=
  String.intercalate "\n" <| sortByUtf16 <| ((splitCommas (files.getD "")).map fun file =>
    String.ofList ((trim file).toList.map fun c => if c = '\\' then '/' else c)).filter (· ≠ "")

def sameAuditMaterial (host : TaskPairHost) (current next : TaskPairMaterial) : Bool :=
  (match current.head, next.head with
    | some currentHead, some nextHead => sameTaskPairCommit host currentHead nextHead
    | none, none => true
    | _, _ => false) &&
  current.worktree = next.worktree && current.path = next.path &&
  taskPairFileSet current.files = taskPairFileSet next.files &&
  (match next.base, current.base with
    | none, _ => true
    | some _, none => false
    | some nextBase, some currentBase => sameTaskPairCommit host currentBase nextBase) &&
  (next.intentionalNote.isNone || next.intentionalNote = current.intentionalNote)

def TaskPairWorkspace.material (workspace : TaskPairWorkspace) (base : Option String) (now : Int) :
    TaskPairMaterial where
  worktree := none
  head := truthy workspace.lastHead
  base := base
  path := some workspace.path
  report := false
  intentionalNote := none
  files := none
  at_ := now

/-! ## Checklists -/

/-- The numbers of a list of items, if they all are safe integers from 1. -/
def checklistIndexes (items : String) : Option (List Nat) :=
  let numbers := (splitCommas items).map String.toList
  if numbers.all fun digits => digits ≠ [] && digits.all Char.isDigit then
    let indexes := numbers.map digitsValue
    if indexes.all fun index => decide (1 ≤ index ∧ index ≤ 9007199254740991) then some indexes
    else none
  else none

def parseTaskPairChecklistCheck (attrs : TaskPairAttrs) : Option TaskPairChecklistCheck := do
  let box ← match attrs.get? "box" with
    | some "implemented" => some TaskPairChecklistBox.implemented
    | some "audited" => some .audited
    | _ => none
  let items ← attrs.named? "items"
  let indexes ← if items = "all" then some [] else checklistIndexes items
  let checked ← match attrs.get? "checked" with
    | none | some "true" => some true
    | some "false" => some false
    | _ => none
  pure { box, indexes, checked }

end ImCodes.TaskPair
