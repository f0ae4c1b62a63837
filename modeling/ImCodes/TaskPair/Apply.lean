import ImCodes.TaskPair.Pair

/-!
# Applying a marker

`applyTaskPairMarker`: one marker of one writer applied to a pair, or to none yet. It never
refuses; what may not happen is recorded and leaves the pair as it was.
-/

set_option autoImplicit false

namespace ImCodes.TaskPair

open Library TaskPairState

def TaskPairVerb.text : TaskPairVerb → String
  | .dispatch => "DISPATCH"
  | .queue => "QUEUE"
  | .started => "STARTED"
  | .working => "WORKING"
  | .readyForAudit => "READY_FOR_AUDIT"
  | .pass => "PASS"
  | .rework => "REWORK"
  | .done => "DONE"
  | .blocked => "BLOCKED"
  | .needsInput => "NEEDS_INPUT"
  | .reassign => "REASSIGN"
  | .cancel => "CANCEL"
  | .claim => "CLAIM"
  | .check => "CHECK"
  | .nextRound => "NEXT_ROUND"

def TaskPairStatus.text : TaskPairStatus → String
  | .queued => "queued"
  | .working => "working"
  | .inAudit => "in_audit"
  | .awaitingAudit => "awaiting_audit"
  | .awaitingBrainDecision => "awaiting_brain_decision"
  | .rework => "rework"
  | .passed => "passed"
  | .done => "done"
  | .cancelled => "cancelled"

def taskPairCreateRequiredMessage : String :=
  "New Brain work on the pairs engine must use pair_create; send_message task metadata and " ++
    "new DISPATCH/QUEUE markers cannot create a pair."

/-! ## Transitions -/

def recorded (pair : Option TaskPairState) (unusual : Bool) (intents : List TaskPairIntent) :
    TaskPairTransition where
  pair := none
  fromStatus := pair.map (·.status)
  toStatus := pair.map (·.status)
  effect := .recorded
  unusual := unusual
  intents := intents
  verdict := none

def created (pair : TaskPairState) (unusual : Bool) (intents : List TaskPairIntent) :
    TaskPairTransition where
  pair := some pair
  fromStatus := none
  toStatus := some pair.status
  effect := .created
  unusual := unusual
  intents := intents
  verdict := none

/-- A transition under construction: the pair as it was, its updated copy, and what the
daemon is to do. -/
structure Draft where
  existing : TaskPairState
  pair : TaskPairState
  marker : TaskPairMarker
  ctx : TaskPairApplyContext
  role : TaskPairRole
  unusual : Bool
  intents : List TaskPairIntent

namespace Draft

def done (draft : Draft) (effect : TaskPairEffect) : TaskPairTransition where
  pair := some draft.pair
  fromStatus := some draft.existing.status
  toStatus := some draft.pair.status
  effect := effect
  unusual := draft.unusual
  intents := draft.intents
  verdict := none

def update (draft : Draft) (change : TaskPairState → TaskPairState) : Draft :=
  { draft with pair := change draft.pair }

def push (draft : Draft) (intents : List TaskPairIntent) : Draft :=
  { draft with intents := draft.intents ++ intents }

def keep (draft : Draft) : TaskPairTransition := recorded (some draft.existing) true []

def keepQuietly (draft : Draft) : TaskPairTransition := recorded (some draft.existing) false []

/-- A policy notice to the writer, and its pair unchanged but for the spent cap. -/
def reject (draft : Draft) (text : String) : TaskPairTransition :=
  let (allowed, spent, notices) := draft.pair.spendCap .policyRejection
  if allowed then
    (({ draft with pair := spent, unusual := true }.push notices).push
      [.policyNotice draft.ctx.writer draft.marker.taskId text]).done .recorded
  else draft.keep

def brainAuthority (draft : Draft) : Bool :=
  draft.role = .brain || draft.ctx.writer = draft.ctx.fallbackBrain

def roleAuthority (draft : Draft) : Bool := draft.brainAuthority || draft.role = .daemon

def terminal (draft : Draft) : Bool := isTerminalTaskPairStatus draft.existing.status

end Draft

/-! ## No pair yet -/

def createFromProgress (verb : TaskPairVerb) (marker : TaskPairMarker)
    (ctx : TaskPairApplyContext) : TaskPairTransition :=
  let fresh := { newPair marker.taskId ctx.fallbackBrain ctx .working with
    executor := some ctx.writer }
  let (pair, intents) := fresh.setRolesFromAttrs marker.attrs
  match verb with
  | .readyForAudit =>
    if pair.hasAudit then
      let audited := { pair with
        status := .inAudit
        round := 1
        material := materialFromAttrs marker.attrs ctx.now }
      match truthy pair.auditor with
      | some auditor => created audited true (intents ++ [.auditRequest auditor])
      | none => created audited true intents
    else created pair true intents
  | .done =>
    let stated := pair.applyOutputAttr marker.attrs
    if stated.hasAudit then
      let waiting := { stated with status := .awaitingAudit }
      let (allowed, spent, notices) := waiting.spendCap .doneReminder
      if allowed then created spent true (intents ++ notices ++ [.doneReminder ctx.writer])
      else created spent true (intents ++ notices)
    else created { stated with status := .awaitingBrainDecision } true intents
  | _ => created pair true intents

def createPair (verb : TaskPairVerb) (marker : TaskPairMarker) (ctx : TaskPairApplyContext) :
    TaskPairTransition :=
  let queued := ((newPair marker.taskId ctx.writer ctx .queued).setRolesFromAttrsQueued
    marker.attrs).withBrief marker.brief
  match verb with
  | .queue => created queued false [.slotChanged]
  | .dispatch =>
    -- A dispatch marker is gated by capacity exactly like QUEUE.
    if ctx.source = .marker then created queued false [.slotChanged]
    else if namedParticipantIsBusy marker.attrs ctx.busySessions then created queued false []
    else
      let (pair, intents) := (newPair marker.taskId ctx.writer ctx .working).setRolesFromAttrs
        marker.attrs
      let briefed := pair.withBrief marker.brief
      if (truthy briefed.executor).isNone then
        created briefed false (intents ++ [.pickExecutor])
      else created briefed false intents
  | .started | .working | .readyForAudit | .done => createFromProgress verb marker ctx
  | .pass | .rework =>
    recorded none true [.policyNotice ctx.writer marker.taskId
      ("No audit round is open for " ++ marker.taskId ++
        ". Brain must dispatch the pair and an executor must submit material with " ++
        "READY_FOR_AUDIT before the auditor can write " ++ verb.text ++ ".")]
  | .check =>
    recorded none true [.policyNotice ctx.writer marker.taskId
      ("No task pair " ++ marker.taskId ++
        " exists for this CHECK marker; it was recorded but not applied.")]
  | .cancel =>
    recorded none true [.policyNotice ctx.writer marker.taskId
      ("Only Brain or the daemon may CANCEL " ++ marker.taskId ++
        "; your marker was recorded but not applied.")]
  | _ => recorded none true []

/-! ## An existing pair, verb by verb -/

/-- Brain invalidates a PASS and reopens the pair. -/
def reopenPassed (draft : Draft) (verb : TaskPairVerb) : TaskPairTransition :=
  let reopened := draft.update fun pair => { pair with
    status := if verb = TaskPairVerb.rework then TaskPairStatus.rework else .working
    material := none
    passRound := none
    lastVerdict := none }.resetCaps
  (reopened.push [.brainReopenNotice (trimmed (draft.marker.attrs.get? "note"))]).done .reopened

def applyCheck (host : TaskPairHost) (draft : Draft) : TaskPairTransition :=
  match parseTaskPairChecklistCheck draft.marker.attrs with
  | none =>
    draft.reject ("CHECK requires box=implemented|audited, items=1,2,5|all, and optional " ++
      "checked=true|false.")
  | some check =>
    let allowed := draft.role = .brain || draft.role = .daemon ||
      (check.box = .implemented && draft.role = .executor) ||
      (check.box = .audited && draft.role = .auditor)
    if !allowed then
      draft.reject ("Only the executor may CHECK implemented items and only the auditor may " ++
        "CHECK audited items for " ++ draft.marker.taskId ++ "; Brain may update either box.")
    else
      let currentBrief := draft.pair.brief.getD ""
      let (markdown, indexes) := host.applyTaskPairChecklistCheck currentBrief check
      if indexes = [] ∨ markdown = currentBrief then draft.done .checklistUnchanged
      else (draft.update fun pair => { pair with brief := some markdown }).done .checklistUpdated

def applyQueue (draft : Draft) : TaskPairTransition :=
  let named := draft.update fun pair =>
    (pair.setRolesFromAttrsQueued draft.marker.attrs).withBrief draft.marker.brief
  if !draft.roleAuthority then draft.keep
  else if draft.pair.status = .queued then named.done .updated
  else if draft.terminal then
    let reopened := named.update fun pair => { pair with
      status := .queued
      closedNoticeSentTo := [] }
    ({ reopened with unusual := true }.push [.slotChanged]).done .reopened
  else draft.keep

/-- The pair queued again, its roles named for later. -/
def requeued (draft : Draft) : TaskPairTransition :=
  let queued := draft.update fun pair =>
    { pair.setRolesFromAttrsQueued draft.marker.attrs with status := .queued }
  (queued.push [.slotChanged]).done .dispatched

def applyDispatch (draft : Draft) : TaskPairTransition :=
  let attrs := draft.marker.attrs
  let busy := namedParticipantIsBusy attrs draft.ctx.busySessions
  if !draft.roleAuthority then draft.keep
  else if draft.terminal then
    draft.reject ("Task " ++ draft.marker.taskId ++ " is " ++ draft.pair.status.text ++
      "; only a title-only DISPATCH may update it. Use a new taskId instead of reviving a " ++
      "terminal pair.")
  else
    let reset := draft.update resetCaps
    let (named, notices) := reset.pair.setRolesFromAttrs attrs
    if reset.pair.status = .awaitingBrainDecision then
      if busy then requeued (reset.update (·.withBrief draft.marker.brief))
      else
        ({ reset with
          pair := (named.withBrief draft.marker.brief).markTaskPairStarted draft.ctx.now }.push
          notices).done .dispatched
    else if reset.pair.status = .queued ∧ draft.ctx.source ≠ .queue then
      requeued (reset.update (·.withBrief draft.marker.brief))
    else if busy then requeued reset
    else
      let placed := { reset with pair := named }.push notices
      let picked := if (truthy named.executor).isNone then placed.push [.pickExecutor] else placed
      if named.status = .queued then
        ((picked.update (·.markTaskPairStarted draft.ctx.now)).push [.slotChanged]).done .dispatched
      else picked.done .dispatched

/-- STARTED and WORKING. -/
def applyProgress (draft : Draft) (verb : TaskPairVerb) : TaskPairTransition :=
  let existing := draft.existing
  if draft.role = .executor && !draft.roleAuthority &&
      taskPairAuditHeldStatuses.contains existing.status then
    -- A status change would void the auditor's pending verdict.
    if existing.inAuditNoticeRound = some existing.round then
      { recorded (some existing) true [] with effect := .inAuditGuarded }
    else
      { pair := some { existing with
          updatedAt := draft.ctx.now
          inAuditNoticeRound := some existing.round }
        fromStatus := some existing.status
        toStatus := some existing.status
        effect := .inAuditGuarded
        unusual := true
        intents := [.policyNotice draft.ctx.writer draft.marker.taskId
          ("Your " ++ verb.text ++ " for " ++ draft.marker.taskId ++
            " was ignored: the pair is " ++
            (if existing.status = .inAudit then "in audit" else "awaiting audit") ++
            " and a status change would void the auditor's pending verdict. Answer questions " ++
            "with a plain reply (no marker); after new commits send a new READY_FOR_AUDIT " ++
            "with the new head.")]
        verdict := none }
  else if draft.pair.status = .awaitingBrainDecision then
    if draft.role = .executor || draft.roleAuthority then
      (draft.update (·.markTaskPairStarted draft.ctx.now)).done .status
    else
      draft.reject ("Only the executor or Brain may resume " ++ draft.marker.taskId ++
        " while it awaits Brain's decision; your marker was recorded but not applied.")
  else
    let status : TaskPairStatus := draft.pair.status
    let noted : Draft := { draft with
      unusual := draft.unusual || status = .inAudit || status = .passed || draft.terminal }
    let announced := if draft.terminal then noted.push [.slotChanged] else noted
    if status = .queued || draft.terminal then
      (announced.update (·.markTaskPairStarted draft.ctx.now)).done .status
    else (announced.update fun pair => { pair with status := .working }).done .status

/-- The material a READY_FOR_AUDIT writes, if any of its sources applies. -/
def readyMaterial (pair : TaskPairState) (attrs : TaskPairAttrs) (now : Int) :
    Option TaskPairMaterial :=
  let roundBase := pair.roundBase.map (·.commit)
  match materialFromAttrs attrs now with
  | some material => some { material with base := material.base.or (truthy roundBase) }
  | none =>
    if pair.workspaceKind = some .none then
      some ⟨none, none, truthy roundBase, none, true, none, none, now⟩
    else
      match pair.workspace with
      | some workspace =>
        if workspace.path = "" then none
        else some (workspace.material (truthy roundBase) now)
      | none => none

/-- The material a repeated READY_FOR_AUDIT is compared by. -/
def readyCandidate (pair : TaskPairState) (attrs : TaskPairAttrs) (now : Int) :
    Option TaskPairMaterial :=
  match materialFromAttrs attrs now with
  | some material =>
    some { material with base := material.base.or (truthy (pair.roundBase.map (·.commit))) }
  | none =>
    match pair.workspace with
    | some workspace => if workspace.path = "" then none else some (workspace.material none now)
    | none => none

/-- The base that a READY_FOR_AUDIT names against the base of its delivery round. -/
def mismatchedBase (host : TaskPairHost) (pair : TaskPairState) (attrs : TaskPairAttrs)
    (now : Int) : Option (String × String) :=
  match truthy (pair.roundBase.map (·.commit)), (materialFromAttrs attrs now).bind (·.base) with
  | some roundBase, some base =>
    if sameTaskPairCommit host base roundBase then none else some (roundBase, base)
  | _, _ => none

/-- The same material again while its round is open and not held. -/
def isDuplicateReady (host : TaskPairHost) (draft : Draft) : Bool :=
  draft.existing.status = .inAudit && draft.existing.materialHold.isNone &&
    draft.existing.material.any fun current =>
      (readyCandidate draft.pair draft.marker.attrs draft.ctx.now).any
        (sameAuditMaterial host current)

def auditRequests (pair : TaskPairState) : List TaskPairIntent :=
  match truthy pair.auditor with
  | some auditor => [.auditRequest auditor]
  | none => []

/-- A new audit round on the pair's material. -/
def openAuditRound (draft : Draft) : TaskPairTransition :=
  let status : TaskPairStatus := draft.pair.status
  let noted : Draft := { draft with
    unusual := draft.unusual || status = .queued || status = .passed || draft.terminal }
  let announced := if draft.terminal then noted.push [.slotChanged] else noted
  let opened := announced.update fun pair =>
    let entered : TaskPairState := { pair with status := .inAudit, round := pair.round + 1 }
    -- A blocking set from the configuration follows it at the start of each round.
    let judged : TaskPairState := if entered.blockingSource = some .explicit then entered
      else { entered with
        blocking := normalizeAuditBlockingSeverities draft.ctx.projectBlocking
        blockingSource := some .config }
    judged.resetCaps.removeFlag .executorSilent
  if (truthy opened.pair.auditor).isNone then
    ((opened.update (·.addFlag .needsAuditor)).push [.pickAuditor]).done .status
  else (opened.push (auditRequests opened.pair)).done .status

def applyReady (host : TaskPairHost) (draft : Draft) : TaskPairTransition :=
  let attrs := draft.marker.attrs
  let now := draft.ctx.now
  if !draft.pair.hasAudit then draft.keep
  else
    match mismatchedBase host draft.pair attrs now with
    | some (roundBase, base) =>
      draft.reject ("Delivery round " ++
        toString (taskPairDeliveryRound draft.pair.deliveryRound) ++ " of " ++
        draft.marker.taskId ++ " is based on " ++ roundBase ++ "; READY_FOR_AUDIT base=" ++
        base ++ " does not match. Omit base= or name " ++ roundBase ++
        ", rebase your work onto it, commit, and resend.")
    | none =>
      if isDuplicateReady host draft then { draft.keepQuietly with effect := .duplicateReady }
      else
        let submitted := draft.update fun pair => { pair with
          materialHold := none
          material := (readyMaterial draft.pair attrs now).or pair.material }
        if draft.pair.status = .inAudit then
          if (materialFromAttrs attrs now).isSome || draft.pair.materialHold.isSome then
            (submitted.push (auditRequests submitted.pair)).done .status
          else submitted.done .status
        else openAuditRound submitted

/-- What a judged verdict does to the pair. -/
def applyVerdict (host : TaskPairHost) (draft : Draft) (verb : TaskPairVerdictVerb)
    (verdict : TaskPairVerdictJudgementResult) : Draft :=
  let turnText := truthy draft.ctx.turnText
  let judged := draft.update fun pair => { pair with
    lastVerdict := some ⟨verb, verdict.counts, verdict.judgement, pair.round,
      truthy (turnText.map host.noticeText)⟩ }
  if !(isAppliedVerdict verdict.judgement) then
    let (allowed, spent, notices) := judged.pair.spendCap .verdictCorrection
    let noticed := { judged with pair := spent }.push notices
    if allowed then noticed.push [.correction draft.ctx.writer verdict.judgement] else noticed
  else
    let cleared := judged.update (·.removeFlag .verdictInconsistent)
    match verb with
    | .pass => cleared.update fun pair => { pair with
        status := .passed
        passRound := some pair.round }
    | .rework =>
      let wasRework := cleared.pair.status = .rework
      let reworked := cleared.update fun pair => { pair with status := .rework }
      let noticed := match truthy reworked.pair.executor with
        | some executor =>
          if wasRework then reworked else reworked.push [.reworkNotice executor verdict.counts]
        | none => reworked
      match truthy reworked.pair.auditor with
      | some auditor =>
        let nudged :=
          if some draft.ctx.writer = reworked.pair.auditor && auditor ≠ taskPairNoAuditor &&
              (turnText.any fun text => !(host.hasAuditorProposal text)) &&
              reworked.pair.auditorProposalNudgeRound ≠ some reworked.pair.round then
            (noticed.update fun pair => { pair with
              auditorProposalNudgeRound := some pair.round }).push
              [.auditorProposalNudge auditor]
          else noticed
        if 0 < reworked.pair.round ∧ reworked.pair.round % 2 = 0 ∧
            auditor ≠ taskPairNoAuditor then
          nudged.push [.convergenceCheckpointNudge auditor]
        else nudged
      | none => noticed

/-- A PASS on material that does not build on the round's base is held back. -/
def holdPass (draft : Draft) (held : TaskPairMaterialHold) : TaskPairTransition :=
  let blocked := draft.reject ("PASS for " ++ draft.marker.taskId ++
    " was held: the round's material head " ++ held.head ++
    " does not descend from the round base " ++ held.base ++
    ". The executor was asked to send a new READY_FOR_AUDIT; wait for the resent audit " ++
    "request (REWORK still applies).")
  match blocked.pair, truthy draft.pair.executor with
  | some _, some executor =>
    { blocked with intents := blocked.intents ++ [.policyNotice executor draft.marker.taskId
        ("A PASS for " ++ draft.marker.taskId ++ " was held: your head " ++ held.head ++
          " does not descend from the round base " ++ held.base ++
          ". Rebase or merge onto " ++ held.base ++
          ", commit, and send a new READY_FOR_AUDIT with the new head.")] }
  | _, _ => blocked

/-- PASS and REWORK. -/
def applyVerdictMarker (host : TaskPairHost) (draft : Draft) (verb : TaskPairVerdictVerb) :
    TaskPairTransition :=
  let verbText := match verb with
    | .pass => "PASS"
    | .rework => "REWORK"
  if !draft.pair.hasAudit ∨ draft.pair.status ≠ .inAudit ∨ draft.pair.material.isNone then
    draft.reject ("No material-backed audit round is open for " ++ draft.marker.taskId ++
      ". READY_FOR_AUDIT with material is required before PASS or REWORK can apply.")
  else if draft.role ≠ .auditor && !draft.roleAuthority then
    draft.reject ("Only the assigned auditor may write " ++ verbText ++ " for " ++
      draft.marker.taskId ++ "; your marker was recorded but not applied.")
  else
    match verb, draft.pair.materialHold with
    | .pass, some held => holdPass draft held
    | _, _ =>
      let verdict := judgeTaskPairVerdict verb draft.marker.attrs draft.pair.blocking
      let noted := { draft with unusual := draft.unusual || verdict.blockingMismatch }
      let judged := (applyVerdict host noted verb verdict).update fun pair =>
        { pair with materialHold := none }
      let settled := if draft.role = .brain then judged.update resetCaps else judged
      { settled.done (if isAppliedVerdict verdict.judgement then .verdict else .verdictHeld) with
        verdict := some verdict }

def isRoundBase (text : String) : Bool :=
  isCommitId (String.ofList (text.toList.map Char.toLower))

def applyNextRound (draft : Draft) : TaskPairTransition :=
  let taskId := draft.marker.taskId
  let named := (draft.marker.attrs.get? "base").map trim
  if !draft.brainAuthority then
    draft.reject ("Only Brain may open the next round of " ++ taskId ++
      "; your marker was recorded but not applied.")
  else if draft.terminal then
    draft.reject ("Task " ++ taskId ++ " is " ++ draft.pair.status.text ++
      "; a closed pair cannot start another round. Use a new taskId.")
  else if draft.pair.status ≠ .passed then
    draft.reject ("NEXT_ROUND applies only to a passed pair (" ++ taskId ++ " is " ++
      draft.pair.status.text ++ "); the current round is still open.")
  else if (truthy named).any fun base => !(isRoundBase base) then
    draft.reject ("NEXT_ROUND base= must be a commit id (7-64 hex characters), got \"" ++
      named.getD "" ++ "\".")
  else
    let previousHead := (draft.pair.material.bind (·.head)).or
      (draft.pair.workspace.bind (·.lastHead))
    let commit := truthy (named.or previousHead)
    let deliveryRound := taskPairDeliveryRound draft.pair.deliveryRound + 1
    let note := trimmed (draft.marker.attrs.get? "note")
    let opened := draft.update fun pair =>
      let resolved := pair.resolveTaskPairBrainWait draft.ctx.now draft.ctx.writer note
      { resolved with
        deliveryRound := some deliveryRound
        roundBase := commit.map fun commit =>
          { commit, deliveryRound, note
            source := if (truthy named).isSome then .brain else .passedHead
            previousHead := truthy previousHead
            at_ := draft.ctx.now }
        status := .working
        material := none
        passRound := none
        lastVerdict := none }.resetCaps.removeFlag .executorSilent
    (opened.push [.nextRoundNotice note]).done .nextRound

/-- Brain's word that a finished pair is not to be merged. -/
def dismissIntegration (existing : TaskPairState) (now : Int) : TaskPairTransition :=
  if existing.integrationDismissedAt.isSome then recorded (some existing) false []
  else
    { pair := some { existing with updatedAt := now, integrationDismissedAt := some now }
      fromStatus := some existing.status
      toStatus := some existing.status
      effect := .integrationDismissed
      unusual := false
      intents := []
      verdict := none }

def applyDone (draft : Draft) : TaskPairTransition :=
  let attrs := draft.marker.attrs
  let stated := draft.update (·.applyOutputAttr attrs)
  let close := fun (closing : Draft) (effect : TaskPairEffect) =>
    ((closing.update fun pair => { pair with status := .done }).push [.slotChanged]).done effect
  let hasAudit := draft.pair.hasAudit
  if draft.terminal && draft.existing.status = .done && draft.roleAuthority &&
      attrs.get? "integration" = some "dismiss" then
    dismissIntegration draft.existing draft.ctx.now
  else if draft.terminal then draft.keepQuietly
  else if draft.role = .brain && isTrue (attrs.get? "force") then
    if draft.pair.status ≠ .passed && hasAudit then
      close (stated.update (·.addFlag .unaudited)) .forced
    else close stated .forced
  else if hasAudit && draft.role = .executor && draft.pair.status = .passed then
    close stated .status
  else if !hasAudit && draft.roleAuthority then close stated .status
  else if !hasAudit && draft.role = .executor && draft.pair.status ≠ .awaitingBrainDecision then
    (stated.update fun pair => { pair with status := .awaitingBrainDecision }).done .reportedToBrain
  else
    draft.reject (if hasAudit then
        "DONE cannot close or advance an audited pair. The executor may DONE only after an " ++
        "auditor PASS has been applied in a material-backed audit round; Brain may use DONE " ++
        "force=true to accept."
      else
        "Only the executor may report completion. This pair cannot be closed by DONE from " ++
        "another participant; Brain decides with DONE or CANCEL.")

def isAboutAuditor (attrs : TaskPairAttrs) : Bool :=
  attrs.get? "about" = some "auditor" ||
    mentionsWord "auditor".toList false ((attrs.get? "note").getD "").toList

/-- BLOCKED and NEEDS_INPUT. -/
def applyWait (draft : Draft) (verb : TaskPairVerb) : TaskPairTransition :=
  let attrs := draft.marker.attrs
  let flag : TaskPairFlag := if verb = .blocked then .blocked else .needsInput
  let side := if verb = .blocked then draft.pair.blockedSide else draft.pair.needsInputSide
  if draft.terminal then draft.keepQuietly
  else if draft.roleAuthority then draft.done .brainResolved
  else
    let freshlyFlagged := !(draft.pair.flags.contains flag) || side ≠ some draft.role
    let flagged := (draft.update (·.addFlag flag)).update fun pair => { pair with
      blockedSide := if verb = .blocked then some draft.role else pair.blockedSide
      needsInputSide := if verb = .blocked then pair.needsInputSide else some draft.role
      blockedNote := trimmed (attrs.get? "note")
      lastWaitResolution := none }
    let told := if freshlyFlagged && draft.role = .executor then flagged.push [.brainNotice flag]
      else flagged
    if verb = .blocked && draft.role = .executor && isAboutAuditor attrs && told.pair.hasAudit then
      let (allowed, spent, notices) := told.pair.spendCap .blockedReplacement
      let counted := { told with pair := spent }.push notices
      (if allowed then counted.push [.replaceAuditor] else counted).done .flag
    else told.done .flag

def applyReassign (draft : Draft) : TaskPairTransition :=
  let attrs := draft.marker.attrs
  if !draft.roleAuthority || draft.terminal then draft.keep
  else
    let reset := if draft.role = .brain then draft.update resetCaps else draft
    let resumed := if reset.pair.status = .awaitingBrainDecision then
        reset.update (·.markTaskPairStarted draft.ctx.now)
      else reset
    let (named, notices) := resumed.pair.setRolesFromAttrs attrs
    let rolesChanged := (attrs.get? "executor").isSome || (attrs.get? "auditor").isSome
    let placed := ({ resumed with pair := named }.push notices).update fun pair =>
      let pinned := match attrs.get? "auditor" with
        | some auditor =>
          if draft.brainAuthority then
            { pair with
              auditorPinned := if auditor = taskPairNoAuditor then none else some auditor }
          else pair
        | none => pair
      if rolesChanged then
        { pinned.removeFlag .waitingForCapacity with capacityWaitReason := none }
      else pinned
    let queued :=
      if namedParticipantIsBusy attrs draft.ctx.busySessions then
        (placed.update fun pair =>
          let waiting := { pair with status := .queued }
          if rolesChanged then waiting.addFlag .waitingForCapacity else waiting).push [.slotChanged]
      else if placed.pair.status = .queued && rolesChanged then placed.push [.slotChanged]
      else placed
    let picked := if (truthy queued.pair.executor).isNone && (attrs.named? "executormodel").isSome
      then queued.push [.pickExecutor] else queued
    let settled := picked.update fun pair =>
      let heard := if (attrs.named? "executor").isSome then pair.removeFlag .executorSilent
        else pair
      if attrs.get? "auditor" = some taskPairNoAuditor && heard.status = .inAudit then
        { heard with status := .working }
      else heard
    settled.done (if resumed.pair.auditor = settled.pair.auditor then .reassigned
      else .reassignedAuditor)

def applyCancel (draft : Draft) : TaskPairTransition :=
  if !draft.roleAuthority then
    draft.reject ("Only Brain or the daemon may CANCEL a pair; your marker was recorded but " ++
      "not applied.")
  else if draft.existing.status = .done then dismissIntegration draft.existing draft.ctx.now
  else if draft.terminal then draft.keepQuietly
  else
    ((draft.update fun pair => { pair with status := .cancelled }).push [.slotChanged]).done .status

/-! ## Guards -/

/-- Tells the writer once for each closure that the pair is closed. -/
def noticeClosed (draft : Draft) : TaskPairTransition :=
  let existing := draft.existing
  if existing.closedNoticeSentTo.contains draft.ctx.writer then draft.keep
  else
    { pair := some { existing with
        updatedAt := draft.ctx.now
        closedNoticeSentTo := existing.closedNoticeSentTo ++ [draft.ctx.writer] }
      fromStatus := some existing.status
      toStatus := some existing.status
      effect := .recorded
      unusual := true
      intents := [.closedPairNotice draft.ctx.writer]
      verdict := none }

def isTitleOnlyDispatch (marker : TaskPairMarker) (verb : TaskPairVerb) : Bool :=
  verb = .dispatch && marker.attrs.length = 1 && (marker.attrs.get? "title").isSome &&
    marker.brief.all fun brief => trim brief = ""

def updateTitle (draft : Draft) : TaskPairTransition :=
  match trimmed (draft.marker.attrs.get? "title") with
  | some title =>
    if draft.roleAuthority then
      { pair := some { draft.existing with updatedAt := draft.ctx.now, title := some title }
        fromStatus := some draft.existing.status
        toStatus := some draft.existing.status
        effect := .titleUpdated
        unusual := false
        intents := []
        verdict := none }
    else draft.keep
  | none => draft.keep

/-- The markers that are answered before the pair is touched. -/
def guardedMarker (draft : Draft) (verb : TaskPairVerb) : Option TaskPairTransition :=
  let existing := draft.existing
  let source := draft.ctx.source
  if existing.status = .queued && (truthy existing.executor).isNone && !draft.roleAuthority &&
      [TaskPairVerb.started, .working, .readyForAudit, .done].contains verb then some draft.keep
  -- A queued pair starts only through the scheduler's admission.
  else if existing.status = .queued && source ≠ .queue &&
      [TaskPairVerb.started, .working, .readyForAudit].contains verb &&
      (!draft.roleAuthority || source = .implicitDispatch) then
    some (recorded (some existing) (source ≠ .implicitDispatch) [.slotChanged])
  else if draft.terminal && !draft.roleAuthority &&
      [TaskPairVerb.started, .working, .readyForAudit, .rework].contains verb then
    some (noticeClosed draft)
  else if isTitleOnlyDispatch draft.marker verb then some (updateTitle draft)
  else if (source = .heartbeat || source = .queue) && isTaskPairSuspended existing then
    some draft.keepQuietly
  else none

/-- A marker that is answered first tells its writer of the closed pair, or sets the title. -/
theorem guardedMarker_written {draft : Draft} {verb : TaskPairVerb}
    {transition : TaskPairTransition} (guarded : guardedMarker draft verb = some transition)
    {after : TaskPairState} (written : transition.pair = some after) : ∃ told title, after = { draft.existing with
      updatedAt := draft.ctx.now, closedNoticeSentTo := told, title := title } := by
  simp only [guardedMarker] at guarded
  split at guarded
  · cases guarded
    cases written
  · split at guarded
    · cases guarded
      cases written
    · split at guarded
      · cases guarded
        unfold noticeClosed at written
        dsimp only at written
        split at written <;> cases written
        exact ⟨_, _, rfl⟩
      · split at guarded
        · cases guarded
          unfold updateTitle at written
          split at written
          · split at written <;> cases written
            exact ⟨_, _, rfl⟩
          · cases written
        · split at guarded
          · cases guarded
            cases written
          · cases guarded

/-! ## The marker -/

def progressVerbs : List TaskPairVerb :=
  [.dispatch, .started, .working, .readyForAudit, .pass, .rework, .done]

/-- The copy of the pair a marker works on: side flags cleared by its writer, a wait resolved
by an authoritative reply. -/
def touched (draft : Draft) (verb : TaskPairVerb) : Draft :=
  let stamped := draft.update fun pair => { pair with updatedAt := draft.ctx.now }
  let cleared :=
    if (progressVerbs.contains verb && !(draft.terminal && verb = .dispatch)) ||
        (draft.roleAuthority && [TaskPairVerb.queue, .reassign].contains verb) then
      stamped.update (·.clearSideFlags draft.role draft.roleAuthority)
    else stamped
  if draft.roleAuthority &&
      [TaskPairVerb.started, .working, .dispatch, .queue, .reassign, .needsInput].contains verb then
    cleared.update (·.resolveTaskPairBrainWait draft.ctx.now draft.ctx.writer
      (draft.marker.attrs.get? "note"))
  else cleared

def reopensPassed (draft : Draft) (verb : TaskPairVerb) : Bool :=
  draft.pair.status = .passed && draft.role = .brain &&
    [TaskPairVerb.started, .working, .rework].contains verb

def isHistorical (draft : Draft) (verb : TaskPairVerb) : Bool :=
  [TaskPairVerb.started, .working, .readyForAudit, .pass, .rework, .check].contains verb &&
    (draft.terminal || (draft.pair.status = .passed && !(reopensPassed draft verb)))

def applyVerb (host : TaskPairHost) (draft : Draft) (verb : TaskPairVerb) : TaskPairTransition :=
  if isHistorical draft verb then draft.keep
  else if reopensPassed draft verb then reopenPassed draft verb
  else
    match verb with
    | .check => applyCheck host draft
    | .queue => applyQueue draft
    | .dispatch => applyDispatch draft
    | .started | .working => applyProgress draft verb
    | .readyForAudit => applyReady host draft
    | .pass => applyVerdictMarker host draft .pass
    | .rework => applyVerdictMarker host draft .rework
    | .nextRound => applyNextRound draft
    | .done => applyDone draft
    | .blocked | .needsInput => applyWait draft verb
    | .reassign => applyReassign draft
    | .cancel => applyCancel draft
    | .claim => draft.keep

/-- A marker that names no task: QUEUE then sets how many pairs may run at once. -/
def applyUnnamed (existing : Option TaskPairState) (verb : TaskPairVerb) (marker : TaskPairMarker)
    (ctx : TaskPairApplyContext) : TaskPairTransition :=
  if verb = .queue then
    match parseInt ((marker.attrs.get? "max").getD "") with
    | some max =>
      if 0 < max then
        { pair := none
          fromStatus := none
          toStatus := none
          effect := .queueSettings
          unusual := false
          intents := [.queueSettings ctx.writer max]
          verdict := none }
      else recorded none true []
    | none => recorded none true []
  else { recorded existing true [] with effect := .unresolved }

/-- Only `pair_create` may mint a pair for the Brain. -/
def requiresPairCreate (verb : TaskPairVerb) (ctx : TaskPairApplyContext) : Bool :=
  ctx.requireStructuredPairCreate && ctx.writer = ctx.fallbackBrain &&
    [TaskPairEventSource.marker, .implicitDispatch, .legacyTool].contains ctx.source &&
    [TaskPairVerb.dispatch, .queue].contains verb

def draftOf (existing : TaskPairState) (marker : TaskPairMarker) (ctx : TaskPairApplyContext) :
    Draft :=
  let role := taskPairRoleOf (some existing) ctx.writer
  { existing, pair := existing, marker, ctx, role
    unusual := role = .other
    intents := [] }

def applyToPair (host : TaskPairHost) (existing : TaskPairState) (verb : TaskPairVerb)
    (marker : TaskPairMarker) (ctx : TaskPairApplyContext) : TaskPairTransition :=
  let draft := draftOf existing marker ctx
  match guardedMarker draft verb with
  | some transition => transition
  | none => applyVerb host (touched draft verb) verb

def applyTaskPairMarker (host : TaskPairHost) (existing : Option TaskPairState)
    (marker : TaskPairMarker) (ctx : TaskPairApplyContext) : TaskPairTransition :=
  match marker.knownVerb with
  | none => { recorded existing true [] with effect := .unrecognized }
  | some verb =>
    if marker.taskId = taskPairInferTaskId then applyUnnamed existing verb marker ctx
    else
      match existing with
      | none =>
        if requiresPairCreate verb ctx then
          recorded none true
            [.policyNotice ctx.writer marker.taskId taskPairCreateRequiredMessage]
        else createPair verb marker ctx
      | some pair => applyToPair host pair verb marker ctx

def TaskPairTransition.after (transition : TaskPairTransition) (existing : Option TaskPairState) :
    Option TaskPairState :=
  transition.pair.or existing

end ImCodes.TaskPair
