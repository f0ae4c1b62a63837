import ImCodes.Library.Dictionary
import ImCodes.Library.RowLocks
import ImCodes.Library.Run
import ImCodes.Remote.ConsentLedger

/-!
# The server of attended consents

Any number of calls are under way at once. Each reads the database clock when its transaction
begins, then takes its locks and executes its statements, then commits or rolls back; between
these the other calls go on and the clock advances. A call that wants one row waits for its
lock; the calls that want many skip what is locked.
-/

set_option autoImplicit false

namespace ImCodes.Remote

open Library

/-- A call as its caller makes it. -/
inductive ConsentCall
  /-- The id is the one drawn for the request, and the flag what `dispatch` answers. -/
  | request (input : RequestConsentInput) (approvalId : String) (accepted : Bool)
  | record (input : NodeResultEnvelope)
  | cancel (input : CancelConsentsInput)
  | sweep (dispatches : Bool) (limit : Option Int)
  | consume (input : ConsumeConsentInput)
deriving DecidableEq

/-- What a call has to do on the database. -/
inductive ConsentJob
  | request (input : RequestConsentInput) (approvalId : String) (accepted : Bool)
  | record (input : NodeResultEnvelope) (message : NodeConsentMessage)
  /-- The cancellation of a request that was not dispatched raises its error in the end. -/
  | cancel (input : CancelConsentsInput) (raising : Option ConsentError)
  | sweep (dispatches : Bool) (limit : Nat)
  | consume (input : ConsumeConsentInput)
deriving DecidableEq

inductive ConsentOutcome
  | requested (consent : AttendedConsent)
  | recorded (accepted : Bool)
  | cancelled (consents : List AttendedConsent)
  | timedOut (consents : List AttendedConsent)
  | consumed (consent : AttendedConsent) (exactSessionResume : Bool)
  | threw (error : ConsentError)
  /-- The connection to the database was lost. -/
  | lost
deriving DecidableEq

inductive ConsentStage
  | called
  | begun (now : Int)
  /-- A request that is inserted and dispatched, before its row is read back. -/
  | dispatched
  /-- The statements are executed: the clock read at the beginning, the one at the time the
  locks were taken, and the rows as they were selected. -/
  | holding (now lockedAt : Int) (rows : List ConsentRow)
  | returned (outcome : ConsentOutcome)
deriving DecidableEq

inductive ConsentTask
  /-- It returned before it used the database. -/
  | refused (outcome : ConsentOutcome)
  | active (job : ConsentJob) (stage : ConsentStage)
deriving DecidableEq

/-- What was committed, by which call. -/
structure ConsentCommit where
  id : Nat
  job : ConsentJob
  now : Int
  lockedAt : Int
  outcome : ConsentOutcome
deriving DecidableEq

structure ConsentServer where
  consents : ConsentTable
  clock : Int
  tasks : Dictionary Nat ConsentTask
  locks : RowLocks String Nat
  /-- What was committed, in its order. -/
  history : List ConsentCommit
  /-- The commands handed to the dispatchers, in their order. -/
  sent : List ConsentDispatchCommand

def maxCancelBatch : Nat := 128
def defaultSweepLimit : Nat := 128

/-- The code of a call before its first query. -/
def ConsentCall.start : ConsentCall → Except ConsentOutcome ConsentJob
  | .request input approvalId accepted => .ok (.request input approvalId accepted)
  | .record input =>
    match input.nodeMessage? with
    | none => .error (.recorded false)
    | some message => .ok (.record input message)
  | .cancel input =>
    if input.selector.isValid then .ok (.cancel input none) else .error (.threw .invalidRequest)
  | .sweep dispatches limit =>
    let limit := limit.getD defaultSweepLimit
    if limit < 1 ∨ (defaultSweepLimit : Int) < limit then .error (.threw .invalidRequest)
    else .ok (.sweep dispatches limit.toNat)
  | .consume input =>
    if input.isValid then .ok (.consume input) else .error (.threw .invalidRequest)

namespace ConsentJob

/-- The id of the one row a call asks for. -/
def target : ConsentJob → Option String
  | .record _ message => some message.approvalId
  | .consume input => some input.approvalId
  | _ => none

/-- The locked row as the statements of the call leave it. -/
def leaves (job : ConsentJob) (now : Int) (row : ConsentRow) : ConsentRow :=
  match job with
  | .request .. => row
  | .record input message => (row.recordNodeMessage input message now).2
  | .cancel input _ => if row.isOpen then row.cancel input.reason input.trigger now else row
  | .sweep .. => if row.isOpen then row.timeOut now else row
  | .consume input => (row.consume input now).2

/-- What the transaction of the call gives, from the rows it selected. -/
def result (job : ConsentJob) (now : Int) (rows : List ConsentRow) :
    Except ConsentError ConsentOutcome :=
  match job with
  | .request .. => .error .invalidRequest
  | .record input message =>
    .ok (.recorded (rows.head?.any fun row => (row.recordNodeMessage input message now).1))
  | .cancel .. =>
    .ok (.cancelled ((rows.filter ConsentRow.isOpen).map fun row =>
      (job.leaves now row).toConsent))
  | .sweep .. =>
    .ok (.timedOut ((rows.filter ConsentRow.isOpen).map fun row =>
      (job.leaves now row).toConsent))
  | .consume input =>
    match rows.head? with
    | none => .error .notFound
    | some row => (row.consume input now).1.map fun answer => .consumed answer.1 answer.2

/-- The cancellations sent to the nodes after the transaction. -/
def notices (job : ConsentJob) (outcome : ConsentOutcome) : List ConsentDispatchCommand :=
  let notice (reason : ConsentCancelReason) (entry : AttendedConsent) : ConsentDispatchCommand :=
    ⟨entry.executionServerId, entry.daemonGeneration, .cancel entry.approvalId reason⟩
  match job, outcome with
  | .cancel input _, .cancelled consents =>
    if input.dispatches then consents.map (notice input.reason) else []
  | .sweep dispatches _, .timedOut consents =>
    if dispatches then consents.map (notice .timeout) else []
  | _, _ => []

/-- What the caller gets once the transaction is committed. -/
def answers (job : ConsentJob) (outcome : ConsentOutcome) : ConsentOutcome :=
  match job with
  | .cancel _ (some error) => .threw error
  | _ => outcome

@[simp] theorem leaves_approvalId (job : ConsentJob) (now : Int) (row : ConsentRow) :
    (job.leaves now row).approvalId = row.approvalId := by
  cases job with
  | request input approvalId accepted => rfl
  | record input message =>
    unfold leaves ConsentRow.recordNodeMessage
    cases message <;> (dsimp only; split_ifs <;> rfl)
  | cancel input raising =>
    simp only [leaves]
    split <;> rfl
  | sweep dispatches limit =>
    simp only [leaves]
    split <;> rfl
  | consume input =>
    simp only [leaves, ConsentRow.consume]
    split_ifs <;> rfl

end ConsentJob

namespace ConsentServer

def start (clock : Int) : ConsentServer where
  consents := Table.empty
  clock := clock
  tasks := Table.empty
  locks := RowLocks.none
  history := []
  sent := []

def setTask (server : ConsentServer) (id : Nat) (job : ConsentJob) (stage : ConsentStage) :
    ConsentServer :=
  { server with tasks := server.tasks.put id (.active job stage) }

/-- A call id is used once. -/
def call (server : ConsentServer) (id : Nat) (call : ConsentCall) : ConsentServer :=
  match server.tasks.get? id with
  | some _ => server
  | none =>
    match call.start with
    | .error outcome => { server with tasks := server.tasks.put id (.refused outcome) }
    | .ok job => server.setTask id job .called

/-- `BEGIN` and the reading of the clock; a request has no transaction and is checked after. -/
def begin (server : ConsentServer) (id : Nat) (job : ConsentJob) : ConsentServer :=
  if isSafeInteger server.clock then server.setTask id job (.begun server.clock)
  else server.setTask id job (.returned (.threw .invalidRequest))

def requestMessage (input : RequestConsentInput) (approvalId : String) (now : Int) :
    ConsentRequestMessage where
  approvalId := approvalId
  hostId := input.hostId
  mode := input.mode
  requesterLabel := input.requesterLabel
  createdAt := now
  deadlineAt := input.deadlineAt
  daemonGeneration := input.daemonGeneration

/-- `requestAttendedConsent` from its check to the answer of `dispatch`. -/
def insertConsent (server : ConsentServer) (id : Nat) (input : RequestConsentInput)
    (approvalId : String) (accepted : Bool) (now : Int) : ConsentServer :=
  let job : ConsentJob := .request input approvalId accepted
  if input.isValid now = false ∨ isRemoteDesktopId approvalId = false then
    server.setTask id job (.returned (.threw .invalidRequest))
  else
    let row := ConsentRow.requested input approvalId now
    match server.consents.insert row with
    | none => server.setTask id job (.returned (.threw .duplicateKey))
    | some consents =>
      let commit : ConsentCommit := ⟨id, job, now, server.clock, .requested row.toConsent⟩
      let inserted := { server with
        consents := consents
        history := server.history ++ [commit] }
      let message := requestMessage input approvalId now
      if message.isValid = false then
        inserted.setTask id job (.returned (.threw .invalidRequest))
      else
        let command : ConsentDispatchCommand :=
          ⟨input.executionServerId, input.daemonGeneration, .request message⟩
        let dispatched := { inserted with sent := inserted.sent ++ [command] }
        if accepted then dispatched.setTask id job .dispatched
        else
          let undo : CancelConsentsInput :=
            ⟨.approvalId approvalId, .localUiFailed, .callerCancel, false⟩
          dispatched.setTask id (.cancel undo (some .dispatchFailed)) .called

/-- `getAttendedConsent` at the end of a request. -/
def report (server : ConsentServer) (id : Nat) (job : ConsentJob) : ConsentServer :=
  match job with
  | .request _ approvalId _ =>
    match server.consents.lookup approvalId with
    | none => server.setTask id job (.returned (.threw .notFound))
    | some row => server.setTask id job (.returned (.requested row.toConsent))
  | _ => server

def isLocked (server : ConsentServer) (row : ConsentRow) : Bool :=
  (server.locks row.approvalId).isSome

/-- The rows a `SELECT ... ORDER BY ... FOR UPDATE SKIP LOCKED LIMIT` returns. -/
def freeRows (server : ConsentServer) (wanted : ConsentRow → Bool)
    (order : ConsentRow → ConsentRow → Prop) [DecidableRel order] (limit : Nat) :
    List ConsentRow :=
  ((server.consents.select fun row => wanted row && !server.isLocked row).insertionSort
    order).take limit

def cancelWants (input : CancelConsentsInput) (row : ConsentRow) : Bool :=
  input.selector.selects row && row.isOpen

def sweepWants (now : Int) (row : ConsentRow) : Bool :=
  decide (row.deadlineAt ≤ now) && row.isOpen

/-- The rows the `SELECT ... FOR UPDATE` of a call returns. -/
def selects (server : ConsentServer) (job : ConsentJob) (now : Int) : List ConsentRow :=
  match job with
  | .request .. => []
  | .record _ message => (server.consents.lookup message.approvalId).toList
  | .cancel input _ => server.freeRows (cancelWants input) ConsentRow.createdOrder maxCancelBatch
  | .sweep _ limit => server.freeRows (sweepWants now) ConsentRow.deadlineOrder limit
  | .consume input => (server.consents.lookup input.approvalId).toList

/-- A call that wants one row waits while another has it locked. -/
def waits (server : ConsentServer) : ConsentJob → Bool
  | .record _ message => (server.locks message.approvalId).isSome
  | .consume input => (server.locks input.approvalId).isSome
  | _ => false

def lockRows (server : ConsentServer) (id : Nat) (job : ConsentJob) (now : Int)
    (rows : List ConsentRow) : ConsentServer :=
  { server with locks := server.locks.acquire id (rows.map ConsentRow.approvalId) }.setTask id job
    (.holding now server.clock rows)

/-- The statements of a call after its reading of the clock. -/
def execute (server : ConsentServer) (id : Nat) (job : ConsentJob) (now : Int) : ConsentServer :=
  match job with
  | .request input approvalId accepted => server.insertConsent id input approvalId accepted now
  | job =>
    if server.waits job then server
    else server.lockRows id job now (server.selects job now)

def isHeldBy (server : ConsentServer) (id : Nat) (row : ConsentRow) : Bool :=
  server.locks row.approvalId = some id

/-- `COMMIT`, or `ROLLBACK` where the transaction raised an error. -/
def finish (server : ConsentServer) (id : Nat) (job : ConsentJob) (now lockedAt : Int)
    (rows : List ConsentRow) : ConsentServer :=
  let released := { server with locks := server.locks.release id }
  match job.result now rows with
  | .error error => released.setTask id job (.returned (.threw error))
  | .ok outcome =>
    let commit : ConsentCommit := ⟨id, job, now, lockedAt, outcome⟩
    { released with
      consents := server.consents.updateWhere (server.isHeldBy id) (job.leaves now)
        (job.leaves_approvalId now)
      history := server.history ++ [commit]
      sent := server.sent ++ job.notices outcome }.setTask id job
        (.returned (job.answers outcome))

/-- A call does what comes next in its code. -/
def advance (server : ConsentServer) (id : Nat) : ConsentServer :=
  match server.tasks.get? id with
  | some (.active job .called) => server.begin id job
  | some (.active job (.begun now)) => server.execute id job now
  | some (.active job .dispatched) => server.report id job
  | some (.active job (.holding now lockedAt rows)) => server.finish id job now lockedAt rows
  | _ => server

/-- The connection of a call is lost, and its transaction with it. -/
def lose (server : ConsentServer) (id : Nat) : ConsentServer :=
  match server.tasks.get? id with
  | some (.active _ (.returned _)) => server
  | some (.active job _) =>
    { server with locks := server.locks.release id }.setTask id job (.returned .lost)
  | _ => server

end ConsentServer

inductive ConsentAction
  /-- The database clock never goes back. -/
  | tick (elapsed : Nat)
  | call (id : Nat) (call : ConsentCall)
  | advance (id : Nat)
  | lose (id : Nat)
deriving DecidableEq

def ConsentServer.step (server : ConsentServer) : ConsentAction → ConsentServer
  | .tick elapsed => { server with clock := server.clock + elapsed }
  | .call id call => server.call id call
  | .advance id => server.advance id
  | .lose id => server.lose id

end ImCodes.Remote
