import ImCodes.Delegation.ReplyEffects

/-!
# Closed delegations

A message is received once, keeps its notification, and is delivered once; one that is retired
stays so. An authority that was closed stays closed unless a new result is received for it, which
the store admits for the task-bound ones, or the last message it still has is delivered.
-/

set_option autoImplicit false

namespace ImCodes.Delegation

open Library DelegationReplyStore

/-- A store beside what has happened to it. -/
structure ReplyRun where
  store : DelegationReplyStore
  /-- The authorities an operation closed. -/
  closed : List String
  /-- The operations with their answers, in their order. -/
  answers : List (ReplyOperation × ReplyAnswer)

namespace ReplyOperation

def ends (delegationId : String) : ReplyOperation → Bool
  | .expire named | .retireForEndedTask named => named = delegationId
  | _ => false

/-- What an operation closes: the authorities it leaves expired that it names or that were open.
A `receive` that comes after the deadline closes nothing in this sense. -/
def closes (operation : ReplyOperation) (store after : DelegationReplyStore) : List String :=
  match operation with
  | .receive .. => []
  | _ =>
    (after.authorities.rows.filter fun row => row.status = .expired &&
      (operation.ends row.delegationId ||
        (store.authorities.lookup row.delegationId).any fun old => old.status ≠ .expired)).map
      ReplyAuthority.delegationId

end ReplyOperation

namespace ReplyRun

def start : ReplyRun := ⟨.empty, [], []⟩

def next (current : ReplyRun) (operation : ReplyOperation)
    (performed : DelegationReplyStore × ReplyAnswer) : ReplyRun :=
  ⟨performed.1, current.closed ++ operation.closes current.store performed.1,
    current.answers ++ [(operation, performed.2)]⟩

def step (resultKey : String → String) (current : ReplyRun) (action : Int × ReplyOperation) :
    ReplyRun :=
  current.next action.2 (current.store.perform resultKey action.1 action.2)

end ReplyRun

/-- The operation received this result of this delegation, and answered with this notification. -/
def Receipt (delegationId result notificationId : String) (replay : Bool)
    (entry : ReplyOperation × ReplyAnswer) : Prop :=
  ∃ input drawn record, entry.1 = .receive input drawn ∧ input.delegationId = delegationId ∧
    input.result = result ∧ entry.2 = .received (.ok (record, replay)) ∧
    record.notificationId = notificationId

def marks (notificationId : String) (entry : ReplyOperation × ReplyAnswer) : Bool :=
  match entry with
  | (.markDelivered _ marked, .delivered true) => marked = notificationId
  | _ => false

def ReplyRun.StaysClosed (current : ReplyRun) : Prop :=
  ∀ delegationId ∈ current.closed, ∀ row ∈ current.store.authorities,
    row.delegationId = delegationId → row.status = .expired

/-- A result received before is taken as a replay, from the sender the delegation expects and
unless it is refused as expired. -/
def ReplyRun.AnswersAgain (resultKey : String → String) (current : ReplyRun) (now : Int)
    (input : ReceiveInput) (drawn : String) : Prop :=
  ∀ old ∈ current.answers, ∀ first replay,
    Receipt input.delegationId input.result first replay old → first ≠ "" →
    ∀ record, current.store.get input.delegationId = some record →
      input.authorizedSender.getD record.target = input.sender →
      (record.isTaskBound = false → record.status ≠ .expired ∧ now < record.expiresAt) →
      ∃ again, (current.store.receive resultKey input drawn now).2 = .ok (again, true)

/-- What the run promises of the delegations. -/
structure KeepsPromises (resultKey : String → String) (actions : List (Int × ReplyOperation)) :
    Prop where
  /-- A result that comes again is answered with the notification of its first receipt. -/
  replays : AtEach (fun earlier entry => ∀ delegationId result notificationId replay,
      Receipt delegationId result notificationId replay entry →
      ∀ old ∈ earlier, ∀ first before, Receipt delegationId result first before old →
        notificationId = first ∧ replay = true)
    (run (ReplyRun.step resultKey) .start actions).answers
  /-- It is answered whenever its sender is the one expected and the delegation has not expired. -/
  answered : ∀ before now input drawn after,
    actions = before ++ (now, .receive input drawn) :: after →
    ReplyRun.AnswersAgain resultKey (run (ReplyRun.step resultKey) .start before) now input drawn
  bounded : Always (ReplyRun.step resultKey) (fun current => ∀ delegationId,
    current.store.messageCount delegationId ≤ replyMaxMessages) .start actions
  once : ∀ notificationId,
    (run (ReplyRun.step resultKey) .start actions).answers.countP (marks notificationId) ≤ 1
  closed : Always (ReplyRun.step resultKey) ReplyRun.StaysClosed .start actions
  retired : ∀ before between after, actions = before ++ between ++ after →
    ∀ message ∈ (run (ReplyRun.step resultKey) .start before).store.messages,
      message.status = .expired →
      ∃ later ∈ (run (ReplyRun.step resultKey) .start (before ++ between)).store.messages,
        later.tag = message.tag ∧ later.status = .expired

/-- The operation leaves what is closed closed. -/
def ReplyRun.LeavesClosed (resultKey : String → String) (current : ReplyRun)
    (action : Int × ReplyOperation) : Prop :=
  match action.2 with
  | .receive input notificationId => input.delegationId ∈ current.closed → input.hold = false →
      current.store.admits resultKey input notificationId = false
  | .markDelivered delegationId notificationId => delegationId ∈ current.closed →
      current.store.deliversLast delegationId notificationId = false
  | _ => True

/-! ## What every run keeps -/

/-- A notification that was marked has its message delivered, and was marked once. -/
def ReplyRun.MarkedOnce (current : ReplyRun) (notificationId : String) : Prop :=
  current.answers.countP (marks notificationId) = 0 ∨
    (current.answers.countP (marks notificationId) = 1 ∧
      ∃ message ∈ current.store.messages, message.notificationId = notificationId ∧
        message.status = .delivered)

/-- The run so far answers for its messages. -/
structure ReplyRun.IsSound (resultKey : String → String) (current : ReplyRun) : Prop where
  unique : current.store.HasUniqueNotifications
  bounded : ∀ delegationId, current.store.messageCount delegationId ≤ replyMaxMessages
  stored : ∀ entry ∈ current.answers, ∀ delegationId result notificationId replay,
    Receipt delegationId result notificationId replay entry →
    ∃ message ∈ current.store.messages,
      message.tag = (delegationId, resultKey result, notificationId)
  replays : AtEach (fun earlier entry => ∀ delegationId result notificationId replay,
      Receipt delegationId result notificationId replay entry →
      ∀ old ∈ earlier, ∀ first before, Receipt delegationId result first before old →
        notificationId = first ∧ replay = true) current.answers
  once : ∀ notificationId, current.MarkedOnce notificationId
  known : ∀ delegationId ∈ current.closed,
    ∃ row ∈ current.store.authorities, row.delegationId = delegationId

namespace ReplyRun

variable {resultKey : String → String} {current : ReplyRun}

theorem start_isSound : start.IsSound resultKey where
  unique := List.nodup_nil
  bounded := fun _ => Nat.zero_le _
  stored := by
    intro entry impossible
    cases impossible
  replays := atEach_nil
  once := fun _ => .inl rfl
  known := by
    intro delegationId impossible
    cases impossible

theorem known_after {after : DelegationReplyStore} (operation : ReplyOperation)
    (known : ∀ delegationId ∈ current.closed,
      ∃ row ∈ current.store.authorities, row.delegationId = delegationId)
    (kept : ∀ row ∈ current.store.authorities,
      ∃ later ∈ after.authorities, later.delegationId = row.delegationId) :
    ∀ delegationId ∈ current.closed ++ operation.closes current.store after,
      ∃ row ∈ after.authorities, row.delegationId = delegationId := by
  intro delegationId member
  rcases List.mem_append.mp member with earlier | isNew
  · obtain ⟨row, isRow, rfl⟩ := known delegationId earlier
    exact kept row isRow
  · have closes : delegationId ∈ (after.authorities.rows.map ReplyAuthority.delegationId) := by
      cases operation with
      | receive input notificationId => cases isNew
      | _ => exact (List.filter_sublist.map ReplyAuthority.delegationId).subset isNew
    obtain ⟨row, isRow, same⟩ := List.mem_map.mp closes
    exact ⟨row, isRow, same⟩

theorem notification_unique {store : DelegationReplyStore} {message other : ReplyMessage}
    {delegationId key notificationId otherId : String} (isMessage : message ∈ store.messages)
    (isOther : other ∈ store.messages) (tagged : message.tag = (delegationId, key, notificationId))
    (otherTag : other.tag = (delegationId, key, otherId)) : notificationId = otherId := by
  simp only [ReplyMessage.tag, Prod.mk.injEq] at tagged otherTag
  have sameKey : message.key = other.key := by
    simp only [ReplyMessage.key, tagged, otherTag]
  have same := Table.eq_of_key isMessage isOther sameKey
  rw [← tagged.2.2, ← otherTag.2.2, same]

theorem IsSound.of_keeps (sound : current.IsSound resultKey) (operation : ReplyOperation)
    (performed : DelegationReplyStore × ReplyAnswer)
    (keeps : current.store.MessagesKeep performed.1)
    (kept : ∀ row ∈ current.store.authorities,
      ∃ later ∈ performed.1.authorities, later.delegationId = row.delegationId)
    (replayed : ∀ delegationId result notificationId replay,
      Receipt delegationId result notificationId replay (operation, performed.2) →
        (∃ message ∈ current.store.messages,
          message.tag = (delegationId, resultKey result, notificationId)) ∧ replay = true)
    (marked : ∀ notificationId, (current.next operation performed).MarkedOnce notificationId) :
    (current.next operation performed).IsSound resultKey where
  unique := by
    rw [next, DelegationReplyStore.HasUniqueNotifications, keeps.notificationIds]
    exact sound.unique
  bounded := by
    intro delegationId
    rw [next, keeps.messageCount]
    exact sound.bounded delegationId
  stored := by
    intro old member delegationId result notificationId replay receipt
    have before : ∃ message ∈ current.store.messages,
        message.tag = (delegationId, resultKey result, notificationId) := by
      rcases List.mem_append.mp member with earlier | isLast
      · exact sound.stored old earlier delegationId result notificationId replay receipt
      · rw [List.mem_singleton.mp isLast] at receipt
        exact (replayed delegationId result notificationId replay receipt).1
    obtain ⟨message, isMessage, tagged⟩ := before
    obtain ⟨later, isLater, same⟩ := keeps.mem_tag isMessage
    exact ⟨later, isLater, same.trans tagged⟩
  replays := by
    refine atEach_concat.mpr ⟨sound.replays, ?_⟩
    intro delegationId result notificationId replay receipt old isOld first before wasReceipt
    obtain ⟨⟨message, isMessage, tagged⟩, isReplay⟩ :=
      replayed delegationId result notificationId replay receipt
    obtain ⟨stored, isStored, storedTag⟩ :=
      sound.stored old isOld delegationId result first before wasReceipt
    exact ⟨notification_unique isMessage isStored tagged storedTag, isReplay⟩
  once := marked
  known := known_after operation sound.known kept

theorem MarkedOnce.of_unmarked {notificationId : String} {after : DelegationReplyStore}
    {closed : List String} {entry : ReplyOperation × ReplyAnswer}
    (marked : current.MarkedOnce notificationId) (unmarked : marks notificationId entry = false)
    (settled : ∀ message ∈ current.store.messages, message.isSettled = true →
      message ∈ after.messages) :
    MarkedOnce ⟨after, closed, current.answers ++ [entry]⟩ notificationId := by
  have same : (current.answers ++ [entry]).countP (marks notificationId) =
      current.answers.countP (marks notificationId) := by
    simp [List.countP_append, unmarked]
  rcases marked with never | ⟨once, message, isMessage, named, delivered⟩
  · exact .inl (same.trans never)
  · refine .inr ⟨same.trans once, message, settled message isMessage ?_, named, delivered⟩
    simp [ReplyMessage.isSettled, delivered]

theorem IsSound.of_accepts (sound : current.IsSound resultKey) {now : Int} {input : ReceiveInput}
    {notificationId : String} {record : ReplyRecord} {after : DelegationReplyStore}
    {messages : Table ReplyMessage (String × String) ReplyMessage.key}
    (isAfter : after =
      { current.store with messages := messages }.receiveAuthority input notificationId now)
    (room : current.store.messageCount input.delegationId < replyMaxMessages)
    (fresh : ∀ message ∈ current.store.messages, message.notificationId ≠ notificationId)
    (inserted : current.store.messages.insert
      (receivedMessage resultKey input notificationId now) = some messages)
    (named : record.notificationId = notificationId)
    (marked : ∀ marked, (current.next (.receive input notificationId)
      (after, .received (.ok (record, false)))).MarkedOnce marked) :
    (current.next (.receive input notificationId)
      (after, .received (.ok (record, false)))).IsSound resultKey := by
  have same : after.messages = messages := by
    rw [isAfter, receiveAuthority_messages]
  have rows := (Table.insert_eq_some inserted).1
  constructor
  case unique =>
    change (after.messages.rows.map ReplyMessage.notificationId).Nodup
    rw [same, rows, List.map_append]
    refine List.nodup_append.mpr ⟨sound.unique, List.nodup_singleton _, ?_⟩
    intro old isOld added isAdded equal
    obtain ⟨message, isMessage, rfl⟩ := List.mem_map.mp isOld
    rw [List.map_singleton, List.mem_singleton] at isAdded
    exact fresh message isMessage (equal.trans isAdded)
  case bounded =>
    intro delegationId
    change after.messages.changes _ ≤ _
    rw [same, Table.changes, rows, List.countP_append, List.countP_singleton]
    have before := sound.bounded delegationId
    change current.store.messages.rows.countP _ ≤ _ at before
    split
    · next isIt =>
        have isDelegation : input.delegationId = delegationId := of_decide_eq_true isIt
        change current.store.messages.rows.countP _ < _ at room
        rw [isDelegation] at room
        exact room
    · exact before
  case stored =>
    intro entry member delegationId result drawn replay receipt
    change ∃ message ∈ after.messages, _
    rw [same]
    rcases List.mem_append.mp member with earlier | isLast
    · obtain ⟨message, isMessage, tagged⟩ :=
        sound.stored entry earlier delegationId result drawn replay receipt
      exact ⟨message, (Table.mem_insert inserted).mpr (.inl isMessage), tagged⟩
    · rw [List.mem_singleton.mp isLast] at receipt
      obtain ⟨_, _, _, isIt, isDelegation, isResult, answered, isDrawn⟩ := receipt
      cases isIt
      cases answered
      subst isDelegation isResult isDrawn
      refine ⟨_, (Table.mem_insert inserted).mpr (.inr rfl), ?_⟩
      rw [named]
      rfl
  case replays =>
    refine atEach_concat.mpr ⟨sound.replays, ?_⟩
    intro delegationId result drawn replay receipt old isOld first before wasReceipt
    obtain ⟨message, isMessage, tagged⟩ :=
      sound.stored old isOld delegationId result first before wasReceipt
    obtain ⟨_, _, _, isIt, isDelegation, isResult, -, -⟩ := receipt
    cases isIt
    subst isDelegation isResult
    simp only [ReplyMessage.tag, Prod.mk.injEq] at tagged
    have sameKey : message.key = (receivedMessage resultKey input notificationId now).key := by
      simp only [ReplyMessage.key, tagged]
      rfl
    exact absurd sameKey ((Table.insert_eq_some inserted).2 message isMessage)
  case once => exact marked
  case known =>
    apply known_after _ sound.known
    intro row member
    obtain ⟨later, isLater, sameId, -⟩ := @receiveAuthority_changesOnly
      { current.store with messages := messages } input notificationId now row member
    exact ⟨later, by rw [isAfter]; exact isLater, sameId⟩

theorem isSound_receive (sound : current.IsSound resultKey) (now : Int) (input : ReceiveInput)
    (notificationId : String) :
    (step resultKey current (now, .receive input notificationId)).IsSound resultKey := by
  have receives := receive_receives resultKey current.store input
    notificationId now
  change (current.next (.receive input notificationId)
    ((current.store.receive resultKey input notificationId now).map id .received)).IsSound resultKey
  generalize current.store.receive resultKey input notificationId now = performed at receives
  have unmarked : ∀ marked (after : DelegationReplyStore) answer, (∀ message ∈ current.store.messages,
      message.isSettled = true → message ∈ after.messages) →
      (current.next (.receive input notificationId) (after, answer)).MarkedOnce marked :=
    fun marked _ _ settled => (sound.once marked).of_unmarked rfl settled
  cases receives with
  | refuses refusal shut =>
    apply sound.of_keeps _ _ (.of_eq rfl)
    · intro row member
      exact ⟨row, member, rfl⟩
    · intro delegationId result drawn replay ⟨_, _, record, _, _, _, answered, _⟩
      cases answered
    · exact fun marked => unmarked marked _ _ fun _ member _ => member
  | lapses shut =>
    apply sound.of_keeps _ _ (.of_eq rfl)
    · intro row member
      obtain ⟨later, isLater, same, -⟩ := @expiredStays_setStatus
        current.store now (fun row => row.delegationId = input.delegationId) row member
      exact ⟨later, isLater, same⟩
    · intro delegationId result drawn replay ⟨_, _, record, _, _, _, answered, _⟩
      cases answered
    · exact fun marked => unmarked marked _ _ fun _ member _ => member
  | replays message record stored found =>
    apply sound.of_keeps _ _ (.of_eq rfl)
    · intro row member
      exact ⟨row, member, rfl⟩
    · intro delegationId result drawn replay ⟨_, _, _, isIt, isDelegation, isResult, answered, named⟩
      cases isIt
      cases answered
      subst isDelegation isResult named
      have isMessage := Table.lookup_eq_some_iff.mp stored
      obtain ⟨_, -, -, sameId, _, -, isRecord⟩ := getMessage_eq_some found
      refine ⟨⟨message, isMessage.1, ?_⟩, rfl⟩
      have sameKey := isMessage.2
      simp only [ReplyMessage.key, Prod.mk.injEq] at sameKey
      simp only [ReplyMessage.tag, sameKey, isRecord, ReplyMessage.record, sameId]
    · exact fun marked => unmarked marked _ _ fun _ member _ => member
  | accepts authority messages record found live admitted room fresh inserted named =>
    exact sound.of_accepts rfl room fresh inserted named
      fun marked => unmarked marked _ _ fun message member _ => by
        change message ∈ (receiveAuthority _ input notificationId now).messages
        rw [receiveAuthority_messages]
        exact (Table.mem_insert inserted).mpr (.inl member)

theorem isSound_quiet (sound : current.IsSound resultKey) (now : Int) {operation : ReplyOperation}
    (quiet : operation.isQuiet) : (step resultKey current (now, operation)).IsSound resultKey := by
  have keeps := current.store.perform_messages resultKey now quiet
  have stays := current.store.perform_expired resultKey now quiet
  apply sound.of_keeps operation (current.store.perform resultKey now operation) keeps
  · intro row member
    obtain ⟨later, isLater, same, -⟩ := stays row member
    exact ⟨later, isLater, same⟩
  · intro delegationId result notificationId replay ⟨input, drawn, record, isReceive, _⟩
    change operation = _ at isReceive
    rw [isReceive] at quiet
    cases quiet
  · intro notificationId
    apply (sound.once notificationId).of_unmarked _ keeps.settled
    cases operation with
    | markDelivered delegationId marked => cases quiet
    | _ => rfl

theorem isSound_markDelivered (sound : current.IsSound resultKey) (now : Int)
    (delegationId notificationId : String) :
    (step resultKey current (now, .markDelivered delegationId notificationId)).IsSound
      resultKey := by
  have keeps := @markDelivered_messages current.store delegationId
    notificationId now
  apply sound.of_keeps (.markDelivered delegationId notificationId)
    (current.store.perform resultKey now (.markDelivered delegationId notificationId)) keeps
  · intro row member
    obtain ⟨later, isLater, same, -⟩ := markDelivered_changesOnly
      sound.unique delegationId notificationId now row member
    exact ⟨later, isLater, same⟩
  · intro id result answered replay ⟨input, drawn, record, isReceive, _⟩
    cases isReceive
  · intro marked
    cases isMarked : marks marked (ReplyOperation.markDelivered delegationId notificationId,
        (current.store.perform resultKey now (.markDelivered delegationId notificationId)).2) with
    | false => exact (sound.once marked).of_unmarked isMarked keeps.settled
    | true =>
      have answered : (current.store.markDelivered delegationId notificationId now).2 = true ∧
          notificationId = marked := by
        change marks marked (ReplyOperation.markDelivered delegationId notificationId,
          .delivered (current.store.markDelivered delegationId notificationId now).2) = true
          at isMarked
        cases answer : (current.store.markDelivered delegationId notificationId now).2 with
        | false =>
          rw [answer] at isMarked
          cases isMarked
        | true =>
          rw [answer] at isMarked
          exact ⟨rfl, of_decide_eq_true isMarked⟩
      obtain ⟨done, rfl⟩ := answered
      obtain ⟨message, isMessage, named, received, later, isLater, laterNamed, delivered⟩ :=
        markDelivered_true done
      have never : current.answers.countP (marks notificationId) = 0 := by
        rcases sound.once notificationId with never | ⟨-, other, isOther, otherNamed, wasDelivered⟩
        · exact never
        · have same := eq_of_notificationId sound.unique isMessage isOther
            (named.trans otherNamed.symm)
          rw [same, wasDelivered] at received
          cases received
      refine .inr ⟨?_, later, isLater, laterNamed, delivered⟩
      change (current.answers ++ [_]).countP (marks notificationId) = 1
      simp only [List.countP_append, never, List.countP_singleton]
      rw [if_pos isMarked]

theorem isSound_step (current : ReplyRun) (action : Int × ReplyOperation)
    (sound : current.IsSound resultKey) : (step resultKey current action).IsSound resultKey := by
  obtain ⟨now, operation⟩ := action
  cases operation with
  | receive input notificationId => exact isSound_receive sound now input notificationId
  | markDelivered delegationId notificationId =>
    exact isSound_markDelivered sound now delegationId notificationId
  | _ => exact isSound_quiet sound now trivial

theorem isSound_run (actions : List (Int × ReplyOperation)) :
    (run (step resultKey) .start actions).IsSound resultKey :=
  @run_invariant _ _ (step resultKey) (fun _ _ => True) (IsSound resultKey)
    (fun current action _ sound => isSound_step current action sound) _ _ start_isSound
    (meets_of_forall (fun _ _ => trivial) _ actions)

/-! ## What is closed -/

theorem StaysClosed.next (closed : current.StaysClosed) (sound : current.IsSound resultKey)
    (operation : ReplyOperation) (performed : DelegationReplyStore × ReplyAnswer)
    (stays : ∀ row ∈ current.store.authorities, row.delegationId ∈ current.closed →
      row.status = .expired → ∃ later ∈ performed.1.authorities,
        later.delegationId = row.delegationId ∧ later.status = .expired) :
    (current.next operation performed).StaysClosed := by
  intro delegationId member row isRow same
  rcases List.mem_append.mp member with earlier | isNew
  · obtain ⟨old, isOld, isIt⟩ := sound.known delegationId earlier
    obtain ⟨later, isLater, sameId, expired⟩ := stays old isOld (isIt ▸ earlier)
      (closed delegationId earlier old isOld isIt)
    rw [Table.eq_of_key isRow isLater (same.trans (sameId.trans isIt).symm)]
    exact expired
  · cases operation with
    | receive input notificationId => cases isNew
    | _ =>
      obtain ⟨other, isOther, isIt⟩ := List.mem_map.mp isNew
      obtain ⟨isOther, expired⟩ := List.mem_filter.mp isOther
      rw [Table.eq_of_key isRow isOther (same.trans isIt.symm)]
      simp only [Bool.and_eq_true, decide_eq_true_eq] at expired
      exact expired.1

theorem not_staysClosed {operation : ReplyOperation}
    {performed : DelegationReplyStore × ReplyAnswer} {row : ReplyAuthority}
    (isClosed : row.delegationId ∈ current.closed) (member : row ∈ performed.1.authorities)
    (reopened : row.status ≠ .expired) : ¬(current.next operation performed).StaysClosed := by
  intro stays
  exact reopened (stays row.delegationId (List.mem_append_left _ isClosed) row member rfl)

theorem staysClosed_quiet (sound : current.IsSound resultKey) (closed : current.StaysClosed)
    (now : Int) {operation : ReplyOperation} (quiet : operation.isQuiet) :
    (step resultKey current (now, operation)).StaysClosed := by
  apply closed.next sound
  intro row member _ expired
  obtain ⟨later, isLater, same, stays⟩ := perform_expired resultKey current.store now quiet row
    member
  exact ⟨later, isLater, same, stays expired⟩

theorem staysClosed_markDelivered (sound : current.IsSound resultKey)
    (closed : current.StaysClosed) (now : Int) (delegationId notificationId : String) :
    (step resultKey current (now, .markDelivered delegationId notificationId)).StaysClosed ↔
      LeavesClosed resultKey current (now, .markDelivered delegationId notificationId) := by
  have authorities := markDelivered_authorities sound.unique delegationId notificationId now
  constructor
  · intro stays isClosed
    cases last : current.store.deliversLast delegationId notificationId with
    | false => rfl
    | true =>
      rw [last, if_pos rfl] at authorities
      obtain ⟨row, isRow, isIt⟩ := sound.known delegationId isClosed
      have delivered : { row with
          status := .delivered, deliveredAt := some now, updatedAt := now } ∈
            (current.store.markDelivered delegationId notificationId now).1.authorities := by
        rw [authorities]
        refine List.mem_map.mpr ⟨row, isRow, ?_⟩
        rw [if_pos (by simpa using isIt)]
      refine absurd stays (not_staysClosed ?_ delivered ?_)
      · rw [← isIt] at isClosed
        exact isClosed
      · intro impossible
        cases impossible
  · intro leaves
    apply closed.next sound
    intro row member isClosed expired
    by_cases isIt : row.delegationId = delegationId
    · rw [isIt] at isClosed
      rw [leaves isClosed, if_neg Bool.false_ne_true] at authorities
      exact ⟨row, by change row ∈ (markDelivered ..).1.authorities; rw [authorities]; exact member,
        rfl, expired⟩
    · obtain ⟨later, isLater, same, unchanged⟩ := markDelivered_changesOnly sound.unique
        delegationId notificationId now row member
      exact ⟨later, isLater, same, by rw [unchanged isIt]; exact expired⟩

theorem staysClosed_receive (sound : current.IsSound resultKey) (closed : current.StaysClosed)
    (now : Int) (input : ReceiveInput) (notificationId : String) :
    (step resultKey current (now, .receive input notificationId)).StaysClosed ↔
      LeavesClosed resultKey current (now, .receive input notificationId) := by
  have receives := receive_receives resultKey current.store input notificationId now
  change (current.next (.receive input notificationId)
    ((current.store.receive resultKey input notificationId now).map id .received)).StaysClosed ↔ _
  generalize current.store.receive resultKey input notificationId now = performed at receives
  have shuts : current.store.admits resultKey input notificationId = false →
      LeavesClosed resultKey current (now, .receive input notificationId) := fun shut _ _ => shut
  cases receives with
  | refuses refusal shut =>
    refine iff_of_true (closed.next sound _ _ ?_) (shuts shut)
    exact fun row member _ expired => ⟨row, member, rfl, expired⟩
  | lapses shut =>
    refine iff_of_true (closed.next sound _ _ ?_) (shuts shut)
    intro row member _ expired
    obtain ⟨later, isLater, same, stays⟩ := @expiredStays_setStatus current.store now
      (fun row => row.delegationId = input.delegationId) row member
    exact ⟨later, isLater, same, stays expired⟩
  | replays message record stored found =>
    refine iff_of_true (closed.next sound _ _ ?_) (shuts (by simp [admits, stored]))
    exact fun row member _ expired => ⟨row, member, rfl, expired⟩
  | accepts authority messages record found live admitted room fresh inserted named =>
    obtain ⟨row, isRow, isRecord⟩ := Option.map_eq_some_iff.mp found
    have isRow := Table.lookup_eq_some_iff.mp isRow
    constructor
    · intro stays isClosed unheld
      have expired := closed _ isClosed row isRow.1 isRow.2
      by_contra admits
      have reopened : { row with
          status := .received
          result := some input.result
          notificationId := notificationId
          updatedAt := now } ∈ ({ current.store with messages := messages }.receiveAuthority
            input notificationId now).authorities := by
        simp only [receiveAuthority, unheld, Bool.false_eq_true, if_false]
        refine List.mem_map.mpr ⟨row, isRow.1, ?_⟩
        rw [if_pos (by simpa using isRow.2)]
      refine absurd stays (not_staysClosed ?_ reopened ?_)
      · rw [← isRow.2] at isClosed
        exact isClosed
      · intro impossible
        cases impossible
    · intro leaves
      apply closed.next sound
      intro other member isClosed expired
      obtain ⟨later, isLater, same, unchanged⟩ := @receiveAuthority_changesOnly
        { current.store with messages := messages } input notificationId now other member
      by_cases isIt : other.delegationId = input.delegationId
      · cases held : input.hold with
        | true =>
          refine ⟨other, ?_, rfl, expired⟩
          change other ∈ (receiveAuthority _ input notificationId now).authorities
          simp only [receiveAuthority, held, if_true]
          exact member
        | false =>
          have shut := leaves (isIt ▸ isClosed) held
          have isRowItself := Table.eq_of_key member isRow.1 (isIt.trans isRow.2.symm)
          cases bound : authority.isTaskBound with
          | true => exact absurd (admitted bound) (by simp [shut])
          | false =>
            refine absurd ?_ (live bound)
            rw [← isRecord, ← isRowItself]
            exact expired
      · exact ⟨later, isLater, same, by rw [unchanged isIt]; exact expired⟩

theorem staysClosed_step (current : ReplyRun) (action : Int × ReplyOperation)
    (sound : current.IsSound resultKey) (closed : current.StaysClosed) :
    (step resultKey current action).StaysClosed ↔ LeavesClosed resultKey current action := by
  obtain ⟨now, operation⟩ := action
  cases operation with
  | receive input notificationId => exact staysClosed_receive sound closed now input notificationId
  | markDelivered delegationId notificationId =>
    exact staysClosed_markDelivered sound closed now delegationId notificationId
  | _ => exact iff_of_true (staysClosed_quiet sound closed now trivial) trivial

theorem settled_step (current : ReplyRun) (action : Int × ReplyOperation) :
    ∀ message ∈ current.store.messages, message.isSettled = true →
      message ∈ (step resultKey current action).store.messages := by
  obtain ⟨now, operation⟩ := action
  by_cases quiet : operation.isQuiet
  · exact (perform_messages resultKey current.store now quiet).settled
  cases operation with
  | receive input notificationId =>
    have receives := receive_receives resultKey current.store input notificationId now
    change ∀ message ∈ current.store.messages, message.isSettled = true → message ∈
      (current.store.receive resultKey input notificationId now).1.messages
    generalize current.store.receive resultKey input notificationId now = performed at receives
    cases receives with
    | accepts authority messages record found live admitted room fresh inserted named =>
      intro message member _
      rw [receiveAuthority_messages]
      exact (Table.mem_insert inserted).mpr (.inl member)
    | _ => exact fun _ member _ => member
  | markDelivered delegationId notificationId =>
    exact (markDelivered_messages delegationId notificationId now).settled
  | _ => exact absurd trivial quiet

theorem settled_run (current : ReplyRun) (actions : List (Int × ReplyOperation)) :
    ∀ message ∈ current.store.messages, message.isSettled = true →
      message ∈ (run (step resultKey) current actions).store.messages := by
  apply @run_related _ _ (step resultKey) fun before after : ReplyRun =>
    ∀ message ∈ before.store.messages, message.isSettled = true →
      message ∈ after.store.messages
  · exact fun _ _ member _ => member
  · exact fun _ _ _ first second message member settled =>
      second message (first message member settled) settled
  · exact settled_step

theorem IsSound.answersAgain (sound : current.IsSound resultKey) (now : Int)
    (input : ReceiveInput) (drawn : String) : current.AnswersAgain resultKey now input drawn := by
  intro old isOld first replay receipt named record known expected live
  obtain ⟨message, isMessage, tagged⟩ := sound.stored old isOld _ _ _ _ receipt
  simp only [ReplyMessage.tag, Prod.mk.injEq] at tagged
  obtain ⟨isDelegation, isKey, rfl⟩ := tagged
  have stored : current.store.messages.lookup (input.delegationId, resultKey input.result) =
      some message :=
    Table.lookup_eq_some_iff.mpr ⟨isMessage, by rw [ReplyMessage.key, isDelegation, isKey]⟩
  obtain ⟨again, found, -⟩ := getMessage_isSome isMessage (by
    obtain ⟨authority, isAuthority, -⟩ := Option.map_eq_some_iff.mp known
    rw [isDelegation, isAuthority, Option.isSome_some])
  have byKey : current.store.messageByResultKey input.delegationId (resultKey input.result) =
      some again := by
    rw [isDelegation] at found
    simp only [messageByResultKey, stored, truthy_some named, Option.bind_eq_bind,
      Option.bind_some, found]
  have unexpired : ¬(record.isTaskBound = false ∧
      (record.status = .expired ∨ record.expiresAt ≤ now)) := by
    rintro ⟨unbound, expired | late⟩
    · exact (live unbound).1 expired
    · exact absurd (live unbound).2 (Int.not_lt.mpr late)
  exact ⟨again, by simp [receive, known, expected, unexpired, byKey]⟩

end ReplyRun

open ReplyRun

/-- A run keeps its promises exactly if no step of it takes up a new result for a closed
delegation, or ends a closed delegation by its last delivery. All else every run keeps. -/
theorem DelegationReplyStore.closed_delegations_stay_closed (resultKey : String → String)
    (actions : List (Int × ReplyOperation)) :
    KeepsPromises resultKey actions ↔
      Meets (ReplyRun.step resultKey) (LeavesClosed resultKey) .start actions := by
  have closed : Always (ReplyRun.step resultKey) StaysClosed .start actions ↔
      Meets (ReplyRun.step resultKey) (LeavesClosed resultKey) .start actions := by
    apply @always_iff_meets _ _ (ReplyRun.step resultKey) (LeavesClosed resultKey)
      (IsSound resultKey) StaysClosed
    · exact fun current action sound _ => isSound_step current action sound
    · exact staysClosed_step
    · exact start_isSound
    · intro delegationId impossible
      cases impossible
  rw [← closed]
  constructor
  · exact KeepsPromises.closed
  · intro staysClosed
    have sound := fun earlier => @isSound_run resultKey earlier
    constructor
    case replays => exact (sound actions).replays
    case answered =>
      intro before now input drawn _ _
      exact (sound before).answersAgain now input drawn
    case bounded => exact fun earlier _ _ => (sound earlier).bounded
    case once =>
      intro notificationId
      rcases (sound actions).once notificationId with never | ⟨once, -⟩
      · omega
      · omega
    case closed => exact staysClosed
    case retired =>
      intro before between after _ message member expired
      refine ⟨message, ?_, rfl, expired⟩
      rw [run_append]
      exact settled_run _ between message member (by simp [ReplyMessage.isSettled, expired])

private def coordinator : BoundIdentity := ⟨"coordinator", "i1", "e1"⟩

private def worker : BoundIdentity := ⟨"worker", "i2", "e1"⟩

/-- A delegation of a task is retired with the task, and its worker answers all the same. -/
private def lateAnswer : List (Int × ReplyOperation) :=
  [(0, .create ⟨coordinator, worker, "dispatch", "message", none, none, none, none, some "task",
      some "assignment", none⟩ "delegation" "first"),
    (1, .retireForEndedTask "delegation"),
    (2, .receive ⟨"delegation", "done", worker, none, none, false⟩ "second")]

/-- The retired delegation has a received result again. -/
theorem DelegationReplyStore.late_answer_reopens :
    ¬∀ resultKey actions, KeepsPromises resultKey actions := by
  intro holds
  have stays := (holds id lateAnswer).closed lateAnswer [] rfl
  have isClosed : "delegation" ∈ (run (ReplyRun.step id) .start lateAnswer).closed := by
    decide +kernel
  have reopened : ∃ row ∈ (run (ReplyRun.step id) .start lateAnswer).store.authorities.rows,
      row.delegationId = "delegation" ∧ row.status = .received := by decide +kernel
  obtain ⟨row, member, named, received⟩ := reopened
  rw [stays "delegation" isClosed row member named] at received
  cases received

end ImCodes.Delegation
