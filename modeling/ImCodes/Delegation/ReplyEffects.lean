import ImCodes.Delegation.ReplyStore

/-!
# What the operations of the reply store do

All but `receive` leave the messages as they are up to their status, and what has settled they do
not touch at all. All but `receive` and `markDelivered` leave an expired authority expired. What
those two do is said here case by case.
-/

set_option autoImplicit false

namespace ImCodes.Delegation

open Library

def ReplyMessage.tag (message : ReplyMessage) : String × String × String :=
  (message.delegationId, message.resultKey, message.notificationId)

namespace DelegationReplyStore

/-- Whether a result that is not held is taken up for a delegation that is closed: the delegation
is bound to a task, the sender is the one expected, and there is room for a result not yet known. -/
def admits (resultKey : String → String) (store : DelegationReplyStore) (input : ReceiveInput)
    (notificationId : String) : Bool :=
  ((store.get input.delegationId).any fun current =>
      input.authorizedSender.getD current.target = input.sender && current.isTaskBound) &&
    (store.messages.lookup (input.delegationId, resultKey input.result)).isNone &&
    decide (store.messageCount input.delegationId < replyMaxMessages) &&
    !store.messages.holds fun message => message.notificationId = notificationId

/-- Whether the message is the last one received of a delegation that its delivery ends. -/
def deliversLast (store : DelegationReplyStore) (delegationId notificationId : String) : Bool :=
  store.messages.holds (isReceived delegationId notificationId) &&
    !store.isAuditProse delegationId notificationId &&
    !store.messages.holds fun message =>
      isStillReceived delegationId message && message.notificationId ≠ notificationId

end DelegationReplyStore

/-! ## What the operations do to the messages -/

def ReplyMessage.isSettled (message : ReplyMessage) : Bool :=
  message.status ≠ .held && message.status ≠ .received

namespace DelegationReplyStore

/-- The messages are those that were there, and the settled ones as they were. -/
structure MessagesKeep (store after : DelegationReplyStore) : Prop where
  tags : after.messages.rows.map ReplyMessage.tag = store.messages.rows.map ReplyMessage.tag
  settled : ∀ message ∈ store.messages, message.isSettled = true → message ∈ after.messages

section
variable {store middle after : DelegationReplyStore}

theorem MessagesKeep.of_eq (same : after.messages = store.messages) : store.MessagesKeep after :=
  ⟨by rw [same], fun _ member _ => by rw [same]; exact member⟩

theorem MessagesKeep.trans (first : store.MessagesKeep middle)
    (second : middle.MessagesKeep after) : store.MessagesKeep after :=
  ⟨second.tags.trans first.tags, fun message member settled =>
    second.settled message (first.settled message member settled) settled⟩

theorem messagesKeep_update {chosen : ReplyMessage → Bool} {update : ReplyMessage → ReplyMessage}
    {keeps : ∀ message, (update message).key = message.key}
    (sameTag : ∀ message, (update message).tag = message.tag)
    (unsettled : ∀ message, chosen message = true → message.isSettled = false) :
    store.MessagesKeep { store with
      messages := store.messages.updateWhere chosen update keeps } where
  tags := by
    change (store.messages.rows.map _).map _ = _
    rw [List.map_map]
    apply List.map_congr_left
    intro message _
    simp only [Function.comp_apply]
    split
    · exact sameTag message
    · rfl
  settled := by
    intro message member settled
    change message ∈ store.messages.updateWhere chosen update keeps
    refine Table.mem_updateWhere.mpr ⟨message, member, ?_⟩
    split
    · next isChosen =>
        rw [unsettled message isChosen] at settled
        cases settled
    · rfl

theorem messagesKeep_setMessageStatus {status : ReplyStatus} {now : Int}
    {chosen : ReplyMessage → Bool}
    (unsettled : ∀ message, chosen message = true → message.isSettled = false) :
    store.MessagesKeep (store.setMessageStatus status now chosen) :=
  messagesKeep_update (fun _ => rfl) unsettled

theorem MessagesKeep.messageCount (keeps : store.MessagesKeep after) (delegationId : String) :
    after.messageCount delegationId = store.messageCount delegationId := by
  have byTags : ∀ kept : DelegationReplyStore, kept.messageCount delegationId =
      (kept.messages.rows.map ReplyMessage.tag).countP fun tag => tag.1 = delegationId := by
    intro kept
    rw [List.countP_map]
    rfl
  rw [byTags after, byTags store, keeps.tags]

theorem MessagesKeep.notificationIds (keeps : store.MessagesKeep after) :
    after.messages.rows.map ReplyMessage.notificationId =
      store.messages.rows.map ReplyMessage.notificationId := by
  have byTags : ∀ kept : DelegationReplyStore,
      kept.messages.rows.map ReplyMessage.notificationId =
        (kept.messages.rows.map ReplyMessage.tag).map fun tag => tag.2.2 := by
    intro kept
    rw [List.map_map]
    rfl
  rw [byTags after, byTags store, keeps.tags]

theorem MessagesKeep.mem_tag (keeps : store.MessagesKeep after) {message : ReplyMessage}
    (member : message ∈ store.messages) : ∃ later ∈ after.messages, later.tag = message.tag := by
  have listed : message.tag ∈ after.messages.rows.map ReplyMessage.tag := by
    rw [keeps.tags]
    exact List.mem_map_of_mem member
  obtain ⟨later, isLater, same⟩ := List.mem_map.mp listed
  exact ⟨later, isLater, same⟩

theorem create_messages (input : CreateReplyInput) (delegationId notificationId : String)
    (now : Int) :
    (store.create input delegationId notificationId now).1.messages = store.messages := by
  simp only [create]
  split
  · split <;> rfl
  · split <;> rfl

theorem rebindAuthorizedOrigin_messages (input : RebindOriginInput) (now : Int) :
    (store.rebindAuthorizedOrigin input now).1.messages = store.messages := by
  simp only [rebindAuthorizedOrigin]
  split
  · rfl
  · split <;> rfl

theorem rebindAssignmentTarget_messages (input : RebindTargetInput) (now : Int) :
    (store.rebindAssignmentTarget input now).1.messages = store.messages := by
  simp only [rebindAssignmentTarget]
  split
  · rfl
  · split <;> rfl

theorem foldl_expirePending_messages (records : List ReplyRecord) (now : Int) :
    (records.foldl (fun store record => store.expirePending now record.delegationId)
      store).messages = store.messages :=
  @foldl_unchanged _ _ _ (fun store record => store.expirePending now record.delegationId)
    DelegationReplyStore.messages (fun _ _ => rfl) records store

theorem matchPendingAuditAuthority_messages (input : MatchAuditInput) (now : Int) :
    (store.matchPendingAuditAuthority input now).1.messages = store.messages := by
  simp only [matchPendingAuditAuthority]
  split
  · rfl
  · split
    · rfl
    · exact foldl_expirePending_messages _ now

theorem currentDelivery_messages (authority : AssignmentAuthority) (active : List ReplyRecord)
    (now : Int) : (store.currentDelivery authority active now).1.messages = store.messages := by
  unfold currentDelivery
  split
  · rfl
  · split
    · split <;> rfl
    · rfl

theorem convergeDeliveries_messages (authority : AssignmentAuthority)
    (taskId auditAttemptId auditRevision : String) (records : List ReplyRecord) (now : Int) :
    (store.convergeDeliveries authority taskId auditAttemptId auditRevision records now).1.messages
      = store.messages := by
  simp only [convergeDeliveries]
  split
  · next advanced current isCurrent =>
      have same := store.currentDelivery_messages authority (records.filter fun record =>
        !AssignmentAuthority.isSupersededTarget authority record) now
      rw [isCurrent] at same
      split <;> exact same
  · split
    · exact foldl_expirePending_messages _ now
    · rfl

theorem findPendingAuditDelivery_messages (input : FindDeliveryInput) (now : Int) :
    (store.findPendingAuditDelivery input now).1.messages = store.messages := by
  simp only [findPendingAuditDelivery]
  split
  · rfl
  · split
    · split
      · rfl
      · split <;> rfl
      · rfl
    · split_ifs
      · rfl
      · rfl
      · rfl
      · exact convergeDeliveries_messages _ _ _ _ _ now

theorem suppressHeldAuditCompletions_messages (input : SuppressInput) (now : Int) :
    store.MessagesKeep (store.suppressHeldAuditCompletions input now).1 := by
  have suppressed : store.MessagesKeep (store.setMessageStatus .suppressed now fun message =>
      message.delegationId = input.delegationId &&
        message.messageKind = .delegationCompletion && message.status = .held) := by
    apply messagesKeep_setMessageStatus
    intro message chosen
    simp only [Bool.and_eq_true, decide_eq_true_eq] at chosen
    simp [ReplyMessage.isSettled, chosen.2]
  have either : ∀ ids : List String, store.MessagesKeep
      (if ids = [] then (store, []) else (store.setMessageStatus .suppressed now fun message =>
        message.delegationId = input.delegationId &&
          message.messageKind = .delegationCompletion && message.status = .held, ids)).1 := by
    intro ids
    split
    · exact .of_eq rfl
    · exact suppressed
  exact either _

theorem releaseHeldAuditCompletion_messages (delegationId notificationId : String) (now : Int) :
    store.MessagesKeep (store.releaseHeldAuditCompletion delegationId notificationId now).1 := by
  simp only [releaseHeldAuditCompletion]
  split
  · exact .of_eq rfl
  · split
    · exact .of_eq rfl
    · split
      · exact .of_eq rfl
      · apply messagesKeep_setMessageStatus
        intro message chosen
        simp only [Bool.and_eq_true, decide_eq_true_eq] at chosen
        simp [ReplyMessage.isSettled, chosen.2]

theorem markDelivered_messages_eq (delegationId notificationId : String) (now : Int) :
    (store.markDelivered delegationId notificationId now).1.messages =
      (store.deliverMessage delegationId notificationId now).messages := by
  simp only [markDelivered]
  split_ifs <;> rfl

theorem markDelivered_messages (delegationId notificationId : String) (now : Int) :
    store.MessagesKeep (store.markDelivered delegationId notificationId now).1 := by
  have keeps : store.MessagesKeep (store.deliverMessage delegationId notificationId now) := by
    apply messagesKeep_update
    · intro message
      rfl
    · intro message chosen
      simp only [isReceived, Bool.and_eq_true, decide_eq_true_eq] at chosen
      simp [ReplyMessage.isSettled, chosen.2]
  have same := store.markDelivered_messages_eq delegationId notificationId now
  exact keeps.trans (.of_eq same)

theorem expire_messages (delegationId : String) (now : Int) :
    store.MessagesKeep (store.expire delegationId now) := by
  have first : store.MessagesKeep
    (store.setStatus .expired now fun row => row.delegationId = delegationId) := .of_eq rfl
  refine first.trans (messagesKeep_setMessageStatus (fun message chosen => ?_))
  simp only [Bool.and_eq_true, decide_eq_true_eq] at chosen
  simp [ReplyMessage.isSettled, chosen.2]

theorem retireForEndedTask_messages (delegationId : String) (now : Int) :
    store.MessagesKeep (store.retireForEndedTask delegationId now).1 := by
  have first : store.MessagesKeep (store.setStatus .expired now fun row =>
    row.delegationId = delegationId && row.status ≠ .delivered) := .of_eq rfl
  refine first.trans (messagesKeep_setMessageStatus (fun message chosen => ?_))
  simp only [Bool.and_eq_true, Bool.or_eq_true, decide_eq_true_eq] at chosen
  rcases chosen.2 with received | held
  · simp [ReplyMessage.isSettled, received]
  · simp [ReplyMessage.isSettled, held]

/-! ## Receiving a result -/

theorem getMessage_eq_some {delegationId notificationId : String} {record : ReplyRecord}
    (found : store.getMessage delegationId notificationId = some record) :
    ∃ message ∈ store.messages, message.delegationId = delegationId ∧
      message.notificationId = notificationId ∧
      ∃ authority, store.authorities.lookup delegationId = some authority ∧
        record = message.record authority := by
  simp only [getMessage, Option.bind_eq_bind, Option.bind_eq_some_iff] at found
  obtain ⟨message, isMessage, authority, isAuthority, same⟩ := found
  have matched := List.find?_some isMessage
  simp only [Bool.and_eq_true, decide_eq_true_eq] at matched
  exact ⟨message, List.mem_of_find?_eq_some isMessage, matched.1, matched.2, authority,
    isAuthority, (Option.some.inj same).symm⟩

theorem getMessage_isSome {message : ReplyMessage} (member : message ∈ store.messages)
    (bound : (store.authorities.lookup message.delegationId).isSome = true) :
    ∃ record, store.getMessage message.delegationId message.notificationId = some record ∧
      record.notificationId = message.notificationId := by
  obtain ⟨authority, isAuthority⟩ := Option.isSome_iff_exists.mp bound
  have found : (store.messages.rows.find? fun other =>
      other.delegationId = message.delegationId &&
        other.notificationId = message.notificationId).isSome = true := by
    rw [List.find?_isSome]
    exact ⟨message, member, by simp⟩
  obtain ⟨other, isOther⟩ := Option.isSome_iff_exists.mp found
  have got : store.getMessage message.delegationId message.notificationId =
      some (other.record authority) := by
    simp only [getMessage, Option.bind_eq_bind, Option.bind_eq_some_iff]
    exact ⟨other, isOther, authority, isAuthority, rfl⟩
  refine ⟨_, got, ?_⟩
  obtain ⟨kept, -, -, sameId, _, -, isRecord⟩ := getMessage_eq_some got
  rw [isRecord]
  exact sameId

/-- What `receive` can come to. -/
inductive Receives (resultKey : String → String) (store : DelegationReplyStore)
    (input : ReceiveInput) (notificationId : String) (now : Int) :
    DelegationReplyStore × ReceiveAnswer → Prop
  | refuses (refusal : ReceiveRefusal)
      (shut : store.admits resultKey input notificationId = false) :
      Receives resultKey store input notificationId now (store, .error refusal)
  | lapses (shut : store.admits resultKey input notificationId = false) :
      Receives resultKey store input notificationId now
        (store.setStatus .expired now fun row => row.delegationId = input.delegationId,
          .error .expired)
  | replays (message : ReplyMessage) (record : ReplyRecord)
      (stored : store.messages.lookup (input.delegationId, resultKey input.result) = some message)
      (found : store.getMessage input.delegationId message.notificationId = some record) :
      Receives resultKey store input notificationId now (store, .ok (record, true))
  | accepts (current : ReplyRecord) (messages : Table ReplyMessage (String × String)
        ReplyMessage.key) (record : ReplyRecord)
      (found : store.get input.delegationId = some current)
      (live : current.isTaskBound = false → current.status ≠ .expired)
      (admitted : current.isTaskBound = true →
        store.admits resultKey input notificationId = true)
      (room : store.messageCount input.delegationId < replyMaxMessages)
      (fresh : ∀ message ∈ store.messages, message.notificationId ≠ notificationId)
      (inserted : store.messages.insert (receivedMessage resultKey input notificationId now) =
        some messages)
      (named : record.notificationId = notificationId) :
      Receives resultKey store input notificationId now
        ({ store with messages := messages }.receiveAuthority input notificationId now,
          .ok (record, false))

theorem receive_receives (resultKey : String → String) (store : DelegationReplyStore)
    (input : ReceiveInput) (notificationId : String) (now : Int) :
    Receives resultKey store input notificationId now
      (store.receive resultKey input notificationId now) := by
  unfold receive
  cases found : store.get input.delegationId with
  | none => exact .refuses _ (by simp [admits, found])
  | some current =>
    dsimp only
    by_cases stranger : input.authorizedSender.getD current.target ≠ input.sender
    · rw [if_pos stranger]
      exact .refuses _ (by simp [admits, found, stranger])
    · rw [if_neg stranger]
      by_cases lapsed : current.isTaskBound = false ∧
          (current.status = .expired ∨ current.expiresAt ≤ now)
      · rw [if_pos lapsed]
        exact .lapses (by simp [admits, found, lapsed.1])
      · rw [if_neg lapsed]
        cases existing : store.messageByResultKey input.delegationId (resultKey input.result) with
        | some record =>
          simp only [messageByResultKey, Option.bind_eq_bind, Option.bind_eq_some_iff]
            at existing
          obtain ⟨message, stored, id, isId, got⟩ := existing
          have same : message.notificationId = id := by
            by_cases blank : message.notificationId = ""
            · rw [blank] at isId
              cases isId
            · rw [truthy_some blank] at isId
              exact Option.some.inj isId
          exact .replays message record stored (same ▸ got)
        | none =>
          by_cases full : replyMaxMessages ≤ store.messageCount input.delegationId
          · rw [if_pos full]
            exact .refuses _ (by simp [admits, Nat.not_lt.mpr full])
          · rw [if_neg full]
            cases taken : store.messages.holds fun message =>
                message.notificationId = notificationId with
            | true =>
              rw [if_pos rfl]
              exact .refuses _ (by simp [admits, taken])
            | false =>
              rw [if_neg Bool.false_ne_true]
              have fresh : ∀ message ∈ store.messages,
                  message.notificationId ≠ notificationId := by
                intro message member same
                have free := Table.holds_eq_false_iff.mp taken message member
                simp [same] at free
              have room : store.messageCount input.delegationId < replyMaxMessages :=
                Nat.lt_of_not_le full
              cases inserted : store.messages.insert
                  (receivedMessage resultKey input notificationId now) with
              | none =>
                obtain ⟨old, isOld, sameKey⟩ := Table.insert_eq_none_iff.mp inserted
                have stored := Table.lookup_eq_some_iff.mpr ⟨isOld, sameKey⟩
                change store.messages.lookup (input.delegationId, resultKey input.result) =
                  some old at stored
                exact .refuses _ (by simp [admits, stored])
              | some messages =>
                have isNew : receivedMessage resultKey input notificationId now ∈
                    ({ store with messages := messages }.receiveAuthority input
                      notificationId now).messages := by
                  have same : ({ store with messages := messages }.receiveAuthority input
                      notificationId now).messages = messages := by
                    unfold receiveAuthority
                    split <;> rfl
                  rw [same]
                  exact (Table.mem_insert inserted).mpr (.inr rfl)
                have bound : (({ store with messages := messages }.receiveAuthority input
                    notificationId now).authorities.lookup
                    input.delegationId).isSome = true := by
                  obtain ⟨row, isRow, -⟩ := Option.map_eq_some_iff.mp found
                  unfold receiveAuthority
                  split
                  · simp [isRow]
                  · simp [Table.lookup_updateWhere, isRow]
                obtain ⟨record, got, named⟩ := getMessage_isSome isNew bound
                change DelegationReplyStore.getMessage _ input.delegationId
                  notificationId = some record at got
                dsimp only
                rw [got]
                have unknown : store.messages.lookup
                    (input.delegationId, resultKey input.result) = none :=
                  Table.lookup_eq_none_iff.mpr (Table.insert_eq_some inserted).2
                refine .accepts current messages record found ?_ ?_ room fresh inserted named
                · intro unbound isExpired
                  exact lapsed ⟨unbound, .inl isExpired⟩
                · intro bound
                  simp [admits, found, not_not.mp stranger, bound, unknown, room, taken]

/-! ## Delivering a message -/

abbrev HasUniqueNotifications (store : DelegationReplyStore) : Prop :=
  (store.messages.rows.map ReplyMessage.notificationId).Nodup

theorem eq_of_notificationId (unique : store.HasUniqueNotifications) {first second : ReplyMessage}
    (isFirst : first ∈ store.messages) (isSecond : second ∈ store.messages)
    (same : first.notificationId = second.notificationId) : first = second :=
  List.inj_on_of_nodup_map unique isFirst isSecond same

theorem changes_isReceived (unique : store.HasUniqueNotifications)
    {delegationId notificationId : String} :
    store.messages.changes (isReceived delegationId notificationId) = 1 ↔
      store.messages.holds (isReceived delegationId notificationId) = true := by
  have atMost : store.messages.changes (isReceived delegationId notificationId) ≤ 1 := by
    unfold Table.changes
    rw [List.countP_eq_length_filter, ← List.length_map ReplyMessage.notificationId]
    have distinct : ((store.messages.rows.filter (isReceived delegationId notificationId)).map
        ReplyMessage.notificationId).Nodup :=
      (List.filter_sublist.map _).nodup unique
    have allSame : ∀ id ∈ (store.messages.rows.filter (isReceived delegationId
        notificationId)).map ReplyMessage.notificationId, id = notificationId := by
      intro id member
      obtain ⟨message, chosen, rfl⟩ := List.mem_map.mp member
      have isIt := (List.mem_filter.mp chosen).2
      simp only [isReceived, Bool.and_eq_true, decide_eq_true_eq] at isIt
      exact isIt.1.2
    rw [List.eq_replicate_of_mem allSame] at distinct ⊢
    rw [List.length_replicate]
    exact List.nodup_replicate.mp distinct
  have none := @Table.changes_eq_zero_iff _ _ _ store.messages
    (isReceived delegationId notificationId)
  rw [Table.holds_iff]
  constructor
  · intro one
    by_contra absent
    have zero := none.mpr (fun message member => by
      by_contra isIt
      exact absent ⟨message, member, by simpa using isIt⟩)
    omega
  · rintro ⟨message, member, isIt⟩
    have some : store.messages.changes (isReceived delegationId notificationId) ≠ 0 := by
      intro zero
      rw [none.mp zero message member] at isIt
      cases isIt
    omega

private theorem remaining_eq_zero (delegationId notificationId : String) (now : Int) :
    (store.deliverMessage delegationId notificationId now).messages.changes
        (isStillReceived delegationId) = 0 ↔
      store.messages.holds (fun message =>
        isStillReceived delegationId message && message.notificationId ≠ notificationId) =
          false := by
  rw [Table.changes_eq_zero_iff, Table.holds_eq_false_iff]
  constructor
  · intro none message member
    by_contra isIt
    simp only [Bool.not_eq_false, Bool.and_eq_true, decide_eq_true_eq] at isIt
    have kept : message ∈ (store.deliverMessage delegationId notificationId now).messages := by
      apply Table.mem_updateWhere.mpr
      · exact ⟨message, member, if_neg (by simp [isReceived, isIt.2])⟩
      · intro _
        rfl
    rw [none message kept] at isIt
    cases isIt.1
  · intro none message member
    obtain ⟨old, isOld, rfl⟩ := List.mem_map.mp member
    split
    · simp [isStillReceived]
    · next other =>
        by_contra isIt
        simp only [Bool.not_eq_false] at isIt
        have absent := none old isOld
        simp only [isIt, Bool.true_and, decide_eq_false_iff_not, not_not] at absent
        simp only [isStillReceived, Bool.and_eq_true, decide_eq_true_eq] at isIt
        simp [isReceived, isIt.1, isIt.2, absent] at other

theorem markDelivered_authorities (unique : store.HasUniqueNotifications)
    (delegationId notificationId : String) (now : Int) :
    (store.markDelivered delegationId notificationId now).1.authorities =
      if store.deliversLast delegationId notificationId then
        (store.deliverAuthority delegationId now).authorities
      else store.authorities := by
  have one := @changes_isReceived store unique delegationId notificationId
  have last := @remaining_eq_zero store delegationId notificationId now
  simp only [markDelivered]
  by_cases received : store.messages.holds (isReceived delegationId notificationId) = true
  · rw [if_neg (not_not.mpr (one.mpr received))]
    by_cases audit : store.isAuditProse delegationId notificationId = true
    · have isNot : store.deliversLast delegationId notificationId = false := by
        simp [deliversLast, audit]
      rw [if_pos audit, isNot]
      rfl
    · rw [if_neg audit]
      by_cases done : (store.deliverMessage delegationId notificationId now).messages.changes
          (isStillReceived delegationId) = 0
      · have isLast : store.deliversLast delegationId notificationId = true := by
          simp only [deliversLast, received, audit, last.mp done]
          rfl
        rw [if_pos done, isLast]
        rfl
      · have isNot : store.deliversLast delegationId notificationId = false := by
          have others : store.messages.holds (fun message => isStillReceived delegationId message &&
              message.notificationId ≠ notificationId) = true := by
            by_contra none
            exact done (last.mpr (by simpa using none))
          simp only [deliversLast, others, Bool.not_true, Bool.and_false]
        rw [if_neg done, isNot]
        rfl
  · have many : store.messages.changes (isReceived delegationId notificationId) ≠ 1 :=
      fun isOne => received (one.mp isOne)
    have isNot : store.deliversLast delegationId notificationId = false := by
      simp [deliversLast, received]
    rw [if_pos many, isNot]
    rfl

theorem markDelivered_true {delegationId notificationId : String} {now : Int}
    (answered : (store.markDelivered delegationId notificationId now).2 = true) :
    ∃ message ∈ store.messages, message.notificationId = notificationId ∧
      message.status = .received ∧
      ∃ later ∈ (store.markDelivered delegationId notificationId now).1.messages,
        later.notificationId = notificationId ∧ later.status = .delivered := by
  have one : store.messages.changes (isReceived delegationId notificationId) = 1 := by
    by_contra many
    simp only [markDelivered, if_pos many] at answered
    cases answered
  have some : store.messages.changes (isReceived delegationId notificationId) ≠ 0 := by
    rw [one]
    exact Nat.one_ne_zero
  have exists_ : ∃ message ∈ store.messages,
      isReceived delegationId notificationId message = true := by
    by_contra none
    apply some
    apply Table.changes_eq_zero_iff.mpr
    intro message member
    by_contra isIt
    exact none ⟨message, member, by simpa using isIt⟩
  obtain ⟨message, member, isIt⟩ := exists_
  have parts := isIt
  simp only [isReceived, Bool.and_eq_true, decide_eq_true_eq] at parts
  refine ⟨message, member, parts.1.2, parts.2,
    { message with status := .delivered, deliveredAt := now, updatedAt := now }, ?_, parts.1.2, rfl⟩
  rw [markDelivered_messages_eq]
  apply Table.mem_updateWhere.mpr
  · exact ⟨message, member, if_pos isIt⟩
  · intro _
    rfl

/-! ## What the operations do to the authorities -/

def ExpiredStays (store after : DelegationReplyStore) : Prop :=
  ∀ row ∈ store.authorities, ∃ later ∈ after.authorities,
    later.delegationId = row.delegationId ∧ (row.status = .expired → later.status = .expired)

theorem ExpiredStays.of_eq (same : after.authorities = store.authorities) :
    store.ExpiredStays after := by
  intro row member
  exact ⟨row, by rw [same]; exact member, rfl, fun expired => expired⟩

theorem ExpiredStays.trans (first : store.ExpiredStays middle)
    (second : middle.ExpiredStays after) : store.ExpiredStays after := by
  intro row member
  obtain ⟨between, isBetween, sameKey, stays⟩ := first row member
  obtain ⟨later, isLater, alsoKey, alsoStays⟩ := second between isBetween
  exact ⟨later, isLater, alsoKey.trans sameKey, fun expired => alsoStays (stays expired)⟩

theorem expiredStays_update {chosen : ReplyAuthority → Bool}
    {update : ReplyAuthority → ReplyAuthority}
    {keeps : ∀ row, (update row).delegationId = row.delegationId}
    (stays : ∀ row, row.status = .expired → (update row).status = .expired) :
    store.ExpiredStays { store with
      authorities := store.authorities.updateWhere chosen update keeps } := by
  intro row member
  refine ⟨if chosen row then update row else row, ?_, ?_, ?_⟩
  · change _ ∈ store.authorities.updateWhere chosen update keeps
    exact Table.mem_updateWhere.mpr ⟨row, member, rfl⟩
  · split
    · exact keeps row
    · rfl
  · intro expired
    split
    · exact stays row expired
    · exact expired

theorem expiredStays_setStatus (now : Int) (chosen : ReplyAuthority → Bool) :
    store.ExpiredStays (store.setStatus .expired now chosen) :=
  expiredStays_update fun _ _ => rfl

theorem expiredStays_foldl (records : List ReplyRecord) (now : Int) :
    store.ExpiredStays
      (records.foldl (fun store record => store.expirePending now record.delegationId) store) := by
  induction records generalizing store with
  | nil => exact .of_eq rfl
  | cons record rest ih => exact (expiredStays_setStatus now _).trans ih

theorem create_expired (input : CreateReplyInput) (delegationId notificationId : String)
    (now : Int) : store.ExpiredStays (store.create input delegationId notificationId now).1 := by
  have replaced : store.ExpiredStays
      (if isExactAudit input then store.setStatus .expired now (isReplacedBy input)
        else store) := by
    split
    · exact expiredStays_setStatus now _
    · exact .of_eq rfl
  simp only [create]
  split
  · exact replaced
  · next authorities inserted =>
      refine replaced.trans ?_
      intro row member
      exact ⟨row, (Table.mem_insert inserted).mpr (.inl member), rfl, fun expired => expired⟩

theorem rebindAuthorizedOrigin_expired (input : RebindOriginInput) (now : Int) :
    store.ExpiredStays (store.rebindAuthorizedOrigin input now).1 := by
  simp only [rebindAuthorizedOrigin]
  split
  · exact .of_eq rfl
  · split
    · exact .of_eq rfl
    · exact expiredStays_update fun _ expired => expired

theorem rebindAssignmentTarget_expired (input : RebindTargetInput) (now : Int) :
    store.ExpiredStays (store.rebindAssignmentTarget input now).1 := by
  simp only [rebindAssignmentTarget]
  split
  · exact .of_eq rfl
  · split
    · exact .of_eq rfl
    · exact expiredStays_update fun _ expired => expired

theorem matchPendingAuditAuthority_expired (input : MatchAuditInput) (now : Int) :
    store.ExpiredStays (store.matchPendingAuditAuthority input now).1 := by
  simp only [matchPendingAuditAuthority]
  split
  · exact .of_eq rfl
  · split
    · exact .of_eq rfl
    · exact expiredStays_foldl _ now

theorem currentDelivery_expired (authority : AssignmentAuthority) (active : List ReplyRecord)
    (now : Int) : store.ExpiredStays (store.currentDelivery authority active now).1 := by
  unfold currentDelivery
  split
  · exact .of_eq rfl
  · split
    · split
      · exact expiredStays_update fun _ expired => expired
      · exact .of_eq rfl
    · exact .of_eq rfl

theorem convergeDeliveries_expired (authority : AssignmentAuthority)
    (taskId auditAttemptId auditRevision : String) (records : List ReplyRecord) (now : Int) :
    store.ExpiredStays
      (store.convergeDeliveries authority taskId auditAttemptId auditRevision records now).1 := by
  simp only [convergeDeliveries]
  split
  · next advanced current isCurrent =>
      have first := store.currentDelivery_expired authority (records.filter fun record =>
        !AssignmentAuthority.isSupersededTarget authority record) now
      rw [isCurrent] at first
      split <;> exact ExpiredStays.trans first (expiredStays_setStatus now _)
  · split
    · exact expiredStays_foldl _ now
    · exact .of_eq rfl

theorem findPendingAuditDelivery_expired (input : FindDeliveryInput) (now : Int) :
    store.ExpiredStays (store.findPendingAuditDelivery input now).1 := by
  simp only [findPendingAuditDelivery]
  split
  · exact .of_eq rfl
  · split
    · split
      · exact .of_eq rfl
      · split <;> exact .of_eq rfl
      · exact .of_eq rfl
    · split_ifs
      · exact .of_eq rfl
      · exact .of_eq rfl
      · exact .of_eq rfl
      · exact convergeDeliveries_expired _ _ _ _ _ now

theorem suppressHeldAuditCompletions_expired (input : SuppressInput) (now : Int) :
    store.ExpiredStays (store.suppressHeldAuditCompletions input now).1 := by
  have either : ∀ (ids : List String) (chosen : ReplyMessage → Bool), store.ExpiredStays
      (if ids = [] then (store, []) else (store.setMessageStatus .suppressed now chosen, ids)).1 := by
    intro ids chosen
    split <;> exact .of_eq rfl
  exact either _ _

theorem releaseHeldAuditCompletion_expired (delegationId notificationId : String) (now : Int) :
    store.ExpiredStays (store.releaseHeldAuditCompletion delegationId notificationId now).1 := by
  simp only [releaseHeldAuditCompletion]
  split
  · exact .of_eq rfl
  · split
    · exact .of_eq rfl
    · split <;> exact .of_eq rfl

theorem expire_expired (delegationId : String) (now : Int) :
    store.ExpiredStays (store.expire delegationId now) := by
  have first := @expiredStays_setStatus store now fun row => row.delegationId = delegationId
  exact first.trans (.of_eq rfl)

theorem retireForEndedTask_expired (delegationId : String) (now : Int) :
    store.ExpiredStays (store.retireForEndedTask delegationId now).1 := by
  have first := @expiredStays_setStatus store now fun row =>
    row.delegationId = delegationId && row.status ≠ .delivered
  exact first.trans (.of_eq rfl)

def ChangesOnly (delegationId : String) (store after : DelegationReplyStore) : Prop :=
  ∀ row ∈ store.authorities, ∃ later ∈ after.authorities,
    later.delegationId = row.delegationId ∧ (row.delegationId ≠ delegationId → later = row)

theorem ChangesOnly.of_eq {delegationId : String} (same : after.authorities = store.authorities) :
    store.ChangesOnly delegationId after := by
  intro row member
  exact ⟨row, by rw [same]; exact member, rfl, fun _ => rfl⟩

theorem changesOnly_update {delegationId : String} {update : ReplyAuthority → ReplyAuthority}
    {keeps : ∀ row, (update row).delegationId = row.delegationId} :
    store.ChangesOnly delegationId { store with
      authorities := store.authorities.updateWhere (fun row => row.delegationId = delegationId)
        update keeps } := by
  intro row member
  refine ⟨if row.delegationId = delegationId then update row else row, ?_, ?_, ?_⟩
  · change _ ∈ store.authorities.updateWhere _ update keeps
    exact Table.mem_updateWhere.mpr ⟨row, member, by simp only [decide_eq_true_eq]⟩
  · split
    · exact keeps row
    · rfl
  · intro other
    exact if_neg other

theorem markDelivered_changesOnly (unique : store.HasUniqueNotifications)
    (delegationId notificationId : String) (now : Int) :
    store.ChangesOnly delegationId (store.markDelivered delegationId notificationId now).1 := by
  have authorities := markDelivered_authorities unique delegationId notificationId now
  cases last : store.deliversLast delegationId notificationId with
  | true =>
    rw [last, if_pos rfl] at authorities
    have delivers : store.ChangesOnly delegationId (store.deliverAuthority delegationId now) :=
      changesOnly_update
    intro row member
    obtain ⟨later, isLater, rest⟩ := delivers row member
    exact ⟨later, by rw [authorities]; exact isLater, rest⟩
  | false =>
    rw [last, if_neg Bool.false_ne_true] at authorities
    exact .of_eq authorities

@[simp] theorem receiveAuthority_messages (input : ReceiveInput) (notificationId : String)
    (now : Int) : (store.receiveAuthority input notificationId now).messages = store.messages := by
  unfold receiveAuthority
  split <;> rfl

theorem receiveAuthority_changesOnly (input : ReceiveInput) (notificationId : String) (now : Int) :
    store.ChangesOnly input.delegationId (store.receiveAuthority input notificationId now) := by
  unfold receiveAuthority
  split
  · exact .of_eq rfl
  · exact changesOnly_update

end

end DelegationReplyStore

/-! ## Operations that neither receive nor deliver -/

def ReplyOperation.isQuiet : ReplyOperation → Prop
  | .receive .. | .markDelivered .. => False
  | _ => True

namespace DelegationReplyStore

theorem perform_messages (resultKey : String → String) (store : DelegationReplyStore) (now : Int)
    {operation : ReplyOperation} (quiet : operation.isQuiet) :
    store.MessagesKeep (store.perform resultKey now operation).1 := by
  cases operation with
  | receive input notificationId => cases quiet
  | markDelivered delegationId notificationId => cases quiet
  | create input delegationId notificationId => exact .of_eq (create_messages _ _ _ now)
  | rebindAuthorizedOrigin input => exact .of_eq (rebindAuthorizedOrigin_messages input now)
  | rebindAssignmentTarget input => exact .of_eq (rebindAssignmentTarget_messages input now)
  | matchPendingAuditAuthority input =>
    exact .of_eq (matchPendingAuditAuthority_messages input now)
  | findPendingAuditDelivery input => exact .of_eq (findPendingAuditDelivery_messages input now)
  | suppressHeldAuditCompletions input => exact suppressHeldAuditCompletions_messages input now
  | releaseHeldAuditCompletion delegationId notificationId =>
    exact releaseHeldAuditCompletion_messages delegationId notificationId now
  | expire delegationId => exact expire_messages delegationId now
  | retireForEndedTask delegationId => exact retireForEndedTask_messages delegationId now

theorem perform_expired (resultKey : String → String) (store : DelegationReplyStore) (now : Int)
    {operation : ReplyOperation} (quiet : operation.isQuiet) :
    store.ExpiredStays (store.perform resultKey now operation).1 := by
  cases operation with
  | receive input notificationId => cases quiet
  | markDelivered delegationId notificationId => cases quiet
  | create input delegationId notificationId => exact create_expired _ _ _ now
  | rebindAuthorizedOrigin input => exact rebindAuthorizedOrigin_expired input now
  | rebindAssignmentTarget input => exact rebindAssignmentTarget_expired input now
  | matchPendingAuditAuthority input => exact matchPendingAuditAuthority_expired input now
  | findPendingAuditDelivery input => exact findPendingAuditDelivery_expired input now
  | suppressHeldAuditCompletions input => exact suppressHeldAuditCompletions_expired input now
  | releaseHeldAuditCompletion delegationId notificationId =>
    exact releaseHeldAuditCompletion_expired delegationId notificationId now
  | expire delegationId => exact expire_expired delegationId now
  | retireForEndedTask delegationId => exact retireForEndedTask_expired delegationId now

end DelegationReplyStore

end ImCodes.Delegation
