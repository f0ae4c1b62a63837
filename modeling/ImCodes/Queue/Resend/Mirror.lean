import ImCodes.Queue.Resend.Queue
import ImCodes.Queue.Store.Admission
import ImCodes.Queue.Store.Invariants

/-!
# The mirror after an enqueue

A resend is enqueued in the durable store first and in memory second, and each side
makes room for it in its own way. An entry that stays in memory while its row goes is
an entry that no later drain can lease.
-/

set_option autoImplicit false

namespace ImCodes.Queue

open Library

namespace TransportQueueStore

/-- What decides whether a session's queue admits a message. -/
structure SameQueue (session : String) (before after : TransportQueueStore) : Prop where
  messages : SameMessages before after
  owner : ∀ recipient, after.isForeignQueue session recipient =
    before.isForeignQueue session recipient

theorem SameQueue.trans {session : String} {first second third : TransportQueueStore}
    (left : SameQueue session first second) (right : SameQueue session second third) :
    SameQueue session first third :=
  ⟨left.messages.trans right.messages,
    fun recipient => (right.owner recipient).trans (left.owner recipient)⟩

theorem SameQueue.symm {session : String} {before after : TransportQueueStore}
    (same : SameQueue session before after) : SameQueue session after before :=
  ⟨⟨same.messages.1.symm, same.messages.2.symm, same.messages.3.symm, same.messages.4.symm⟩,
    fun recipient => (same.owner recipient).symm⟩

theorem SameQueue.admits {before after : TransportQueueStore}
    {input : EnqueueTransportQueueEntryInput} {clientMessageId : String} {now : Int}
    {evicted : Option String} (same : SameQueue (trim input.sessionName) before after)
    (admits : before.Admits input clientMessageId now evicted) :
    after.Admits input clientMessageId now evicted := by
  obtain ⟨named, notCancelled, noConflict⟩ := admits
  refine ⟨named, ?_, ?_⟩
  · unfold isCancelled pruneCancellations at notCancelled ⊢
    rw [same.messages.queueCancellationTombstones]
    exact notCancelled
  · rw [same.messages.queueEntries, same.owner]
    exact noConflict

section Host

variable [Host] {store : TransportQueueStore}

theorem ensureMeta_sameQueue (store : TransportQueueStore) (session : String) :
    SameQueue session store (store.ensureMeta session none).1 := by
  refine ⟨ensureMeta_sameMessages store session none, fun recipient => ?_⟩
  cases found : store.queueMeta.lookup session with
  | some existing => rw [ensureMeta_none_of_some found]
  | none =>
    have stored : (store.ensureMeta session none).1.queueMeta.lookup session =
        some (store.mintedMeta session none) := by
      rw [ensureMeta_none_stored, ensureMeta_of_none found]
      rfl
    cases recipient with
    | none => rfl
    | some identity => simp [isForeignQueue, stored, found, mintedMeta, callerColumns,
        RecipientColumns.legacy, truthy]

theorem identifyMessage_sameQueue (store : TransportQueueStore) (session : String)
    (clientMessageId : Option String) :
    SameQueue session store (store.identifyMessage clientMessageId).1 := by
  refine ⟨(identifyMessage_tables clientMessageId).2, fun recipient => ?_⟩
  unfold isForeignQueue
  rw [(identifyMessage_tables clientMessageId).1]

theorem identifyMessage_clean (clientMessageId : Option String) :
    (store.identifyMessage clientMessageId).2 ≠ "" ∧
      trim (store.identifyMessage clientMessageId).2 =
        (store.identifyMessage clientMessageId).2 := by
  unfold identifyMessage
  split
  · next given found => exact (trimmed_eq_some found).symm
  · exact ⟨Host.randomUUID_ne_empty _, Host.randomUUID_trim _⟩

theorem readSnapshot_named {sessionName source : String}
    {read : TransportQueueStore × QueueSnapshot}
    (done : store.readSnapshot sessionName source = .ok read) : trim sessionName ≠ "" := by
  obtain ⟨session, named, _⟩ := bind_eq_ok.mp done
  obtain ⟨rfl, nonempty, _⟩ := normalizeSessionName_eq_ok named
  exact nonempty

theorem readSnapshot_sameQueue {sessionName source : String}
    {read : TransportQueueStore × QueueSnapshot}
    (done : store.readSnapshot sessionName source = .ok read) :
    SameQueue (trim sessionName) store read.1 := by
  have done := session_ok done
  cases done
  exact ensureMeta_sameQueue store (trim sessionName)

theorem pending_iff_live {sessionName source clientMessageId : String}
    {read : TransportQueueStore × QueueSnapshot}
    (done : store.readSnapshot sessionName source = .ok read) :
    (∃ candidate ∈ read.2.pendingMessageEntries, candidate.clientMessageId = clientMessageId) ↔
      ∃ row, row ∈ store.queueEntries ∧ row.key = (trim sessionName, clientMessageId) ∧
        row.status.isLive = true := by
  have same := (readSnapshot_sameQueue done).messages
  have done := session_ok done
  cases done
  have entries : (store.ensureMeta (trim sessionName) none).1.queueEntries = store.queueEntries :=
    same.queueEntries
  rw [← entries]
  simp only [buildSnapshot, List.mem_map, mem_sortByPosition, List.mem_filter]
  constructor
  · rintro ⟨candidate, ⟨entry, ⟨listed, live⟩, rfl⟩, isMessage⟩
    obtain ⟨member, inside, _⟩ := mem_readRows listed
    exact ⟨entry.row, member, Prod.ext inside isMessage, live⟩
  · rintro ⟨row, member, isKey, live⟩
    obtain ⟨inside, isMessage⟩ := Prod.mk.inj isKey
    refine ⟨_, ⟨_, ⟨mem_readRows_of_mem member inside ?_ rfl, live⟩, rfl⟩, isMessage⟩
    rw [ensureMeta_none_stored]
    rfl

end Host

end TransportQueueStore

theorem QueueEntryRow.pending_of_live {row : QueueEntryRow} (live : row.status.isLive = true)
    (undispatched : row.status ≠ .dispatching) : row.pending = true := by
  unfold QueueEntryRow.pending
  cases status : row.status <;> simp [status, QueueEntryStatus.isLive] at live undispatched ⊢

theorem QueueEntryRow.live_of_pending {row : QueueEntryRow} (pending : row.pending = true) :
    row.status.isLive = true := by
  unfold QueueEntryRow.pending at pending
  cases status : row.status <;> simp [status, QueueEntryStatus.isLive] at pending ⊢

theorem QueueEntryRow.pending_of_queued {row : QueueEntryRow} (queued : row.queued = true) :
    row.pending = true := by
  unfold QueueEntryRow.pending
  unfold QueueEntryRow.queued at queued
  rw [queued]
  rfl

namespace ResendState

/-- Every entry held in memory for a session has a row that satisfies `p`. -/
def Mirrored (p : QueueEntryRow → Bool) (sessionName : String) (entries : List ResendEntry)
    (store : TransportQueueStore) : Prop :=
  ∀ held ∈ entries, ∃ row, row ∈ store.queueEntries ∧ row.sessionName = trim sessionName ∧
    held.clientMessageId = some row.clientMessageId ∧ p row = true

def evictedId (entries : List ResendEntry) : Option String :=
  trimmed ((if maxResendEntries ≤ entries.length then entries.head? else none).bind
    (·.clientMessageId))

/-- The entries that are not fires of the schedule of the new command. -/
def otherFires (commandId : String) (entries : List ResendEntry) : List ResendEntry :=
  match cronScheduleId (some commandId) with
  | some schedule =>
    entries.filter fun held => cronScheduleId (some held.commandId) ≠ some schedule
  | none => entries

/-- The entries that stay in memory when a new one is added. -/
def remaining (commandId : String) (entries : List ResendEntry) : List ResendEntry :=
  if maxResendEntries ≤ (otherFires commandId entries).length then
    (otherFires commandId entries).tail
  else otherFires commandId entries

theorem mem_of_mem_remaining {commandId : String} {entries : List ResendEntry} {held : ResendEntry}
    (listed : held ∈ remaining commandId entries) : held ∈ entries := by
  have other : held ∈ otherFires commandId entries := by
    unfold remaining at listed
    split at listed
    · exact List.mem_of_mem_tail listed
    · exact listed
  unfold otherFires at other
  split at other
  · exact List.mem_of_mem_filter other
  · exact other

def Unlisted (state : ResendState) (sessionName clientMessageId : String) : Prop :=
  ∀ row, row ∈ state.store.queueEntries → row.key = (trim sessionName, clientMessageId) →
    row.status.isLive = false

theorem answerReplay_spec (state : ResendState) (sessionName clientMessageId : String)
    (entry : ResendEntry) (read : QueueSnapshot) (existing : QueueProjectionEntry)
    (material : Option JsonText) :
    (state.answerReplay sessionName clientMessageId entry true read existing material).1.store =
        state.store ∧
      ∀ held ∈ (state.answerReplay sessionName clientMessageId entry true read existing
        material).1.queues sessionName, held ∈ state.queues sessionName ∨ held = entry := by
  unfold answerReplay
  simp only [if_true]
  split_ifs
  · refine ⟨rfl, fun held listed => ?_⟩
    simpa [setQueue] using listed
  · exact ⟨rfl, fun held listed => .inl listed⟩
  · exact ⟨rfl, fun held listed => .inl listed⟩

theorem Mirrored.pending {sessionName : String} {entries : List ResendEntry}
    {before after : TransportQueueStore}
    (mirrored : Mirrored QueueEntryRow.queued sessionName entries before)
    (same : after.queueEntries = before.queueEntries) :
    Mirrored QueueEntryRow.pending sessionName entries after := by
  intro held listed
  obtain ⟨row, member, inside, isRow, queued⟩ := mirrored held listed
  rw [same]
  exact ⟨row, member, inside, isRow, QueueEntryRow.pending_of_queued queued⟩

/-- The durable write leaves the row of an entry in the queue. -/
def SparesRow (state : ResendState) (sessionName : String) (entry held : ResendEntry) : Prop :=
  state.store.isForeignQueue (trim sessionName) (normalizeQueueRecipient entry.recipient) =
    false ∧
  evictedId (state.queues sessionName) ≠ held.clientMessageId ∧
  ∀ row, row ∈ state.store.queueEntries → row.sessionName = trim sessionName →
    held.clientMessageId = some row.clientMessageId →
    TransportQueueStore.supersededBy (trim sessionName) (some entry.commandId) row = false

theorem pending_iff_spared {state : ResendState} {sessionName clientMessageId : String}
    {entry held : ResendEntry} {after : TransportQueueStore} {fresh : QueueEntryRow}
    (unlisted : state.Unlisted sessionName clientMessageId)
    (freshKey : fresh.key = (trim sessionName, clientMessageId))
    (entries : ∀ row, row ∈ after.queueEntries ↔ row = fresh ∨
      ∃ old, old ∈ state.store.queueEntries ∧
        TransportQueueStore.Outlasts (trim sessionName)
          (state.store.isForeignQueue (trim sessionName) (normalizeQueueRecipient entry.recipient))
          (evictedId (state.queues sessionName)) old ∧
        (if TransportQueueStore.supersededBy (trim sessionName) (some entry.commandId) old then
          old.supersede entry.queuedAt else old) = row)
    {row : QueueEntryRow} (member : row ∈ state.store.queueEntries)
    (inside : row.sessionName = trim sessionName)
    (isRow : held.clientMessageId = some row.clientMessageId) (queued : row.queued = true) :
    (∃ kept, kept ∈ after.queueEntries ∧ kept.sessionName = trim sessionName ∧
      held.clientMessageId = some kept.clientMessageId ∧ kept.pending = true) ↔
    state.SparesRow sessionName entry held := by
  have pending := QueueEntryRow.pending_of_queued queued
  constructor
  · rintro ⟨kept, keptMember, keptInside, isKept, keptPending⟩
    have sameKey : kept.key = row.key :=
      Prod.ext (keptInside.trans inside.symm) (Option.some.inj (isKept.symm.trans isRow))
    rcases (entries kept).mp keptMember with rfl | ⟨old, oldMember, outlasts, isOld⟩
    · have live := QueueEntryRow.live_of_pending pending
      rw [unlisted row member (sameKey.symm.trans freshKey)] at live
      cases live
    · have sameRow : old = row := by
        refine Table.eq_of_key oldMember member ?_
        rw [← sameKey, ← isOld, TransportQueueStore.supersede_key]
      rw [sameRow] at outlasts isOld
      have spared : TransportQueueStore.supersededBy (trim sessionName) (some entry.commandId) row =
          false := by
        by_contra superseded
        rw [if_pos (Bool.not_eq_false _ ▸ superseded)] at isOld
        rw [← isOld] at keptPending
        simp [QueueEntryRow.pending, QueueEntryRow.supersede] at keptPending
      obtain ⟨own, notEvicted⟩ := outlasts inside
      refine ⟨own, isRow ▸ notEvicted, ?_⟩
      intro other otherMember otherInside isOther
      have sameOther : other = row := Table.eq_of_key otherMember member
        (Prod.ext (otherInside.trans inside.symm) (Option.some.inj (isOther.symm.trans isRow)))
      rw [sameOther]
      exact spared
  · rintro ⟨own, notEvicted, spared⟩
    refine ⟨row, (entries row).mpr (.inr ⟨row, member, ?_, ?_⟩), inside, isRow, pending⟩
    · exact fun _ => ⟨own, isRow ▸ notEvicted⟩
    · rw [spared row member inside isRow]
      rfl

theorem enqueueInput_identified (entry : ResendEntry) (sessionName clientMessageId : String) :
    { entry with clientMessageId := some clientMessageId }.enqueueInput sessionName
      clientMessageId = entry.enqueueInput sessionName clientMessageId := rfl

section Host

variable [Host]

/-- The enqueue adds a row: it is not a replay of a live one, and the store admits it. -/
def AdmitsResend (state : ResendState) (sessionName : String) (entry : ResendEntry) : Prop :=
  let clientMessageId := (state.store.identifyMessage entry.clientMessageId).2
  state.Unlisted sessionName clientMessageId ∧
  state.store.Admits (entry.enqueueInput sessionName clientMessageId) clientMessageId
    entry.queuedAt (evictedId (state.queues sessionName))

theorem bumpTransportQueueRevision_spec (state : ResendState) (sessionName : String) :
    (state.bumpTransportQueueRevision sessionName).1.queues = state.queues ∧
      (state.bumpTransportQueueRevision sessionName).1.store.queueEntries =
        state.store.queueEntries := by
  unfold bumpTransportQueueRevision
  split
  · next read done =>
      exact ⟨rfl, (TransportQueueStore.readSnapshot_sameQueue done).messages.queueEntries⟩
  · exact ⟨rfl, rfl⟩

theorem retainEntry_spec (state : ResendState) (sessionName : String) (entry : ResendEntry) :
    (state.retainEntry sessionName entry).1.queues sessionName =
        remaining entry.commandId (state.queues sessionName) ++ [entry] ∧
      (state.retainEntry sessionName entry).1.store.queueEntries = state.store.queueEntries := by
  have bumpedStore : ∀ kept,
      (if kept.length ≠ (state.queues sessionName).length then
        ((state.setQueue sessionName kept).bumpTransportQueueRevision sessionName).1
      else state).store.queueEntries = state.store.queueEntries := by
    intro kept
    split
    · exact (bumpTransportQueueRevision_spec _ sessionName).2
    · rfl
  cases fired : cronScheduleId (some entry.commandId) with
  | none =>
    simp only [retainEntry, remaining, otherFires, fired]
    split
    · exact ⟨Function.update_self _ _ _, bumpedStore _⟩
    · exact ⟨Function.update_self _ _ _, bumpedStore _⟩
  | some schedule =>
    simp only [retainEntry, remaining, otherFires, fired]
    split
    · exact ⟨Function.update_self _ _ _, bumpedStore _⟩
    · exact ⟨Function.update_self _ _ _, bumpedStore _⟩

theorem Unlisted.not_pending {state : ResendState} {sessionName clientMessageId source : String}
    (unlisted : state.Unlisted sessionName clientMessageId)
    {read : TransportQueueStore × QueueSnapshot}
    (done : state.store.readSnapshot sessionName source = .ok read)
    {existing : QueueProjectionEntry} (listed : read.2.pendingMessageEntries.find?
      (fun candidate => candidate.clientMessageId = clientMessageId) = some existing) : False := by
  have isMessage : existing.clientMessageId = clientMessageId := by
    simpa using List.find?_some listed
  obtain ⟨row, member, isKey, live⟩ := (TransportQueueStore.pending_iff_live done).mp
    ⟨existing, List.mem_of_find?_eq_some listed, isMessage⟩
  rw [unlisted row member isKey] at live
  cases live

theorem answerFailedWrite_spec {state : ResendState} {sessionName clientMessageId : String}
    (unlisted : trim sessionName ≠ "" → state.Unlisted sessionName clientMessageId) (entry : ResendEntry) :
    (state.answerFailedWrite sessionName clientMessageId entry).1.queues = state.queues ∧
    (state.answerFailedWrite sessionName clientMessageId entry).1.store.queueEntries =
      state.store.queueEntries ∧
    ∀ snapshot, (state.answerFailedWrite sessionName clientMessageId entry).2 ≠
      .ok (.inr snapshot) := by
  have rejected : ∀ seen : ResendState, ∀ snapshot,
      ((seen.bumpTransportQueueRevision sessionName).2.map fun version =>
        (Sum.inl (.rejected version .sqliteEnqueueFailed) : EnqueueResendResult ⊕ QueueSnapshot)) ≠
      .ok (.inr snapshot) := by
    intro seen snapshot
    cases (seen.bumpTransportQueueRevision sessionName).2 <;> simp [Except.map]
  unfold answerFailedWrite
  dsimp only
  split
  · exact ⟨(bumpTransportQueueRevision_spec state sessionName).1,
      (bumpTransportQueueRevision_spec state sessionName).2, rejected state⟩
  · next read done =>
      have entries := (TransportQueueStore.readSnapshot_sameQueue done).messages.queueEntries
      split
      · exact ⟨rfl, entries, fun _ impossible => by cases impossible⟩
      · split
        · exact ⟨(bumpTransportQueueRevision_spec _ sessionName).1,
            (bumpTransportQueueRevision_spec _ sessionName).2.trans entries, rejected _⟩
        · next existing listed =>
            exact False.elim
              ((unlisted (TransportQueueStore.readSnapshot_named done)).not_pending done listed)

theorem writeResend_refused {state : ResendState} (clock : Int)
    {sessionName clientMessageId : String} {entry : ResendEntry}
    (clean : clientMessageId ≠ "" ∧ trim clientMessageId = clientMessageId)
    (unlisted : trim sessionName ≠ "" → state.Unlisted sessionName clientMessageId)
    (refused : ¬ state.store.Admits (entry.enqueueInput sessionName clientMessageId)
      clientMessageId entry.queuedAt (evictedId (state.queues sessionName))) :
    (state.writeResend clock sessionName clientMessageId entry true).1.queues = state.queues ∧
      (state.writeResend clock sessionName clientMessageId entry true).1.store.queueEntries =
        state.store.queueEntries := by
  have identified : (state.store.identifyMessage
      (entry.enqueueInput sessionName clientMessageId).clientMessageId).2 = clientMessageId := by
    simp [ResendEntry.enqueueInput, TransportQueueStore.identifyMessage,
      trimmed_of_clean clean.2 clean.1]
  unfold writeResend
  dsimp only
  rcases TransportQueueStore.enqueueWithCapacityEviction_refused clock identified
    refused with ⟨error, failed⟩ | ⟨result, done, cancelled, entries⟩
  · obtain ⟨queues, entries, notReplay⟩ := answerFailedWrite_spec unlisted entry
    rw [failed]
    dsimp only
    split
    · exact ⟨queues, entries⟩
    · exact ⟨queues, entries⟩
    · next snapshot answered => exact absurd answered (notReplay snapshot)
  · rw [done]
    simp only [cancelled, if_true]
    exact ⟨trivial, entries⟩

theorem writeResend_admitted {state : ResendState} (clock : Int)
    {sessionName clientMessageId : String} {entry : ResendEntry}
    (clean : clientMessageId ≠ "" ∧ trim clientMessageId = clientMessageId)
    (admits : state.store.Admits (entry.enqueueInput sessionName clientMessageId)
      clientMessageId entry.queuedAt (evictedId (state.queues sessionName))) :
    (state.writeResend clock sessionName clientMessageId entry true).1.queues sessionName =
        remaining entry.commandId (state.queues sessionName) ++ [entry] ∧
      ∃ fresh, TransportQueueStore.IsEnqueued (entry.enqueueInput sessionName clientMessageId)
          clientMessageId entry.queuedAt fresh ∧
        ∀ row, row ∈ (state.writeResend clock sessionName clientMessageId entry
            true).1.store.queueEntries ↔ row = fresh ∨
          ∃ old, old ∈ state.store.queueEntries ∧
            TransportQueueStore.Outlasts (trim sessionName)
              (state.store.isForeignQueue (trim sessionName)
                (normalizeQueueRecipient entry.recipient)) (evictedId (state.queues sessionName))
              old ∧
            (if TransportQueueStore.supersededBy (trim sessionName) (some entry.commandId) old then
              old.supersede entry.queuedAt else old) = row := by
  have identified : (state.store.identifyMessage
      (entry.enqueueInput sessionName clientMessageId).clientMessageId).2 = clientMessageId := by
    simp [ResendEntry.enqueueInput, TransportQueueStore.identifyMessage,
      trimmed_of_clean clean.2 clean.1]
  obtain ⟨result, done, uncancelled, fresh, isFresh, entries⟩ :=
    TransportQueueStore.enqueueWithCapacityEviction_admitted clock identified admits
  have retained := retainEntry_spec { state with store := result.1 } sessionName entry
  have written : (state.writeResend clock sessionName clientMessageId entry true).1 =
      ({ state with store := result.1 }.retainEntry sessionName entry : ResendState × Bool).1 := by
    unfold writeResend
    dsimp only
    rw [done]
    simp only [uncancelled, if_true, Bool.false_eq_true, if_false]
  rw [written, retained.1, retained.2]
  exact ⟨rfl, fresh, isFresh, entries⟩

theorem identifyResend_spec (state : ResendState) (sessionName : String) (entry : ResendEntry) :
    (state.identifyResend entry).1.queues = state.queues ∧
      TransportQueueStore.SameQueue (trim sessionName) state.store
        (state.identifyResend entry).1.store ∧
      (state.identifyResend entry).2 = (state.store.identifyMessage entry.clientMessageId).2 :=
  ⟨rfl, TransportQueueStore.identifyMessage_sameQueue _ _ _, rfl⟩

theorem checkReplay_spec (state : ResendState) (sessionName : String) (entry : ResendEntry)
    {clientMessageId : String}
    (clean : clientMessageId ≠ "" ∧ trim clientMessageId = clientMessageId) :
    (∃ seen answer, state.checkReplay sessionName clientMessageId entry true =
        .ok (seen, some answer) ∧
      seen.store.queueEntries = state.store.queueEntries ∧
      (∀ held ∈ seen.queues sessionName, held ∈ state.queues sessionName ∨ held = entry) ∧
      ∃ row, row ∈ state.store.queueEntries ∧ row.key = (trim sessionName, clientMessageId) ∧
        row.status.isLive = true) ∨
    (∃ seen, state.checkReplay sessionName clientMessageId entry true = .ok (seen, none) ∧
      seen.queues = state.queues ∧
      TransportQueueStore.SameQueue (trim sessionName) state.store seen.store ∧
      state.Unlisted sessionName clientMessageId) ∨
    ((∃ error, state.checkReplay sessionName clientMessageId entry true = .error error) ∧
      trim sessionName = "") := by
  unfold checkReplay
  cases done : state.store.readSnapshot sessionName "read" with
  | error error =>
    refine .inr (.inr ⟨⟨error, rfl⟩, ?_⟩)
    by_contra nonempty
    simp [TransportQueueStore.readSnapshot, normalizeSessionName, nonempty, bind, Except.bind,
      pure, Except.pure] at done
  | ok read =>
    have same := TransportQueueStore.readSnapshot_sameQueue done
    have named := TransportQueueStore.readSnapshot_named done
    simp only [bind, Except.bind]
    cases listed : read.2.pendingMessageEntries.find? fun candidate =>
        candidate.clientMessageId = clientMessageId with
    | some existing =>
      refine .inl ?_
      have isMessage : existing.clientMessageId = clientMessageId := by
        simpa using List.find?_some listed
      obtain ⟨material, found⟩ : ∃ material, read.1.readPrivateDispatchMaterial sessionName
          clientMessageId entry.recipient = .ok material := by
        simp [TransportQueueStore.readPrivateDispatchMaterial, normalizeSessionName, named,
          requireNonEmpty, clean, bind, Except.bind, pure, Except.pure]
      simp only [found, pure, Except.pure]
      obtain ⟨storeSame, held⟩ := answerReplay_spec { state with store := read.1 } sessionName
        clientMessageId entry read.2 existing material
      refine ⟨_, _, rfl, ?_, held, ?_⟩
      · rw [storeSame]
        exact same.messages.queueEntries
      · exact (TransportQueueStore.pending_iff_live done).mp
          ⟨existing, List.mem_of_find?_eq_some listed, isMessage⟩
    | none =>
      refine .inr (.inl ⟨{ state with store := read.1 }, rfl, rfl, same, ?_⟩)
      intro row member isKey
      by_contra live
      obtain ⟨candidate, shown, isMessage⟩ := (TransportQueueStore.pending_iff_live done).mpr
        ⟨row, member, isKey, Bool.not_eq_false _ ▸ live⟩
      have missed := List.find?_eq_none.mp listed candidate shown
      simp [isMessage] at missed

theorem writeResend_keeps_mirror_iff {state : ResendState} {clock : Int}
    {sessionName clientMessageId : String} {entry : ResendEntry}
    (clean : clientMessageId ≠ "" ∧ trim clientMessageId = clientMessageId)
    (identified : entry.clientMessageId = some clientMessageId)
    (unlisted : state.Unlisted sessionName clientMessageId)
    (mirrored : Mirrored QueueEntryRow.queued sessionName (state.queues sessionName) state.store) :
    Mirrored QueueEntryRow.pending sessionName
        ((state.writeResend clock sessionName clientMessageId entry true).1.queues sessionName)
        (state.writeResend clock sessionName clientMessageId entry true).1.store ↔
      ¬ state.store.Admits (entry.enqueueInput sessionName clientMessageId) clientMessageId
          entry.queuedAt (evictedId (state.queues sessionName)) ∨
        ∀ held ∈ remaining entry.commandId (state.queues sessionName),
          state.SparesRow sessionName entry held := by
  by_cases admits : state.store.Admits (entry.enqueueInput sessionName clientMessageId)
    clientMessageId entry.queuedAt (evictedId (state.queues sessionName))
  · obtain ⟨queue, fresh, ⟨ordinal, isFresh⟩, entries⟩ :=
      writeResend_admitted clock clean admits
    have freshKey : fresh.key = (trim sessionName, clientMessageId) := by
      rw [isFresh]
      rfl
    have spared : ∀ held ∈ remaining entry.commandId (state.queues sessionName),
        ((∃ kept, kept ∈ (state.writeResend clock sessionName clientMessageId entry
            true).1.store.queueEntries ∧ kept.sessionName = trim sessionName ∧
          held.clientMessageId = some kept.clientMessageId ∧ kept.pending = true) ↔
        state.SparesRow sessionName entry held) := by
      intro held listed
      obtain ⟨row, member, inside, isRow, queued⟩ := mirrored held (mem_of_mem_remaining listed)
      exact pending_iff_spared unlisted freshKey entries member inside isRow queued
    rw [queue]
    constructor
    · intro kept
      refine .inr fun held listed => (spared held listed).mp ?_
      exact kept held (List.mem_append_left _ listed)
    · rintro (refused | spares) held listed
      · exact absurd admits refused
      · rcases List.mem_append.mp listed with old | new
        · exact (spared held old).mpr (spares held old)
        · cases List.mem_singleton.mp new
          refine ⟨fresh, (entries fresh).mpr (.inl rfl), ?_, ?_, ?_⟩
          · rw [isFresh]
            rfl
          · rw [isFresh]
            exact identified
          · rw [isFresh]
            rfl
  · obtain ⟨queue, entries⟩ := writeResend_refused clock clean (fun _ => unlisted)
      admits
    rw [queue]
    exact ⟨fun _ => .inl admits, fun _ => mirrored.pending entries⟩

theorem writeResend_opened {state seen : ResendState} {clock : Int}
    {sessionName clientMessageId : String} (entry : ResendEntry)
    (queues : seen.queues = state.queues)
    (same : TransportQueueStore.SameQueue (trim sessionName) state.store seen.store)
    (clean : clientMessageId ≠ "" ∧ trim clientMessageId = clientMessageId)
    (unlisted : state.Unlisted sessionName clientMessageId)
    (mirrored : Mirrored QueueEntryRow.queued sessionName (state.queues sessionName) state.store) :
    Mirrored QueueEntryRow.pending sessionName
        ((seen.writeResend clock sessionName clientMessageId
          { entry with clientMessageId := some clientMessageId } true).1.queues sessionName)
        (seen.writeResend clock sessionName clientMessageId
          { entry with clientMessageId := some clientMessageId } true).1.store ↔
      ¬ state.store.Admits (entry.enqueueInput sessionName clientMessageId) clientMessageId
          entry.queuedAt (evictedId (state.queues sessionName)) ∨
        ∀ held ∈ remaining entry.commandId (state.queues sessionName),
          state.SparesRow sessionName entry held := by
  have entries := same.messages.queueEntries
  have seenUnlisted : seen.Unlisted sessionName clientMessageId := by
    unfold Unlisted
    rw [entries]
    exact unlisted
  have seenMirrored : Mirrored QueueEntryRow.queued sessionName (seen.queues sessionName)
      seen.store := by
    unfold Mirrored
    rw [queues, entries]
    exact mirrored
  rw [writeResend_keeps_mirror_iff clean rfl seenUnlisted seenMirrored, queues,
    enqueueInput_identified]
  refine or_congr (not_congr ⟨fun admits => ?_, fun admits => ?_⟩) ?_
  · refine TransportQueueStore.SameQueue.admits ?_ admits
    exact same.symm
  · refine TransportQueueStore.SameQueue.admits ?_ admits
    exact same
  · unfold SparesRow
    rw [queues, entries, same.owner]

/-- An enqueue keeps every entry held in memory paired with a pending row exactly if it adds
no row, or the durable write spares the rows of the entries that stay in memory. -/
theorem enqueueResend_keeps_mirror_iff (state : ResendState) (clock : Int) (sessionName : String)
    (entry : ResendEntry) (reachable : TransportQueueStore.Reachable state.store)
    (mirrored : Mirrored QueueEntryRow.queued sessionName (state.queues sessionName) state.store) :
    Mirrored QueueEntryRow.pending sessionName
        ((state.enqueueResend clock sessionName entry).1.queues sessionName)
        (state.enqueueResend clock sessionName entry).1.store ↔
      ¬ state.AdmitsResend sessionName entry ∨
        ∀ held ∈ remaining entry.commandId (state.queues sessionName),
          state.SparesRow sessionName entry held := by
  obtain ⟨queues, opened, named⟩ := identifyResend_spec state sessionName entry
  have clean := @TransportQueueStore.identifyMessage_clean _ state.store
    entry.clientMessageId
  rw [← named] at clean
  unfold enqueueResend enqueueResendInternal AdmitsResend
  rw [← named]
  generalize state.identifyResend entry = identified at queues opened clean
  obtain ⟨identifiedState, clientMessageId⟩ := identified
  dsimp only at queues opened clean ⊢
  rcases checkReplay_spec identifiedState sessionName
      { entry with clientMessageId := some clientMessageId } clean with
    ⟨seen, answer, checked, entries, held, row, member, isKey, live⟩ |
    ⟨seen, checked, seenQueues, same, unlisted⟩ | ⟨⟨error, failed⟩, blank⟩
  · rw [checked]
    rw [opened.messages.queueEntries] at entries member
    have replayed : ¬ state.Unlisted sessionName clientMessageId := by
      intro unlisted
      rw [unlisted row member isKey] at live
      cases live
    refine ⟨fun _ => .inl fun admits => replayed admits.1, fun _ stored listed => ?_⟩
    rcases held stored listed with old | rfl
    · rw [queues] at old
      exact mirrored.pending entries stored old
    · obtain ⟨inside, isMessage⟩ := Prod.mk.inj isKey
      refine ⟨row, entries.symm ▸ member, inside, congrArg some isMessage.symm, ?_⟩
      exact QueueEntryRow.pending_of_live live
        (TransportQueueStore.reachable_undispatched reachable row member)
  · rw [checked]
    have stateUnlisted : state.Unlisted sessionName clientMessageId := by
      unfold Unlisted at unlisted ⊢
      rw [← opened.messages.queueEntries]
      exact unlisted
    dsimp only
    rw [writeResend_opened entry (seenQueues.trans queues) (opened.trans same) clean stateUnlisted
      mirrored]
    simp only [stateUnlisted, true_and]
  · rw [failed]
    refine ⟨fun _ => .inl fun admits => admits.2.1 blank, fun _ => ?_⟩
    obtain ⟨written, entries⟩ := @writeResend_refused _ identifiedState clock _ _
      { entry with clientMessageId := some clientMessageId } clean
      (fun named => absurd blank named) fun admits => admits.1 blank
    dsimp only
    rw [written, queues]
    exact mirrored.pending (entries.trans opened.messages.queueEntries)

end Host

theorem mirrored_iff_holds {p : QueueEntryRow → Bool} {sessionName : String}
    {entries : List ResendEntry} {store : TransportQueueStore} :
    Mirrored p sessionName entries store ↔
      ∀ held ∈ entries, store.queueEntries.holds (fun row =>
        row.sessionName = trim sessionName && held.clientMessageId = some row.clientMessageId &&
          p row) = true := by
  simp only [Mirrored, Table.holds_iff, Bool.and_eq_true, decide_eq_true_eq, and_assoc]

instance {p : QueueEntryRow → Bool} {sessionName : String} {entries : List ResendEntry}
    {store : TransportQueueStore} : Decidable (Mirrored p sessionName entries store) :=
  decidable_of_iff _ mirrored_iff_holds.symm

section FixedRuns

open Library.FixedRuns TransportQueueStore

/-- A full list whose second entry is the fire of a schedule. -/
def fullList : List ResendEntry :=
  plainResend none "m0" "c0" 1 :: plainResend none "m1" "cron:s:1" 1 ::
    ["m2", "m3", "m4", "m5", "m6", "m7", "m8", "m9"].map fun clientMessageId =>
      plainResend none clientMessageId "c" 1

def fullOperations : List Operation :=
  fullList.map fun entry =>
    .enqueue 0 (entry.enqueueInput "deck" (entry.clientMessageId.getD ""))

def fullMirror : ResendState where
  queues := Function.update (fun _ => []) "deck" fullList
  store := run next empty fullOperations

theorem fullMirror_reachable : TransportQueueStore.Reachable fullMirror.store := by
  unfold TransportQueueStore.Reachable Library.Reachable
  refine Exists.intro fullOperations ?_
  unfold fullMirror
  with_reducible rfl

theorem fullMirror_mirrored :
    Mirrored QueueEntryRow.queued "deck" (fullMirror.queues "deck") fullMirror.store := by
  decide +kernel

/-- The next fire of the schedule evicts the row of the first entry, which the room its
predecessor leaves in memory then keeps. -/
theorem capacity_eviction_splits_mirror :
    Mirrored QueueEntryRow.queued "deck" (fullMirror.queues "deck") fullMirror.store ∧
    ¬ Mirrored QueueEntryRow.pending "deck"
        ((fullMirror.enqueueResend 2 "deck" (plainResend none "m10" "cron:s:2" 2)).1.queues "deck")
        (fullMirror.enqueueResend 2 "deck" (plainResend none "m10" "cron:s:2" 2)).1.store := by
  refine ⟨fullMirror_mirrored, ?_⟩
  decide +kernel

theorem enqueueResend_keeps_mirror_iff_run :
    Mirrored QueueEntryRow.pending "deck"
        ((fullMirror.enqueueResend 2 "deck" (plainResend none "m10" "c" 2)).1.queues "deck")
        (fullMirror.enqueueResend 2 "deck" (plainResend none "m10" "c" 2)).1.store ↔
      ¬ fullMirror.AdmitsResend "deck" (plainResend none "m10" "c" 2) ∨
        ∀ held ∈ remaining (plainResend none "m10" "c" 2).commandId (fullMirror.queues "deck"),
          fullMirror.SparesRow "deck" (plainResend none "m10" "c" 2) held :=
  enqueueResend_keeps_mirror_iff fullMirror 2 "deck" (plainResend none "m10" "c" 2)
    fullMirror_reachable fullMirror_mirrored

end FixedRuns

end ResendState

end ImCodes.Queue
