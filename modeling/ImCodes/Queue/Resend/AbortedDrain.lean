import ImCodes.Queue.Resend.Drain
import ImCodes.Queue.Store.Change

/-!
# Aborted drains

A drain whose lease is incomplete stops before it dispatches anything. The entries it
could lease stay leased.
-/

set_option autoImplicit false

namespace ImCodes.Queue

open Library

namespace TransportQueueStore

/-- What decides whether the rows of a session can be leased. -/
def leaseView (store : TransportQueueStore) (session : String) :
    List (String × QueueEntryStatus × Option String × Option Nat) :=
  (store.queueEntries.select (inSession session)).map fun row =>
    (row.clientMessageId, row.status, row.handoffId, row.handoffAttempt)

theorem leaseView_status {before after : TransportQueueStore} {session : String}
    (same : after.leaseView session = before.leaseView session) {row : QueueEntryRow}
    (member : row ∈ after.queueEntries) (inside : row.sessionName = session) :
    ∃ old, old ∈ before.queueEntries ∧ old.key = row.key ∧ old.status = row.status := by
  have viewed : (row.clientMessageId, row.status, row.handoffId, row.handoffAttempt) ∈
      before.leaseView session := by
    rw [← same]
    exact List.mem_map.mpr ⟨row, Table.mem_select.mpr ⟨member, decide_eq_true inside⟩, rfl⟩
  obtain ⟨old, selected, sameView⟩ := List.mem_map.mp viewed
  obtain ⟨oldMember, oldInside⟩ := Table.mem_select.mp selected
  simp only [Prod.mk.injEq] at sameView
  exact ⟨old, oldMember, Prod.ext ((of_decide_eq_true oldInside).trans inside.symm) sameView.1,
    sameView.2.1⟩

theorem lookup_leaseMessages {store : TransportQueueStore} {session handoffId : String}
    {leaseMs now : Int} {caller : Option QueueRecipientIdentity}
    (clientMessageIds : List String) (clientMessageId : String) :
    (store.leaseMessages session handoffId leaseMs now caller clientMessageIds).1.queueEntries.lookup
        (session, clientMessageId) =
      (store.queueEntries.lookup (session, clientMessageId)).map fun row =>
        if clientMessageIds.contains clientMessageId && isLeasable session clientMessageId caller row
        then row.lease handoffId leaseMs now else row := by
  suffices general : ∀ state : TransportQueueStore × Nat,
      (clientMessageIds.foldl (fun state clientMessageId =>
        (state.1.leaseMessage session handoffId leaseMs now caller clientMessageId,
          state.2 + state.1.queueEntries.changes (isLeasable session clientMessageId caller)))
        state).1.queueEntries.lookup (session, clientMessageId) =
      (state.1.queueEntries.lookup (session, clientMessageId)).map fun row =>
        if clientMessageIds.contains clientMessageId && isLeasable session clientMessageId caller row
        then row.lease handoffId leaseMs now else row from general (store, 0)
  induction clientMessageIds with
  | nil =>
    intro state
    simp
  | cons first rest ih =>
    intro state
    rw [List.foldl_cons, ih]
    have leased : (state.1.leaseMessage session handoffId leaseMs now caller
        first).queueEntries.lookup (session, clientMessageId) =
        (state.1.queueEntries.lookup (session, clientMessageId)).map fun row =>
          if isLeasable session first caller row then row.lease handoffId leaseMs now else row :=
      @Table.lookup_updateWhere _ _ _ _ _ _ (QueueEntryRow.lease handoffId leaseMs now)
        (fun _ => rfl) _
    rw [leased]
    cases found : state.1.queueEntries.lookup (session, clientMessageId) with
    | none => rfl
    | some row =>
      have isRow := isMessage_iff_entryKey.mpr (Table.lookup_eq_some_iff.mp found).2
      simp only [Option.map_some, Option.some.injEq]
      by_cases isFirst : first = clientMessageId
      · subst isFirst
        cases leasable : isLeasable session first caller row with
        | true => simp [isLeasable, QueueEntryRow.lease, QueueEntryRow.queued]
        | false => simp [leasable]
      · have unleasable : isLeasable session first caller row = false := by
          have named : row.clientMessageId = clientMessageId := by
            simpa [isMessage, MessageRow.clientMessageId] using (Bool.and_eq_true_iff.mp isRow).2
          simp [isLeasable, isMessage, MessageRow.clientMessageId, named, Ne.symm isFirst]
        simp [unleasable, Ne.symm isFirst]

theorem leaseMessages_unleasable {store : TransportQueueStore} {session handoffId : String}
    {leaseMs now : Int} {caller : Option QueueRecipientIdentity} {clientMessageIds : List String}
    (unleasable : ∀ clientMessageId ∈ clientMessageIds,
      store.queueEntries.holds (isLeasable session clientMessageId caller) = false) :
    (store.leaseMessages session handoffId leaseMs now caller clientMessageIds).1.queueEntries =
      store.queueEntries := by
  suffices general : ∀ state : TransportQueueStore × Nat,
      state.1.queueEntries = store.queueEntries → (clientMessageIds.foldl
        (fun state clientMessageId =>
          (state.1.leaseMessage session handoffId leaseMs now caller clientMessageId,
            state.2 + state.1.queueEntries.changes (isLeasable session clientMessageId caller)))
        state).1.queueEntries = store.queueEntries from general (store, 0) rfl
  induction clientMessageIds with
  | nil => exact fun _ same => same
  | cons first rest ih =>
    intro state same
    refine ih (fun clientMessageId listed =>
      unleasable clientMessageId (List.mem_cons_of_mem _ listed)) _ ?_
    have none := Table.holds_eq_false_iff.mp (unleasable first List.mem_cons_self)
    rw [← same] at none ⊢
    exact @Table.updateWhere_eq_self _ _ _ _ _ (QueueEntryRow.lease handoffId leaseMs now)
      (fun _ => rfl) none

section Host

variable [Host]

theorem leaseView_markHandoffInFlight_iff {store : TransportQueueStore} {sessionName : String}
    {clientMessageIds : List String} {leaseMs now : Int}
    {recipient : Option QueueRecipientIdentity}
    {result : TransportQueueStore × List HandoffTransportQueueEntry}
    (done : store.markHandoffInFlight sessionName clientMessageIds leaseMs now recipient =
      .ok result) :
    result.1.leaseView (trim sessionName) = store.leaseView (trim sessionName) ↔
      ∀ clientMessageId ∈ clientMessageIds, store.queueEntries.holds
        (isLeasable (trim sessionName) clientMessageId (normalizeQueueRecipient recipient)) =
          false := by
  have done := session_ok done
  dsimp only at done
  split at done
  · next none =>
      cases done
      simp [none]
  · obtain ⟨opened, openedEntries, entries⟩ : ∃ opened : TransportQueueStore,
        opened.queueEntries = store.queueEntries ∧
        result.1.queueEntries = (opened.leaseMessages (trim sessionName) store.freshUUID.2 leaseMs
          now (normalizeQueueRecipient recipient) clientMessageIds).1.queueEntries := by
      refine ⟨(store.freshUUID.1.ensureMeta (trim sessionName)
        (normalizeQueueRecipient recipient)).1.pruneCancellations now,
        (ensureMeta_sameMessages store.freshUUID.1 _ _).queueEntries, ?_⟩
      cases done
      dsimp only
      split
      · exact (bumpVersion_sameMessages _ _).queueEntries
      · rfl
    unfold leaseView
    rw [entries, ← openedEntries]
    constructor
    · intro same clientMessageId listed
      rw [Table.holds_eq_false_iff]
      intro row member
      by_contra leasable
      rw [Bool.not_eq_false] at leasable
      have isRow : row.key = (trim sessionName, clientMessageId) := by
        simp only [isLeasable, Bool.and_eq_true, isMessage_iff_entryKey] at leasable
        exact leasable.1.1
      have leased := @lookup_leaseMessages opened (trim sessionName) store.freshUUID.2 leaseMs now
        (normalizeQueueRecipient recipient) clientMessageIds clientMessageId
      rw [← isRow, Table.lookup_of_mem member, Option.map_some, List.contains_iff_mem.mpr listed,
        leasable, Bool.true_and, if_pos rfl, Table.lookup_eq_some_iff] at leased
      obtain ⟨old, oldMember, oldKey, oldStatus⟩ :=
        leaseView_status same leased.1 (congrArg Prod.fst isRow)
      have isOld : old = row := Table.eq_of_key oldMember member (oldKey.trans leased.2)
      rw [isOld] at oldStatus
      simp only [isLeasable, QueueEntryRow.queued, Bool.and_eq_true, decide_eq_true_eq] at leasable
      rw [leasable.1.2] at oldStatus
      cases oldStatus
    · intro unleasable
      rw [leaseMessages_unleasable unleasable]

end Host

end TransportQueueStore

namespace ResendState

section Host

variable [Host]

theorem drainResend_of_aborted {state : ResendState} {sessionName : String} {now : Int}
    {recipient : Option QueueRecipientIdentity} {awaits : Nat → Await}
    (aborted : (state.startDrain sessionName now recipient).2 = .incomplete ∨
      ∃ error, (state.startDrain sessionName now recipient).2 = .failed error)
    (pending : state.queues sessionName ≠ []) :
    state.drainResend sessionName now recipient awaits =
      ⟨(state.startDrain sessionName now recipient).1, [], [], 0, 0, 0, 0, []⟩ := by
  unfold drainResend
  rw [if_neg pending]
  rcases aborted with incomplete | ⟨error, failed⟩
  · simp only [incomplete]
  · simp only [failed]

theorem startDrain_aborted {state : ResendState} {sessionName : String} {now : Int}
    {recipient : Option QueueRecipientIdentity}
    (aborted : (state.startDrain sessionName now recipient).2 = .incomplete ∨
      ∃ error, (state.startDrain sessionName now recipient).2 = .failed error) :
    (trim sessionName = "" ∧ (state.startDrain sessionName now recipient).1 = state) ∨
    (trim sessionName ≠ "" ∧ ∃ result, state.store.markHandoffInFlight sessionName
        (state.freshClientMessageIds sessionName now) resendExpiryMs now recipient = .ok result ∧
      (state.startDrain sessionName now recipient).1 = { state with store := result.1 }) := by
  unfold startDrain at aborted ⊢
  dsimp only at aborted ⊢
  split at aborted
  · rcases aborted with impossible | ⟨_, impossible⟩ <;> cases impossible
  · next named =>
      rw [if_neg named]
      cases leased : state.store.markHandoffInFlight sessionName
          (state.freshClientMessageIds sessionName now) resendExpiryMs now recipient with
      | error error =>
        refine .inl ⟨?_, rfl⟩
        by_contra nonempty
        simp only [TransportQueueStore.markHandoffInFlight, normalizeSessionName,
          if_neg nonempty] at leased
        simp only [bind, Except.bind] at leased
        split at leased <;> cases leased
      | ok result =>
        right
        refine ⟨?_, result, rfl, ?_⟩
        · obtain ⟨session, isSession, _⟩ := bind_eq_ok.mp leased
          obtain ⟨rfl, nonempty, _⟩ := normalizeSessionName_eq_ok isSession
          exact nonempty
        · dsimp only
          split <;> rfl

/-- A drain that stops because its lease is incomplete or failed dispatches nothing and
leaves the resend list alone; it leaves the durable rows alone exactly if the lease could
not take any of the rows it asked for. -/
theorem aborted_drain_changes_nothing_iff (state : ResendState) (sessionName : String) (now : Int)
    (recipient : Option QueueRecipientIdentity) (awaits : Nat → Await)
    (aborted : (state.startDrain sessionName now recipient).2 = .incomplete ∨
      ∃ error, (state.startDrain sessionName now recipient).2 = .failed error)
    (pending : state.queues sessionName ≠ []) :
    (state.drainResend sessionName now recipient awaits).dispatched = 0 ∧
    ((state.drainResend sessionName now recipient awaits).state.queues = state.queues ∧
      (state.drainResend sessionName now recipient awaits).state.store.leaseView
        (trim sessionName) = state.store.leaseView (trim sessionName) ↔
      trim sessionName = "" ∨ ∀ clientMessageId ∈ state.freshClientMessageIds sessionName now,
        state.store.queueEntries.holds (TransportQueueStore.isLeasable (trim sessionName)
          clientMessageId (normalizeQueueRecipient recipient)) = false) := by
  rw [drainResend_of_aborted aborted pending]
  refine ⟨rfl, ?_⟩
  rcases startDrain_aborted aborted with ⟨blank, same⟩ | ⟨nonempty, result, leased, marked⟩
  · dsimp only
    rw [same]
    exact ⟨fun _ => .inl blank, fun _ => ⟨rfl, rfl⟩⟩
  · dsimp only
    rw [marked]
    dsimp only
    rw [TransportQueueStore.leaseView_markHandoffInFlight_iff leased]
    constructor
    · exact fun unchanged => .inr unchanged.2
    · rintro (blank | unleasable)
      · exact absurd blank nonempty
      · exact ⟨rfl, unleasable⟩

end Host

section FixedRuns

open Library.FixedRuns TransportQueueStore

/-- Two messages are held in memory, but only the first has a durable row. -/
def halfMirrored : ResendState where
  queues := Function.update (fun _ => []) "deck"
    [plainResend (some ⟨"A", "e"⟩) "m1" "c1" 1, plainResend (some ⟨"A", "e"⟩) "m2" "c2" 1]
  store := run next empty [.enqueue 0 (plainMessage (some ⟨"A", "e"⟩) "m1" 1)]

def sentAwait : Await := ⟨none, .sent, 2, "frame", none⟩

/-- The first message stays leased although the drain has dispatched nothing. -/
theorem aborted_drain_leaves_lease :
    (halfMirrored.startDrain "deck" 2 (some ⟨"A", "e"⟩)).2 = .incomplete ∧
    (halfMirrored.drainResend "deck" 2 (some ⟨"A", "e"⟩) fun _ => sentAwait).dispatched = 0 ∧
    (halfMirrored.drainResend "deck" 2 (some ⟨"A", "e"⟩) fun _ => sentAwait).state.store.leaseView
        "deck" ≠ halfMirrored.store.leaseView "deck" := by
  decide

theorem aborted_drain_changes_nothing_iff_run :
    (halfMirrored.drainResend "deck" 2 (some ⟨"B", "e"⟩) fun _ => sentAwait).dispatched = 0 ∧
    ((halfMirrored.drainResend "deck" 2 (some ⟨"B", "e"⟩) fun _ => sentAwait).state.queues =
        halfMirrored.queues ∧
      (halfMirrored.drainResend "deck" 2 (some ⟨"B", "e"⟩) fun _ => sentAwait).state.store.leaseView
        (trim "deck") = halfMirrored.store.leaseView (trim "deck") ↔
      trim "deck" = "" ∨ ∀ clientMessageId ∈ halfMirrored.freshClientMessageIds "deck" 2,
        halfMirrored.store.queueEntries.holds (isLeasable (trim "deck") clientMessageId
          (normalizeQueueRecipient (some ⟨"B", "e"⟩))) = false) :=
  aborted_drain_changes_nothing_iff halfMirrored "deck" 2 (some ⟨"B", "e"⟩) (fun _ => sentAwait)
    (.inl (by decide)) (by decide)

end FixedRuns

end ResendState

end ImCodes.Queue
