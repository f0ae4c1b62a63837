import ImCodes.Queue.Resend.Drain
import ImCodes.Queue.Store.Metadata

/-!
# Clearing during a drain

A drain takes its list out of the map, so a clear that runs while a dispatch is awaited
does not reach it: the later entries are still dispatched, and the ones to retry are
put back.
-/

set_option autoImplicit false

namespace ImCodes.Queue

open Library

/-! ## What a drain does call by call -/

/-- The dispatches of a list of fresh entries, numbered from `call`, and the clears that
run during them. -/
def dispatchEvents (awaits : Nat → Await) : Nat → List ResendEntry → List DrainEvent
  | _, [] => []
  | call, entry :: rest =>
    .dispatched call entry ::
      ((if (awaits call).clear.isSome then [.cleared call] else []) ++
        dispatchEvents awaits (call + 1) rest)

/-- The entries whose dispatch asks to be retried. -/
def retriedEntries (awaits : Nat → Await) : Nat → List ResendEntry → List ResendEntry
  | _, [] => []
  | call, entry :: rest =>
    (if (awaits call).outcome = .retry then [entry] else []) ++
      retriedEntries awaits (call + 1) rest

theorem dispatchEvents_append {awaits : Nat → Await} {call : Nat}
    {first second : List ResendEntry} :
    dispatchEvents awaits call (first ++ second) = dispatchEvents awaits call first ++
      dispatchEvents awaits (call + first.length) second := by
  induction first generalizing call with
  | nil => rfl
  | cons entry rest ih =>
    simp only [List.cons_append, dispatchEvents, ih, List.append_assoc, List.length_cons]
    rw [Nat.add_right_comm call 1 rest.length, Nat.add_assoc]

theorem retriedEntries_append {awaits : Nat → Await} {call : Nat}
    {first second : List ResendEntry} :
    retriedEntries awaits call (first ++ second) = retriedEntries awaits call first ++
      retriedEntries awaits (call + first.length) second := by
  induction first generalizing call with
  | nil => rfl
  | cons entry rest ih =>
    simp only [List.cons_append, retriedEntries, ih, List.append_assoc, List.length_cons]
    rw [Nat.add_right_comm call 1 rest.length, Nat.add_assoc]

theorem retriedEntries_eq_nil_iff {awaits : Nat → Await} {call : Nat}
    {entries : List ResendEntry} :
    retriedEntries awaits call entries = [] ↔
      ∀ index, index < entries.length → (awaits (call + index)).outcome ≠ .retry := by
  induction entries generalizing call with
  | nil => simp [retriedEntries]
  | cons entry rest ih =>
    simp only [retriedEntries, List.append_eq_nil_iff, ih, List.length_cons]
    constructor
    · rintro ⟨first, others⟩ index below
      cases index with
      | zero =>
        intro isRetry
        rw [Nat.add_zero] at isRetry
        rw [if_pos isRetry] at first
        cases first
      | succ index =>
        rw [show call + (index + 1) = call + 1 + index by omega]
        exact others index (Nat.lt_of_succ_lt_succ below)
    · intro none
      refine ⟨if_neg (none 0 (Nat.succ_pos _)), ?_⟩
      intro index below
      rw [show call + 1 + index = call + (index + 1) by omega]
      exact none (index + 1) (Nat.succ_lt_succ below)

theorem mem_retriedEntries {awaits : Nat → Await} {call : Nat} {entries : List ResendEntry}
    {entry : ResendEntry} (listed : entry ∈ retriedEntries awaits call entries) :
    entry ∈ entries := by
  induction entries generalizing call with
  | nil => cases listed
  | cons head rest ih =>
    rcases List.mem_append.mp listed with first | later
    · split at first
      · rw [List.mem_singleton.mp first]
        exact List.mem_cons_self
      · cases first
    · exact List.mem_cons_of_mem _ (ih later)

theorem mem_dispatchEvents {awaits : Nat → Await} {call later : Nat} {entry : ResendEntry}
    {entries : List ResendEntry}
    (listed : .dispatched later entry ∈ dispatchEvents awaits call entries) :
    call ≤ later ∧ later < call + entries.length ∧ entry ∈ entries := by
  induction entries generalizing call with
  | nil => cases listed
  | cons head rest ih =>
    rw [List.length_cons]
    rcases List.mem_cons.mp listed with isHead | others
    · cases isHead
      exact ⟨Nat.le_refl _, by omega, List.mem_cons_self⟩
    · rcases List.mem_append.mp others with isClear | later
      · split at isClear
        · cases List.mem_singleton.mp isClear
        · cases isClear
      · obtain ⟨low, high, member⟩ := ih later
        exact ⟨by omega, by omega, List.mem_cons_of_mem _ member⟩

theorem dispatched_after_clear {awaits : Nat → Await} {start call later : Nat}
    {entry : ResendEntry} {entries : List ResendEntry}
    (follows : List.Sublist [.cleared call, .dispatched later entry]
      (dispatchEvents awaits start entries)) :
    call < later ∧ later < start + entries.length := by
  induction entries generalizing start with
  | nil => cases follows
  | cons head rest ih =>
    have onward : List.Sublist [.cleared call, .dispatched later entry]
        (dispatchEvents awaits (start + 1) rest) → call < later ∧
          later < start + (head :: rest).length := by
      intro later
      obtain ⟨order, bound⟩ := ih later
      rw [List.length_cons]
      exact ⟨order, by omega⟩
    unfold dispatchEvents at follows
    cases follows with
    | cons _ tail =>
      split at tail
      · cases tail with
        | cons _ tail => exact onward tail
        | cons_cons _ tail =>
          obtain ⟨low, high, _⟩ := mem_dispatchEvents (List.singleton_sublist.mp tail)
          rw [List.length_cons]
          exact ⟨by omega, by omega⟩
      · exact onward tail

theorem exists_dispatched_after_clear {awaits : Nat → Await} {start call : Nat}
    {entries : List ResendEntry} (clears : (awaits call).clear.isSome = true)
    (reached : start ≤ call) (notLast : call + 1 < start + entries.length) :
    ∃ later entry, entry ∈ entries ∧ List.Sublist [.cleared call, .dispatched later entry]
      (dispatchEvents awaits start entries) := by
  induction entries generalizing start with
  | nil => exact False.elim (by simp only [List.length_nil] at notLast; omega)
  | cons head rest ih =>
    rw [List.length_cons] at notLast
    by_cases isCall : start = call
    · subst isCall
      cases rest with
      | nil => exact False.elim (by simp only [List.length_nil] at notLast; omega)
      | cons next others =>
        refine ⟨start + 1, next, List.mem_cons_of_mem _ List.mem_cons_self, ?_⟩
        unfold dispatchEvents
        rw [if_pos clears]
        refine List.Sublist.cons _ (List.Sublist.cons_cons _ ?_)
        unfold dispatchEvents
        exact List.singleton_sublist.mpr List.mem_cons_self
    · obtain ⟨later, entry, member, follows⟩ := @ih (start + 1) (by omega) (by omega)
      refine ⟨later, entry, List.mem_cons_of_mem _ member, ?_⟩
      unfold dispatchEvents
      exact (follows.trans (List.sublist_append_right _ _)).cons _

/-! ## What one entry leaves alone -/

theorem ResendState.tryStore_queues {Answer : Type} (state : ResendState)
    (call : TransportQueueStore → Except QueueStoreError (TransportQueueStore × Answer)) :
    (state.tryStore call).1.queues = state.queues := by
  unfold ResendState.tryStore
  split <;> rfl

theorem ResendState.map_clientMessageId {entries : List ResendEntry}
    (complete : ∀ entry ∈ entries, (truthy entry.clientMessageId).isSome = true) :
    entries.map (·.clientMessageId) =
      (entries.filterMap fun entry => truthy entry.clientMessageId).map some := by
  induction entries with
  | nil => rfl
  | cons entry rest ih =>
    obtain ⟨clientMessageId, identified⟩ :=
      Option.isSome_iff_exists.mp (complete entry List.mem_cons_self)
    have others := ih fun other listed => complete other (List.mem_cons_of_mem _ listed)
    rw [List.filterMap_cons, identified, List.map_cons, List.map_cons, others,
      (truthy_eq_some_iff.mp identified).1]

namespace DrainProgress

/-- What handling one entry leaves alone, and which leases it keeps. -/
structure Continues (before after : DrainProgress) (clientMessageId : String) : Prop where
  queues : after.state.queues = before.state.queues
  calls : after.calls = before.calls
  events : after.events = before.events
  fewer : ∀ held ∈ after.handoffs, held ∈ before.handoffs
  others : ∀ held ∈ before.handoffs, held.1 ≠ clientMessageId → held ∈ after.handoffs

theorem Continues.tryStore {before after : DrainProgress} {clientMessageId : String}
    (continues : Continues before after clientMessageId) {Answer : Type}
    (call : TransportQueueStore → Except QueueStoreError (TransportQueueStore × Answer)) :
    Continues before (after.tryStore call).1 clientMessageId where
  queues := (ResendState.tryStore_queues after.state call).trans continues.queues
  calls := continues.calls
  events := continues.events
  fewer := continues.fewer
  others := continues.others

theorem Continues.forgetHandoff {before after : DrainProgress} {clientMessageId : String}
    (continues : Continues before after clientMessageId) :
    Continues before (after.forgetHandoff clientMessageId) clientMessageId where
  queues := continues.queues
  calls := continues.calls
  events := continues.events
  fewer held listed := continues.fewer held (List.mem_filter.mp listed).1
  others held listed other :=
    List.mem_filter.mpr ⟨continues.others held listed other, decide_eq_true other⟩

/-- What one call adds to the account of a drain. -/
structure Accounts (awaits : Nat → Await) (fresh : List ResendEntry)
    (before after : DrainProgress) : Prop where
  events : after.events = before.events ++ dispatchEvents awaits before.calls fresh
  retries : after.retryEntries = before.retryEntries ++ retriedEntries awaits before.calls fresh
  calls : after.calls = before.calls + fresh.length

theorem Accounts.trans {awaits : Nat → Await} {first second : List ResendEntry}
    {before middle after : DrainProgress} (left : Accounts awaits first before middle)
    (right : Accounts awaits second middle after) :
    Accounts awaits (first ++ second) before after where
  events := by
    rw [right.events, left.events, left.calls, dispatchEvents_append, List.append_assoc]
  retries := by
    rw [right.retries, left.retries, left.calls, retriedEntries_append, List.append_assoc]
  calls := by rw [right.calls, left.calls, List.length_append, Nat.add_assoc]

end DrainProgress

section Host

variable [Host]

/-! ## The leases of a drain -/

namespace TransportQueueStore

theorem markHandoffInFlight_handed {store : TransportQueueStore} {sessionName : String}
    {clientMessageIds : List String} {leaseMs now : Int}
    {recipient : Option QueueRecipientIdentity}
    {result : TransportQueueStore × List HandoffTransportQueueEntry}
    (done : store.markHandoffInFlight sessionName clientMessageIds leaseMs now recipient =
      .ok result) :
    (result.2.map (·.entry.clientMessageId)).Nodup ∧
      (∀ handed ∈ result.2, handed.entry.clientMessageId ∈ clientMessageIds) ∧
      ∀ handed ∈ result.2, handed.handoffId = store.freshUUID.2 := by
  obtain ⟨session, named, done⟩ := bind_eq_ok.mp done
  dsimp only at done
  split at done
  · cases done
    simp
  · cases done
    refine ⟨?_, ?_, ?_⟩
    · dsimp only
      rw [List.map_map]
      refine List.pairwise_map.mpr (List.Pairwise.imp_of_mem ?_
        ((readRows_pairwise _ session none).sublist List.filter_sublist))
      intro left right leftListed rightListed different same
      obtain ⟨_, leftSession, _⟩ := mem_readRows (List.mem_filter.mp leftListed).1
      obtain ⟨_, rightSession, _⟩ := mem_readRows (List.mem_filter.mp rightListed).1
      exact different (Prod.ext (leftSession.trans rightSession.symm) same)
    · intro handed listed
      obtain ⟨entry, kept, rfl⟩ := List.mem_map.mp listed
      have selected := (List.mem_filter.mp kept).2
      simp only [Bool.and_eq_true, List.contains_iff_mem] at selected
      exact selected.1
    · intro handed listed
      obtain ⟨entry, _, rfl⟩ := List.mem_map.mp listed
      rfl

theorem releaseHandoff_answers (store : TransportQueueStore) {sessionName handoffId : String}
    (clientMessageIds : List String) (now : Int) (named : trim sessionName ≠ "")
    (lease : trim handoffId ≠ "") :
    ∃ result, store.releaseHandoff sessionName handoffId clientMessageIds now = .ok result := by
  simp only [releaseHandoff, normalizeSessionName, if_neg named, requireNonEmpty, if_neg lease,
    bind, Except.bind, pure, Except.pure]
  split
  · exact ⟨_, rfl⟩
  · split
    · exact ⟨_, rfl⟩
    · exact ⟨_, rfl⟩

end TransportQueueStore

/-! ## One entry of a drain -/

theorem ResendState.bumpTransportQueueRevision_queues (state : ResendState) (sessionName : String) :
    (state.bumpTransportQueueRevision sessionName).1.queues = state.queues := by
  unfold ResendState.bumpTransportQueueRevision
  split <;> rfl

theorem ResendState.clearResend_queues {state : ResendState} {sessionName : String}
    (reason : ClearReason) (empty : state.queues sessionName = []) :
    (state.clearResend sessionName reason).1.queues sessionName = [] := by
  unfold ResendState.clearResend
  dsimp only
  split
  · rw [ResendState.bumpTransportQueueRevision_queues]
    exact empty
  · exact Function.update_self _ _ _

namespace DrainProgress

theorem Continues.failDispatch {before after : DrainProgress} {clientMessageId : String}
    (continues : Continues before after clientMessageId) (sessionName : String) (now : Int) :
    Continues before (after.failDispatch sessionName clientMessageId now) clientMessageId ∧
      (after.failDispatch sessionName clientMessageId now).retryEntries = after.retryEntries := by
  have counted : Continues before { after with failedCount := after.failedCount + 1 }
      clientMessageId :=
    ⟨continues.queues, continues.calls, continues.events, continues.fewer, continues.others⟩
  unfold DrainProgress.failDispatch
  dsimp only
  split
  · exact ⟨(counted.tryStore _).forgetHandoff, rfl⟩
  · exact ⟨counted.tryStore _, rfl⟩

theorem resume_continues (progress : DrainProgress) {sessionName handoffId : String}
    (clientMessageId : String) (now : Int) (recipient : Option QueueRecipientIdentity)
    (entry : ResendEntry) (await : Await) (named : trim sessionName ≠ "") (lease : trim handoffId ≠ "") :
    Continues progress (progress.resume sessionName clientMessageId handoffId now recipient entry
        await) clientMessageId ∧
      (progress.resume sessionName clientMessageId handoffId now recipient entry
        await).retryEntries =
        progress.retryEntries ++ (if await.outcome = .retry then [entry] else []) := by
  have same : Continues progress progress clientMessageId :=
    ⟨rfl, rfl, rfl, fun _ => id, fun _ listed _ => listed⟩
  unfold resume
  cases answered : await.outcome with
  | threw =>
    obtain ⟨continues, retries⟩ := same.failDispatch sessionName now
    exact ⟨continues, retries.trans (List.append_nil _).symm⟩
  | retry =>
    obtain ⟨result, released⟩ := TransportQueueStore.releaseHandoff_answers
      progress.state.store [clientMessageId] await.clock named lease
    have answers : (progress.tryStore fun store => store.releaseHandoff sessionName handoffId
        [clientMessageId] await.clock).2.isSome = true := by
      unfold DrainProgress.tryStore ResendState.tryStore
      dsimp only
      rw [released]
      rfl
    have kept := (same.tryStore fun store => store.releaseHandoff sessionName handoffId
      [clientMessageId] await.clock).forgetHandoff
    dsimp only
    rw [if_pos answers]
    exact ⟨⟨kept.queues, kept.calls, kept.events, kept.fewer, kept.others⟩, rfl⟩
  | stale =>
    dsimp only
    split
    · exact ⟨(same.tryStore _).forgetHandoff, (List.append_nil _).symm⟩
    · obtain ⟨continues, retries⟩ := same.failDispatch sessionName now
      exact ⟨continues, retries.trans (List.append_nil _).symm⟩
  | queued | appended =>
    have kept := same.forgetHandoff
    exact ⟨⟨kept.queues, kept.calls, kept.events, kept.fewer, kept.others⟩,
      (List.append_nil _).symm⟩
  | sent =>
    have kept := (same.tryStore fun store => store.finalizeSentBatch sessionName
      [clientMessageId] await.deliveryFrameId await.clock recipient
        await.conversationKey).forgetHandoff
    exact ⟨⟨kept.queues, kept.calls, kept.events, kept.fewer, kept.others⟩,
      (List.append_nil _).symm⟩

/-- What holds before the entries of `rest` are handled. -/
structure Draining (sessionName : String) (now : Int) (rest : List ResendEntry)
    (progress : DrainProgress) : Prop where
  emptied : progress.state.queues sessionName = []
  leases : ∀ held ∈ progress.handoffs, trim held.2 ≠ ""
  leased : ∀ entry ∈ rest, entry.isExpired now = false → ∃ clientMessageId handoffId,
    truthy entry.clientMessageId = some clientMessageId ∧
      (clientMessageId, handoffId) ∈ progress.handoffs
  apart : ((rest.filter fun entry => !entry.isExpired now).map (·.clientMessageId)).Nodup

theorem awaitDispatch_spec {progress : DrainProgress} {sessionName : String}
    (emptied : progress.state.queues sessionName = []) (entry : ResendEntry) (await : Await) :
    (progress.awaitDispatch sessionName entry await).state.queues sessionName = [] ∧
      (progress.awaitDispatch sessionName entry await).handoffs = progress.handoffs ∧
      (progress.awaitDispatch sessionName entry await).retryEntries = progress.retryEntries ∧
      (progress.awaitDispatch sessionName entry await).calls = progress.calls + 1 ∧
      (progress.awaitDispatch sessionName entry await).events = progress.events ++
        .dispatched progress.calls entry ::
          (if await.clear.isSome then [.cleared progress.calls] else []) := by
  unfold awaitDispatch
  cases clears : await.clear with
  | none => exact ⟨emptied, rfl, rfl, rfl, rfl⟩
  | some reason =>
    refine ⟨ResendState.clearResend_queues reason emptied, rfl, rfl, rfl, ?_⟩
    simp

theorem Draining.expired {sessionName : String} {now : Int} {entry : ResendEntry}
    {rest : List ResendEntry} {progress : DrainProgress}
    (draining : Draining sessionName now (entry :: rest) progress)
    (expired : entry.isExpired now = true) :
    Draining sessionName now rest (progress.expireEntry sessionName now entry) ∧
      (progress.expireEntry sessionName now entry).events = progress.events ∧
      (progress.expireEntry sessionName now entry).retryEntries = progress.retryEntries ∧
      (progress.expireEntry sessionName now entry).calls = progress.calls := by
  have apart := draining.apart
  rw [List.filter_cons_of_neg (by simp [expired])] at apart
  have leased := fun other listed => draining.leased other (List.mem_cons_of_mem entry listed)
  unfold expireEntry
  split
  · exact ⟨⟨draining.emptied, draining.leases, leased, apart⟩, rfl, rfl, rfl⟩
  · refine ⟨⟨?_, draining.leases, leased, apart⟩, rfl, rfl, rfl⟩
    exact (congrFun (ResendState.tryStore_queues progress.state _) sessionName).trans
      draining.emptied

theorem Draining.entry {sessionName : String} {now : Int} {entry : ResendEntry}
    {rest : List ResendEntry} {progress : DrainProgress}
    (recipient : Option QueueRecipientIdentity) (awaits : Nat → Await) (named : trim sessionName ≠ "")
    (draining : Draining sessionName now (entry :: rest) progress) :
    Draining sessionName now rest
        (drainEntry sessionName now recipient awaits progress entry) ∧
      Accounts awaits ([entry].filter fun entry => !entry.isExpired now) progress
        (drainEntry sessionName now recipient awaits progress entry) := by
  unfold drainEntry
  cases fresh : entry.isExpired now with
  | true =>
    obtain ⟨onward, events, retries, calls⟩ := draining.expired fresh
    rw [if_pos rfl, List.filter_cons_of_neg (by simp [fresh])]
    exact ⟨onward, by simp [events, dispatchEvents], by simp [retries, retriedEntries],
      by simp [calls]⟩
  | false =>
    rw [if_neg Bool.false_ne_true, List.filter_cons_of_pos (by simp [fresh]), List.filter_nil]
    obtain ⟨clientMessageId, _, identified, inHand⟩ :=
      draining.leased entry List.mem_cons_self fresh
    simp only [identified]
    cases found : progress.handoffs.find? fun held => held.1 = clientMessageId with
    | none =>
      have absent := List.find?_eq_none.mp found _ inHand
      simp at absent
    | some held =>
      obtain ⟨heldId, handoffId⟩ := held
      have listed := List.mem_of_find?_eq_some found
      have isId : heldId = clientMessageId := by simpa using List.find?_some found
      subst isId
      obtain ⟨emptied, handoffs, retries, calls, events⟩ :=
        awaitDispatch_spec draining.emptied entry (awaits progress.calls)
      obtain ⟨continues, retried⟩ := resume_continues
        (progress.awaitDispatch sessionName entry (awaits progress.calls)) heldId now recipient
        entry (awaits progress.calls) named (draining.leases _ listed)
      have apart := draining.apart
      rw [List.filter_cons_of_pos (by simp [fresh]), List.map_cons, List.nodup_cons] at apart
      refine ⟨⟨?_, ?_, ?_, apart.2⟩, ?_, ?_, ?_⟩
      · rw [continues.queues]
        exact emptied
      · exact fun held kept => draining.leases held (handoffs ▸ continues.fewer held kept)
      · intro other otherListed otherFresh
        obtain ⟨otherId, otherHandoff, otherIdentified, otherInHand⟩ :=
          draining.leased other (List.mem_cons_of_mem _ otherListed) otherFresh
        refine ⟨otherId, otherHandoff, otherIdentified,
          continues.others _ (handoffs.symm ▸ otherInHand) ?_⟩
        rintro rfl
        refine apart.1 (List.mem_map.mpr
          ⟨other, List.mem_filter.mpr ⟨otherListed, by simp [otherFresh]⟩, ?_⟩)
        exact (truthy_eq_some_iff.mp otherIdentified).1.trans
          (truthy_eq_some_iff.mp identified).1.symm
      · rw [continues.events, events]
        simp [dispatchEvents]
      · rw [retried, retries]
        simp [retriedEntries]
      · rw [continues.calls, calls]
        rfl

theorem Draining.entries {sessionName : String} {now : Int} {rest : List ResendEntry}
    {progress : DrainProgress} (recipient : Option QueueRecipientIdentity)
    (awaits : Nat → Await) (named : trim sessionName ≠ "")
    (draining : Draining sessionName now rest progress) :
    (rest.foldl (drainEntry sessionName now recipient awaits) progress).state.queues sessionName =
        [] ∧
      Accounts awaits (rest.filter fun entry => !entry.isExpired now) progress
        (rest.foldl (drainEntry sessionName now recipient awaits) progress) := by
  induction rest generalizing progress with
  | nil =>
    exact ⟨draining.emptied, by simp [dispatchEvents], by simp [retriedEntries], rfl⟩
  | cons entry rest ih =>
    obtain ⟨onward, first⟩ := draining.entry recipient awaits named
    obtain ⟨emptied, others⟩ := ih onward
    refine ⟨emptied, ?_⟩
    have whole := first.trans others
    rw [← List.filter_append] at whole
    exact whole

end DrainProgress

namespace ResendState

theorem beginDrain_draining {state : ResendState} {sessionName : String} {now : Int}
    {recipient : Option QueueRecipientIdentity} {handoffs : List (String × String)}
    (leased : (state.startDrain sessionName now recipient).2 = .leased handoffs) :
    trim sessionName ≠ "" ∧ DrainProgress.Draining sessionName now (state.queues sessionName)
      ((state.startDrain sessionName now recipient).1.beginDrain sessionName handoffs) := by
  have emptied : ∀ started : ResendState, (started.beginDrain sessionName
      handoffs).state.queues sessionName = [] := by
    intro started
    refine (congrFun (bumpTransportQueueRevision_queues _ _) sessionName).trans ?_
    exact Function.update_self _ _ _
  unfold startDrain at leased
  dsimp only at leased
  split at leased
  · cases leased
  · next complete =>
      split at leased
      · cases leased
      · next result done =>
          split at leased
          · cases leased
          · next granted =>
              cases leased
              rw [not_not] at complete granted
              obtain ⟨session, isSession, _⟩ := bind_eq_ok.mp done
              obtain ⟨rfl, named, _⟩ := normalizeSessionName_eq_ok isSession
              obtain ⟨apart, asked, one⟩ := TransportQueueStore.markHandoffInFlight_handed done
              have sameIds : (result.2.map (·.entry.clientMessageId)).Perm
                  (state.freshClientMessageIds sessionName now) := by
                refine (List.subperm_of_subset apart ?_).perm_of_length_le ?_
                · intro clientMessageId listed
                  obtain ⟨handed, isHanded, rfl⟩ := List.mem_map.mp listed
                  exact asked handed isHanded
                · rw [List.length_map, granted, complete]
              have identified := map_clientMessageId
                (List.filterMap_length_eq_length.mp complete)
              refine ⟨named, emptied _, ?_, ?_, ?_⟩
              · intro held listed
                obtain ⟨handed, isHanded, rfl⟩ := List.mem_map.mp listed
                dsimp only
                rw [one handed isHanded]
                exact Host.randomUUID_trim _ ▸ Host.randomUUID_ne_empty _
              · intro entry listed fresh
                have isFresh : entry ∈ state.freshEntries sessionName now :=
                  List.mem_filter.mpr ⟨listed, by rw [fresh]; rfl⟩
                obtain ⟨clientMessageId, found⟩ := Option.isSome_iff_exists.mp
                  (List.filterMap_length_eq_length.mp complete entry isFresh)
                obtain ⟨handed, isHanded, sameId⟩ := List.mem_map.mp (sameIds.mem_iff.mpr
                  (List.mem_filterMap.mpr ⟨entry, isFresh, found⟩))
                exact ⟨clientMessageId, handed.handoffId, found,
                  List.mem_map.mpr ⟨handed, isHanded, by rw [sameId]⟩⟩
              · change ((state.freshEntries sessionName now).map (·.clientMessageId)).Nodup
                rw [identified]
                exact (sameIds.nodup_iff.mp apart).map (Option.some_injective _)

theorem drainResend_of_leased {state : ResendState} {sessionName : String} {now : Int}
    {recipient : Option QueueRecipientIdentity} {handoffs : List (String × String)}
    (awaits : Nat → Await)
    (leased : (state.startDrain sessionName now recipient).2 = .leased handoffs)
    (pending : state.queues sessionName ≠ []) :
    (state.drainResend sessionName now recipient awaits).events =
        dispatchEvents awaits 0 (state.freshEntries sessionName now) ∧
      (state.drainResend sessionName now recipient awaits).state.queues sessionName =
        retriedEntries awaits 0 (state.freshEntries sessionName now) := by
  obtain ⟨named, draining⟩ := beginDrain_draining leased
  obtain ⟨emptied, accounts⟩ :=
    draining.entries recipient awaits named
  have events := accounts.events
  have retries := accounts.retries
  unfold drainResend
  rw [if_neg pending]
  dsimp only
  rw [leased]
  dsimp only
  unfold DrainProgress.restoreRetries
  split
  · next none =>
      rw [none] at retries
      refine ⟨events, ?_⟩
      rw [emptied]
      exact retries
  · refine ⟨events, ?_⟩
    dsimp only
    rw [bumpTransportQueueRevision_queues, emptied, retries]
    refine (Function.update_self _ _ _).trans ?_
    simp [freshEntries, beginDrain]

/-- A clear that runs while a call is awaited wins, so that no entry of the drained list is
dispatched after it or left in memory in the end, exactly if the call is the last one and
no dispatch of the drain asks to be retried. -/
theorem clear_wins_iff (state : ResendState) (sessionName : String) (now : Int)
    (recipient : Option QueueRecipientIdentity) (awaits : Nat → Await)
    (handoffs : List (String × String))
    (leased : (state.startDrain sessionName now recipient).2 = .leased handoffs) (call : Nat)
    (clears : (awaits call).clear.isSome = true)
    (suspended : call < (state.freshEntries sessionName now).length) :
    ((∀ later entry, entry ∈ state.queues sessionName →
        ¬ List.Sublist [.cleared call, .dispatched later entry]
          (state.drainResend sessionName now recipient awaits).events) ∧
      ∀ entry ∈ state.queues sessionName,
        entry ∉ (state.drainResend sessionName now recipient awaits).state.queues sessionName) ↔
    call + 1 = (state.freshEntries sessionName now).length ∧
      ∀ earlier, earlier ≤ call → (awaits earlier).outcome ≠ .retry := by
  have pending : state.queues sessionName ≠ [] := by
    intro none
    simp only [freshEntries, none, List.filter_nil, List.length_nil] at suspended
    omega
  obtain ⟨events, memory⟩ := drainResend_of_leased awaits leased pending
  rw [events, memory]
  have listed : ∀ entry, entry ∈ state.freshEntries sessionName now →
      entry ∈ state.queues sessionName := fun entry fresh => (List.mem_filter.mp fresh).1
  constructor
  · rintro ⟨noDispatch, noneLeft⟩
    have isLast : call + 1 = (state.freshEntries sessionName now).length := by
      by_contra notLast
      obtain ⟨later, entry, member, follows⟩ := exists_dispatched_after_clear clears
        (Nat.zero_le call) (show call + 1 < 0 + (state.freshEntries sessionName now).length by omega)
      exact noDispatch later entry (listed entry member) follows
    refine ⟨isLast, ?_⟩
    have noRetry : retriedEntries awaits 0 (state.freshEntries sessionName now) = [] := by
      apply List.eq_nil_iff_forall_not_mem.mpr
      intro entry retried
      exact noneLeft entry (listed entry (mem_retriedEntries retried)) retried
    intro earlier bound
    have answered := retriedEntries_eq_nil_iff.mp noRetry earlier (by omega)
    rwa [Nat.zero_add] at answered
  · rintro ⟨isLast, noRetry⟩
    refine ⟨?_, ?_⟩
    · intro later entry _ follows
      obtain ⟨order, bound⟩ := dispatched_after_clear follows
      omega
    · intro entry _ retried
      have none : retriedEntries awaits 0 (state.freshEntries sessionName now) = [] := by
        apply retriedEntries_eq_nil_iff.mpr
        intro index below
        rw [Nat.zero_add]
        exact noRetry index (by omega)
      rw [none] at retried
      cases retried

end ResendState

end Host

namespace ResendState

section FixedRuns

open Library.FixedRuns TransportQueueStore

/-- Two messages of the instance `A`, each with its durable row. -/
def twoMirrored : ResendState where
  queues := Function.update (fun _ => []) "deck"
    [plainResend (some ⟨"A", "e"⟩) "m1" "c1" 1, plainResend (some ⟨"A", "e"⟩) "m2" "c2" 1]
  store := run next empty [.enqueue 0 (plainMessage (some ⟨"A", "e"⟩) "m1" 1),
    .enqueue 0 (plainMessage (some ⟨"A", "e"⟩) "m2" 1)]

/-- The user clears the session during one call; every dispatch is sent. -/
def clearDuring (cleared call : Nat) : Await where
  clear := if call = cleared then some (.reset .userClear) else none
  outcome := .sent
  clock := 2
  deliveryFrameId := "frame"
  conversationKey := none

/-- The second message is dispatched after the user has cleared the session. -/
theorem cleared_message_dispatched :
    (twoMirrored.startDrain "deck" 2 (some ⟨"A", "e"⟩)).2 =
      .leased [("m1", "uuu"), ("m2", "uuu")] ∧
    ∃ entry ∈ twoMirrored.queues "deck",
      List.Sublist [.cleared 0, .dispatched 1 entry]
        (twoMirrored.drainResend "deck" 2 (some ⟨"A", "e"⟩) (clearDuring 0)).events := by
  decide

theorem clear_wins_iff_run :
    ((∀ later entry, entry ∈ twoMirrored.queues "deck" →
        ¬ List.Sublist [.cleared 1, .dispatched later entry]
          (twoMirrored.drainResend "deck" 2 (some ⟨"A", "e"⟩) (clearDuring 1)).events) ∧
      ∀ entry ∈ twoMirrored.queues "deck", entry ∉ (twoMirrored.drainResend "deck" 2
        (some ⟨"A", "e"⟩) (clearDuring 1)).state.queues "deck") ↔
    1 + 1 = (twoMirrored.freshEntries "deck" 2).length ∧
      ∀ earlier, earlier ≤ 1 → (clearDuring 1 earlier).outcome ≠ .retry :=
  clear_wins_iff twoMirrored "deck" 2 (some ⟨"A", "e"⟩) (clearDuring 1)
    [("m1", "uuu"), ("m2", "uuu")] (by decide) 1 (by decide) (by decide)

end FixedRuns

end ResendState

end ImCodes.Queue
