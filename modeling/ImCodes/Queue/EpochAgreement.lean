import ImCodes.Queue.Reducer
import ImCodes.Queue.Store.Snapshots

/-! Store and reducer on epochs. A reducer that has applied the last snapshot of a
session accepts the next one exactly when no change of epoch went unannounced: a
reset announces its own, a discard and the replacement of another instance's queue
announce nothing. -/

set_option autoImplicit false

namespace ImCodes.Queue

open Library

namespace Operation

def Discards (session : String) : Operation → Prop
  | .discardSessionQueueState sessionName _ => normalizeSessionName sessionName = .ok session
  | _ => False

def Resets (session : String) : Operation → Prop
  | .reset sessionName _ _ => normalizeSessionName sessionName = .ok session
  | _ => False

/-- The call resets the session for a reason the reducer recognizes. -/
def AnnouncesReset (session : String) : Operation → Prop
  | .reset sessionName resetReason _ =>
    normalizeSessionName sessionName = .ok session ∧ resetReason.isRecognized = true
  | _ => False

/-- The call is an enqueue that replaces the queue another instance left under the name. -/
def Replaces [Host] (store : TransportQueueStore) (session : String) (operation : Operation) :
    Prop :=
  ∃ clock input evicted, operation.enqueued? = some (clock, input, evicted) ∧
    normalizeSessionName input.sessionName = .ok session ∧
    store.replacesQueue clock input = true

def StartsEpoch [Host] (store : TransportQueueStore) (session : String) (operation : Operation) :
    Prop :=
  operation.Resets session ∨ operation.Discards session ∨ operation.Replaces store session

end Operation

namespace TransportQueueStore

section Host

variable [Host]

theorem startsEpoch_of_footprint {store : TransportQueueStore} {session : String}
    {operation : Operation}
    (permitted : (operation.footprint store).wipes session ∨
      (operation.footprint store).renews session) : operation.StartsEpoch store session := by
  cases operation with
  | enqueue clock input =>
    rcases permitted with ⟨named, replaced⟩ | renews
    · exact .inr (.inr ⟨clock, input, none, rfl, named, replaced⟩)
    · cases renews
  | enqueueWithCapacityEviction clock input evicted =>
    rcases permitted with ⟨named, replaced⟩ | renews
    · exact .inr (.inr ⟨clock, input, evicted, rfl, named, replaced⟩)
    · cases renews
  | retry clock sessionName failedClientMessageId input =>
    rcases permitted with ⟨named, replaced⟩ | renews
    · exact .inr (.inr ⟨clock, _, none, rfl, named, replaced⟩)
    · cases renews
  | reset sessionName resetReason activityGeneration =>
    rcases permitted with wipes | named
    · cases wipes
    · exact .inl named
  | discardSessionQueueState sessionName recipient =>
    rcases permitted with named | renews
    · exact .inr (.inl named)
    · cases renews
  | _ => exact permitted.elim False.elim False.elim

theorem next_carries {store : TransportQueueStore} {session : String} {operation : Operation}
    (same : ¬ operation.StartsEpoch store session) :
    Carries session store (store.next operation) :=
  (next_changes store operation).carries
    (fun wipes => same (startsEpoch_of_footprint (.inl wipes)))
    (fun renews => same (startsEpoch_of_footprint (.inr renews)))

/-! ## The three ways to start an epoch -/

theorem reset_isNew {store : TransportQueueStore} {sessionName : String}
    {resetReason : QueueResetReason} {activityGeneration : Option String}
    {result : TransportQueueStore × QueueSnapshot}
    (done : store.reset sessionName resetReason activityGeneration = .ok result) :
    EpochIsNew (trim sessionName) store result.1 := by
  have done := session_ok done
  cases done
  intro later found
  obtain ⟨renewed, renewedFound, minted⟩ :=
    @lookup_renewMeta _ (store.deleteSessionRows (trim sessionName)) (trim sessionName)
  rw [ensureMeta_none_of_some renewedFound] at found
  cases renewedFound.symm.trans found
  exact ⟨store.uuidsIssued, Nat.le_refl _, minted⟩

theorem discardSessionQueueState_isNew {store : TransportQueueStore} {sessionName : String}
    {recipient : Option QueueRecipientIdentity}
    {result : TransportQueueStore × DiscardTransportQueueStateResult}
    (done : store.discardSessionQueueState sessionName recipient = .ok result) :
    EpochIsNew (trim sessionName) store result.1 := by
  have done := session_ok done
  have absent := @lookup_deleteSessionQueueStateRows store (trim sessionName)
  cases done
  intro later found
  dsimp only at found
  split at found
  · cases absent.symm.trans found
  · cases (Table.lookup_insertOrIgnore_fresh absent rfl).symm.trans found
    exact ⟨store.uuidsIssued, Nat.le_refl _, rfl, rfl⟩

theorem enqueueWithCapacityEviction_isNew {store : TransportQueueStore} {clock : Int}
    {input : EnqueueTransportQueueEntryInput} {evicted : Option String}
    {result : TransportQueueStore × EnqueueTransportQueueEntryResult}
    (replaced : store.replacesQueue clock input = true)
    (done : store.enqueueWithCapacityEviction clock input evicted = .ok result) :
    EpochIsNew (trim input.sessionName) store result.1 := by
  have done := session_ok done
  simp only [replacesQueue, Bool.and_eq_true, Bool.not_eq_true'] at replaced
  obtain ⟨isForeign, admitted⟩ := replaced
  rw [← @openForEnqueue_isForeignQueue _ _ input _ (input.now.getD clock)] at isForeign
  dsimp only at done
  rw [openForEnqueue_isCancelled, admitted, if_neg Bool.false_ne_true] at done
  obtain ⟨stored, storedFound⟩ : ∃ stored, (store.openForEnqueue (trim input.sessionName) input
    (input.now.getD clock)).queueMeta.lookup (trim input.sessionName) = some stored :=
    openForEnqueue_stored
  have replaced : Changes (enqueueFootprint store clock input)
      ((store.openForEnqueue (trim input.sessionName) input
        (input.now.getD clock)).deleteSessionQueueStateRows (trim input.sessionName))
      ((store.openForEnqueue (trim input.sessionName) input
        (input.now.getD clock)).replaceForeignQueue (trim input.sessionName)
        (normalizeQueueRecipient input.recipient)) := by
    unfold replaceForeignQueue
    rw [if_pos isForeign]
    exact Changes.refl.ensureMeta _
  have entered := replaced.enterQueue storedFound (fun ordinal => ⟨ordinal, rfl⟩) done
  have opened : Changes (enqueueFootprint store clock input) store
      (store.openForEnqueue (trim input.sessionName) input (input.now.getD clock)) :=
    Changes.refl.openForEnqueue rfl
  have isNew := (entered.advances (trim input.sessionName)).isNew_of_none
    (lookup_deleteSessionQueueStateRows _)
  exact isNew.mono (opened.advances (trim input.sessionName)).issued

theorem startsEpoch_isNew {store : TransportQueueStore} {session : String}
    {operation : Operation} {result : TransportQueueStore × List QueueSnapshot}
    (starts : operation.StartsEpoch store session) (done : store.step operation = .ok result) :
    EpochIsNew session store result.1 := by
  rcases starts with resets | discards | ⟨clock, input, evicted, enqueued, named, replaced⟩
  · cases operation with
    | reset sessionName resetReason activityGeneration =>
      obtain ⟨answer, call, rfl⟩ := answer_ok done
      obtain ⟨rfl, _, _⟩ := normalizeSessionName_eq_ok resets
      exact reset_isNew call
    | _ => exact False.elim resets
  · cases operation with
    | discardSessionQueueState sessionName recipient =>
      obtain ⟨answer, call, rfl⟩ := answer_ok done
      obtain ⟨rfl, _, _⟩ := normalizeSessionName_eq_ok discards
      exact discardSessionQueueState_isNew call
    | _ => exact False.elim discards
  · obtain ⟨answer, call, _⟩ := step_enqueued enqueued done
    obtain ⟨rfl, _, _⟩ := normalizeSessionName_eq_ok named
    exact enqueueWithCapacityEviction_isNew replaced call

/-! ## Calls that return nothing for the session -/

def ReturnsNone (session : String) (store : TransportQueueStore) (operation : Operation) : Prop :=
  ∀ snapshot ∈ store.returned operation, snapshot.sessionName ≠ session

theorem starts_returns {store : TransportQueueStore} {session : String} {operation : Operation}
    {result : TransportQueueStore × List QueueSnapshot} (done : store.step operation = .ok result)
    (starts : operation.Resets session ∨ operation.Replaces store session) :
    ∃ snapshot ∈ result.2, snapshot.sessionName = session := by
  rcases starts with resets | ⟨clock, input, evicted, enqueued, named, _⟩
  · cases operation with
    | reset sessionName resetReason activityGeneration =>
      obtain ⟨answer, call, rfl⟩ := answer_ok done
      obtain ⟨rfl, _, _⟩ := normalizeSessionName_eq_ok resets
      obtain ⟨held, describes⟩ := reset_describes call
      exact ⟨answer.2, List.mem_singleton.mpr rfl, describes.sessionName⟩
    | _ => exact False.elim resets
  · obtain ⟨answer, call, listed⟩ := step_enqueued enqueued done
    obtain ⟨rfl, _, _⟩ := normalizeSessionName_eq_ok named
    obtain ⟨held, describes⟩ := enqueueWithCapacityEviction_describes call
    exact ⟨answer.queueSnapshot, listed, (describes _ List.mem_cons_self).sessionName⟩

theorem quiet_carries {store : TransportQueueStore} {session : String} {operation : Operation}
    (quiet : ReturnsNone session store operation) (keeps : ¬ operation.Discards session) :
    Carries session store (store.next operation) := by
  cases done : store.step operation with
  | error thrown =>
    rw [next, done]
    exact .refl session store
  | ok result =>
    apply next_carries
    rintro (resets | discards | replaces)
    · obtain ⟨snapshot, listed, shown⟩ := starts_returns done (.inl resets)
      exact quiet snapshot (returned_of_ok done ▸ listed) shown
    · exact keeps discards
    · obtain ⟨snapshot, listed, shown⟩ := starts_returns done (.inr replaces)
      exact quiet snapshot (returned_of_ok done ▸ listed) shown

theorem quiet_run_carries {store : TransportQueueStore} {session : String}
    {operations : List Operation} (quiet : Meets next (ReturnsNone session) store operations)
    (keeps : ∀ operation ∈ operations, ¬ operation.Discards session) :
    Carries session store (run next store operations) := by
  induction operations generalizing store with
  | nil => exact .refl session store
  | cons operation rest ih =>
    have first := quiet_carries quiet.1 (keeps operation List.mem_cons_self)
    exact first.trans (ih quiet.2 fun other listed => keeps other (List.mem_cons_of_mem _ listed))

theorem discards_isNew {store : TransportQueueStore} {session : String} {operation : Operation}
    (discards : operation.Discards session) : EpochIsNew session store (store.next operation) := by
  have answers : ∃ result, store.step operation = .ok result := by
    cases operation with
    | discardSessionQueueState sessionName recipient =>
      refine ⟨_, bind_eq_ok.mpr ⟨_, bind_eq_ok.mpr ⟨session, discards, rfl⟩, rfl⟩⟩
    | _ => exact False.elim discards
  obtain ⟨result, done⟩ := answers
  rw [next_of_ok done]
  exact startsEpoch_isNew (.inr (.inl discards)) done

theorem run_isNew_of_discard {store : TransportQueueStore} {session : String}
    {operations : List Operation} {operation : Operation} (listed : operation ∈ operations)
    (discards : operation.Discards session) :
    EpochIsNew session store (run next store operations) := by
  obtain ⟨before, after, rfl⟩ := List.append_of_mem listed
  rw [run_append, run_cons]
  have reached := run_advances store before session
  have discarded := next_advances (run next store before) operation session
  have isNew : EpochIsNew session store ((run next store before).next operation) :=
    (discards_isNew discards).mono reached.issued
  exact isNew.advances (reached.issued.trans discarded.issued) (run_advances _ after session)

/-! ## Acceptance -/

theorem announcement_complete {store : TransportQueueStore} {session : String}
    {reset : Option QueueResetReason} {snapshot : QueueSnapshot} {held : QueueMetaRow}
    (describes : Describes store session reset snapshot held) {index : Nat}
    (mintedAt : held.MintedAt index) :
    snapshot.announcement.queueEpoch ≠ "" ∧ snapshot.announcement.queueAuthorityId ≠ "" ∧
      snapshot.announcement.pendingMessageVersion.isFinite = true := by
  change snapshot.queueEpoch ≠ "" ∧ snapshot.queueAuthorityId ≠ "" ∧
    snapshot.pendingMessageVersion.isFinite = true
  rw [describes.queueEpoch, describes.queueAuthorityId, describes.version, mintedAt.queueEpoch,
    mintedAt.queueAuthorityId]
  exact ⟨Host.randomUUID_ne_empty _, Host.randomUUID_ne_empty _, rfl⟩

theorem accepts_of_goesOn {state : TransportQueueReducerState} {session : String}
    {before after : TransportQueueStore} {shown next : QueueSnapshot}
    {reset nextReset : Option QueueResetReason} {held later : QueueMetaRow}
    (minted : Minted after)
    (baseline : state.baseline? =
      some ⟨shown.queueEpoch, shown.queueAuthorityId, shown.pendingMessageVersion⟩)
    (describes : Describes before session reset shown held)
    (describesNext : Describes after session nextReset next later)
    (goesOn : EpochGoesOn session before after held later) :
    state.Accepts next.announcement := by
  obtain ⟨index, _, mintedAt⟩ := minted later (Table.lookup_eq_some_iff.mp goesOn.laterFound).1
  refine accepts_iff.mpr ⟨announcement_complete describesNext mintedAt, ?_⟩
  intro known found
  cases baseline.symm.trans found
  left
  refine ⟨?_, ?_, ?_⟩
  · exact (describesNext.queueEpoch.trans goesOn.queueEpoch).trans describes.queueEpoch.symm
  · exact (describesNext.queueAuthorityId.trans goesOn.queueAuthorityId).trans
      describes.queueAuthorityId.symm
  · change next.pendingMessageVersion.lt shown.pendingMessageVersion = false
    rw [describesNext.version, describes.version]
    have version := goesOn.version
    simp only [JsNumber.lt, decide_eq_false_iff_not, not_lt]
    exact_mod_cast version

theorem accepts_iff_of_isNew {state : TransportQueueReducerState} {session : String}
    {before after : TransportQueueStore} {shown next : QueueSnapshot}
    {reset nextReset : Option QueueResetReason} {held later : QueueMetaRow}
    (minted : Minted before)
    (baseline : state.baseline? =
      some ⟨shown.queueEpoch, shown.queueAuthorityId, shown.pendingMessageVersion⟩)
    (describes : Describes before session reset shown held)
    (describesNext : Describes after session nextReset next later)
    (isNew : EpochIsNew session before after) :
    state.Accepts next.announcement ↔ nextReset.any QueueResetReason.isRecognized = true := by
  obtain ⟨index, used, mintedAt⟩ := minted held (Table.lookup_eq_some_iff.mp describes.found).1
  obtain ⟨nextIndex, fresh, nextMintedAt⟩ := isNew later describesNext.found
  have epoch := describesNext.queueEpoch.trans nextMintedAt.queueEpoch
  have authority := describesNext.queueAuthorityId.trans nextMintedAt.queueAuthorityId
  have otherEpoch : next.queueEpoch ≠ shown.queueEpoch := by
    rw [epoch, describes.queueEpoch, mintedAt.queueEpoch]
    intro same
    have := Host.randomUUID_injective same
    omega
  have otherAuthority : next.queueAuthorityId ≠ shown.queueAuthorityId := by
    rw [authority, describes.queueAuthorityId, mintedAt.queueAuthorityId]
    intro same
    have := Host.randomUUID_injective same
    omega
  rw [accepts_iff]
  have announced : next.announcement.resets = nextReset.any QueueResetReason.isRecognized := by
    rw [← describesNext.resetReason]
    rfl
  rw [← announced]
  constructor
  · rintro ⟨_, decides⟩
    rcases decides _ baseline with ⟨same, _⟩ | ⟨_, _, resets⟩
    · exact False.elim (otherEpoch same)
    · exact resets
  · intro resets
    refine ⟨announcement_complete describesNext nextMintedAt, ?_⟩
    intro known found
    cases baseline.symm.trans found
    exact .inr ⟨otherEpoch, otherAuthority, resets⟩

theorem announcesReset_iff {store : TransportQueueStore} {session : String}
    {operation : Operation} {snapshot : QueueSnapshot}
    (listed : snapshot ∈ store.returned operation) (ofSession : snapshot.sessionName = session) :
    operation.announcedReset.any QueueResetReason.isRecognized = true ↔
      operation.AnnouncesReset session := by
  cases operation with
  | reset sessionName resetReason activityGeneration =>
    cases done : store.step (.reset sessionName resetReason activityGeneration) with
    | error thrown =>
      rw [returned, done] at listed
      cases listed
    | ok result =>
      rw [returned_of_ok done] at listed
      obtain ⟨_, call, rfl⟩ := answer_ok done
      cases List.mem_singleton.mp listed
      obtain ⟨held, describes⟩ := reset_describes call
      obtain ⟨normalized, named, _⟩ := bind_eq_ok.mp call
      have isSession : normalized = session :=
        (normalizeSessionName_eq_ok named).1.trans (describes.sessionName.symm.trans ofSession)
      subst isSession
      exact ⟨fun recognized => ⟨named, recognized⟩, And.right⟩
  | _ => exact ⟨fun impossible => absurd impossible Bool.false_ne_true, False.elim⟩

/-- After the last snapshot of a session was applied, what the same call returned with
it is accepted too, and the next snapshot of the session is accepted exactly when its
call announces a recognized reset, or when the epoch has not changed: no discard of
the session lies between, and the call itself starts no epoch. -/
theorem next_snapshot_accepted_iff (session : String) (earlier gap : List Operation)
    (last following : Operation) (lastSnapshot nextSnapshot : QueueSnapshot)
    (state : TransportQueueReducerState)
    (isLast : lastSnapshot ∈ (run next empty earlier).returned last)
    (lastOfSession : lastSnapshot.sessionName = session)
    (quiet : Meets next (ReturnsNone session) (run next empty (earlier ++ [last])) gap)
    (isNext : nextSnapshot ∈ (run next empty (earlier ++ [last] ++ gap)).returned following)
    (nextOfSession : nextSnapshot.sessionName = session)
    (accepted : state.Accepts lastSnapshot.announcement) :
    (∀ other ∈ (run next empty earlier).returned last, other.sessionName = session →
      (applySnapshot state lastSnapshot).Accepts other.announcement) ∧
    ((applySnapshot state lastSnapshot).Accepts nextSnapshot.announcement ↔
      following.AnnouncesReset session ∨
        ((∀ operation ∈ gap, ¬ operation.Discards session) ∧
          ¬ following.StartsEpoch (run next empty (earlier ++ [last] ++ gap)) session)) := by
  have baseline := baseline?_applySnapshot accepted
  have atLast : run next empty (earlier ++ [last]) = (run next empty earlier).next last :=
    run_append next empty earlier [last]
  have lastMinted : Minted ((run next empty earlier).next last) :=
    atLast ▸ run_minted (earlier ++ [last])
  obtain ⟨held, describes⟩ := returned_describes isLast
  obtain ⟨later, describesNext⟩ := returned_describes isNext
  rw [run_append, atLast] at isNext describesNext ⊢
  rw [atLast] at quiet
  rw [nextOfSession] at describesNext
  rw [lastOfSession] at describes
  have gapMinted := run_minted (earlier ++ [last] ++ gap)
  rw [run_append, atLast] at gapMinted
  have nextMinted : Minted ((run next ((run next empty earlier).next last) gap).next following) :=
    (next_changes _ following).preserves (fun _ _ => Change.minted) gapMinted
  constructor
  · intro other listed otherOfSession
    obtain ⟨otherHeld, otherDescribes⟩ := returned_describes listed
    rw [otherOfSession] at otherDescribes
    cases describes.found.symm.trans otherDescribes.found
    exact accepts_of_goesOn lastMinted baseline describes otherDescribes (.refl describes.found)
  by_cases discards : ∃ operation ∈ gap, operation.Discards session
  · obtain ⟨operation, listed, discarded⟩ := discards
    have isNew : EpochIsNew session ((run next empty earlier).next last)
        ((run next ((run next empty earlier).next last) gap).next following) :=
      (run_isNew_of_discard listed discarded).advances (run_advances _ gap session).issued
        (next_advances _ following session)
    rw [accepts_iff_of_isNew lastMinted baseline describes describesNext isNew,
      announcesReset_iff isNext nextOfSession]
    exact ⟨.inl, fun either => either.resolve_right fun kept => kept.1 operation listed discarded⟩
  · push Not at discards
    have carries := quiet_run_carries quiet discards
    by_cases starts : following.StartsEpoch
        (run next ((run next empty earlier).next last) gap) session
    · have isNew : EpochIsNew session ((run next empty earlier).next last)
          ((run next ((run next empty earlier).next last) gap).next following) := by
        cases done : (run next ((run next empty earlier).next last) gap).step following with
        | error thrown =>
          rw [returned, done] at isNext
          cases isNext
        | ok result =>
          rw [next_of_ok done]
          exact (startsEpoch_isNew starts done).mono carries.issued
      rw [accepts_iff_of_isNew lastMinted baseline describes describesNext isNew,
        announcesReset_iff isNext nextOfSession]
      exact ⟨.inl, fun either => either.resolve_right fun kept => kept.2 starts⟩
    · obtain ⟨reached, goesOn⟩ := (carries.trans (next_carries starts)).goesOn held describes.found
      cases goesOn.laterFound.symm.trans describesNext.found
      exact iff_of_true (accepts_of_goesOn nextMinted baseline describes describesNext goesOn)
        (.inr ⟨discards, starts⟩)

end Host

section FixedRuns

open Library.FixedRuns

def enqueueFirst : Operation := .enqueue 0 (plainMessage (some ⟨"A", "e"⟩) "m1" 1)

def unannouncedEpochs : List (List Operation × Operation) :=
  [([], .enqueue 0 (plainMessage (some ⟨"B", "e"⟩) "m2" 2)),
    ([.discardSessionQueueState "deck" (some ⟨"B", "e"⟩)], .readSnapshot "deck" "read")]

/-- Both ways of changing the epoch in silence leave the reducer rejecting what follows. -/
theorem unannounced_epoch_rejected :
    (empty.returned enqueueFirst).length = 1 ∧
    ∀ first ∈ empty.returned enqueueFirst,
      (createTransportQueueReducerState none).Accepts first.announcement ∧
      ∀ follows ∈ unannouncedEpochs,
        ((run next (empty.next enqueueFirst) follows.1).returned follows.2).length = 1 ∧
        ∀ second ∈ (run next (empty.next enqueueFirst) follows.1).returned follows.2,
          canApplySnapshot (applySnapshot (createTransportQueueReducerState none) first)
            second.announcement = .error "cross_epoch_without_recognized_reset" := by
  decide

def firstShown : QueueSnapshot :=
  { snapshotOf "u" "uu" 1 none ["m1"] with source := "enqueue" }

theorem next_snapshot_accepted_iff_run :
    (∀ other ∈ (run next empty []).returned enqueueFirst, other.sessionName = "deck" →
      (applySnapshot (createTransportQueueReducerState none) firstShown).Accepts
        other.announcement) ∧
    ((applySnapshot (createTransportQueueReducerState none) firstShown).Accepts
        { firstShown with source := "read" }.announcement ↔
      (Operation.readSnapshot "deck" "read").AnnouncesReset "deck" ∨
        ((∀ operation ∈ ([] : List Operation), ¬ operation.Discards "deck") ∧
          ¬ (Operation.readSnapshot "deck" "read").StartsEpoch
            (run next empty ([] ++ [enqueueFirst] ++ [])) "deck")) :=
  next_snapshot_accepted_iff "deck" [] [] enqueueFirst (.readSnapshot "deck" "read") firstShown
    { firstShown with source := "read" } (createTransportQueueReducerState none)
    (by decide) rfl trivial (by decide) rfl (by decide)

end FixedRuns

end TransportQueueStore

end ImCodes.Queue
