import ImCodes.Queue.EpochAgreement
import ImCodes.Queue.Store.Material

/-!
# Cancelled messages

An accepted cancellation leaves a tombstone that belongs to the session instance of
the caller. For as long as it is neither pruned nor set back, every later enqueue of
the message by that instance is turned away.
-/

set_option autoImplicit false

namespace ImCodes.Queue

open Library

namespace Operation

/-- The clock by which a call prunes the cancellations. -/
def pruningClock? : Operation → Option Int
  | .enqueue clock input | .enqueueWithCapacityEviction clock input _
  | .retry clock _ _ input => some (input.now.getD clock)
  | .markHandoffInFlight _ _ _ now _ | .cancelQueuedMessage _ _ _ now => some now
  | _ => none

theorem pruningClock?_of_enqueued {operation : Operation} {clock : Int}
    {input : EnqueueTransportQueueEntryInput} {evicted : Option String}
    (enqueued : operation.enqueued? = some (clock, input, evicted)) :
    operation.pruningClock? = some (input.now.getD clock) := by
  cases operation with
  | enqueue | enqueueWithCapacityEviction | retry =>
    cases enqueued
    rfl
  | _ => cases enqueued

/-- The call enqueues the message, as the store identifies it. -/
def Enqueues [Host] (store : TransportQueueStore) (session clientMessageId : String)
    (input : EnqueueTransportQueueEntryInput) (operation : Operation) : Prop :=
  ∃ clock evicted, operation.enqueued? = some (clock, input, evicted) ∧
    normalizeSessionName input.sessionName = .ok session ∧
    (store.identifyMessage input.clientMessageId).2 = clientMessageId

def EnqueuesUnidentified [Host] (store : TransportQueueStore) (session clientMessageId : String)
    (operation : Operation) : Prop :=
  ∃ input, operation.Enqueues store session clientMessageId input ∧
    normalizeQueueRecipient input.recipient = none

/-- A call that leaves a cancellation of `since` standing: it neither resets nor discards
the session, no other instance enqueues in it, its clock is within the lifetime of the
cancellation, and it does not cancel the same message with an earlier clock. -/
structure SparesCancellation (session clientMessageId instanceId : String) (since : Int)
    (operation : Operation) : Prop where
  noReset : ¬ operation.Resets session
  noDiscard : ¬ operation.Discards session
  sameInstance : ∀ clock input evicted, operation.enqueued? = some (clock, input, evicted) →
    normalizeSessionName input.sessionName = .ok session →
    ∀ identity, normalizeQueueRecipient input.recipient = some identity →
      identity.sessionInstanceId = instanceId
  soon : ∀ now, operation.pruningClock? = some now → now ≤ since + queueCancellationTombstoneTtlMs
  notEarlier : ∀ sessionName messageId recipient now,
    operation = .cancelQueuedMessage sessionName messageId recipient now →
    trim sessionName = session → trim messageId = clientMessageId → since ≤ now

end Operation

namespace TransportQueueStore

def BoundTo (store : TransportQueueStore) (session instanceId : String) : Prop :=
  ∃ held, store.queueMeta.lookup session = some held ∧
    held.recipient.sessionInstanceId = some instanceId

/-- A cancellation of the message by the instance stands, no older than `since`. -/
def CancelledSince (store : TransportQueueStore) (session clientMessageId instanceId : String)
    (since : Int) : Prop :=
  ∃ row, row ∈ store.queueCancellationTombstones ∧ row.key = (session, clientMessageId) ∧
    since ≤ row.createdAt ∧ row.recipient.sessionInstanceId = some instanceId ∧
    row.recipient.runtimeEpoch.isSome = true

section Host

variable [Host] {allowed : Footprint} {before after : TransportQueueStore}
  {session clientMessageId instanceId : String} {since : Int}

/-! ## One change -/

theorem Change.boundTo (change : Change allowed before after) (usable : instanceId ≠ "")
    (noWipe : ¬ allowed.wipes session) (noRenew : ¬ allowed.renews session)
    (bound : before.BoundTo session instanceId) : after.BoundTo session instanceId := by
  obtain ⟨held, found, owner⟩ := bound
  cases change with
  | mint minted absent queueEpoch queueAuthorityId =>
    have different : minted.sessionName ≠ session := by
      intro same
      rw [same] at absent
      cases absent.symm.trans found
    exact ⟨held, (Table.lookup_insertOrIgnore_other different).trans found, owner⟩
  | touchMeta p update keeps kept =>
    refine ⟨if p held then update held else held, ?_, ?_⟩
    · rw [@Table.lookup_updateWhere _ _ _ _ _ _ _ keeps _, found]
      rfl
    · split
      · next selected =>
          rcases (kept held (Table.lookup_eq_some_iff.mp found).1 selected).owner with
            same | unset | ⟨sameInstance, _⟩
          · rw [same]
            exact owner
          · simp only [RecipientColumns.unset, owner, truthy_some usable] at unset
            cases unset
          · exact sameInstance.trans owner
      · exact owner
  | renew other permitted =>
    have different : other ≠ session := fun same => noRenew (same ▸ permitted)
    exact ⟨held, (lookup_renewMeta_other different).trans found, owner⟩
  | wipe other permitted =>
    have different : other ≠ session := fun same => noWipe (same ▸ permitted)
    exact ⟨held, (lookup_deleteSessionQueueStateRows_other different).trans found, owner⟩
  | insert row known inserted material permitted home ordinal reference unleased queued owned accepted =>
    refine ⟨_, lookup_takeOrdinal.trans (congrArg _ found), ?_⟩
    dsimp only
    split
    · exact owner
    · exact owner
  | issue | update | remove | strip | rewrite | deliver | prune | cancel | purge | restamp =>
    exact ⟨held, found, owner⟩

theorem Change.cancelledSince (change : Change allowed before after)
    (noWipe : ¬ allowed.wipes session) (noRenew : ¬ allowed.renews session)
    (soon : ∀ now, allowed.prunes now → now ≤ since + queueCancellationTombstoneTtlMs)
    (notEarlier : ∀ row, allowed.cancels row → row.key = (session, clientMessageId) →
      since ≤ row.createdAt)
    (cancelled : before.CancelledSince session clientMessageId instanceId since) :
    after.CancelledSince session clientMessageId instanceId since := by
  obtain ⟨tombstone, member, isTarget, recent, owner, generation⟩ := cancelled
  have inside : tombstone.sessionName = session := congrArg Prod.fst isTarget
  cases change with
  | renew other permitted =>
    have spared : inSession other tombstone = false :=
      decide_eq_false fun same => noRenew ((same.symm.trans inside) ▸ permitted)
    exact ⟨tombstone, Table.mem_deleteWhere.mpr ⟨member, spared⟩, isTarget, recent, owner,
      generation⟩
  | wipe other permitted =>
    have spared : inSession other tombstone = false :=
      decide_eq_false fun same => noWipe ((same.symm.trans inside) ▸ permitted)
    exact ⟨tombstone, Table.mem_deleteWhere.mpr ⟨member, spared⟩, isTarget, recent, owner,
      generation⟩
  | prune now permitted =>
    have kept := soon now permitted
    refine ⟨tombstone, Table.mem_deleteWhere.mpr ⟨member, ?_⟩, isTarget, recent, owner,
      generation⟩
    rw [decide_eq_false_iff_not]
    omega
  | cancel row permitted own =>
    by_cases same : tombstone.key = row.key
    · have sameOwner := own tombstone member same
      refine ⟨row, Table.mem_upsert.mpr (.inr rfl), same.symm.trans isTarget,
        notEarlier row permitted (same.symm.trans isTarget), ?_, ?_⟩
      · rw [← sameOwner]
        exact owner
      · rw [← sameOwner]
        exact generation
    · exact ⟨tombstone, Table.mem_upsert.mpr (.inl ⟨member, same⟩), isTarget, recent, owner,
        generation⟩
  | purge p timeless legacy permitted =>
    refine ⟨tombstone, Table.mem_deleteWhere.mpr ⟨member, ?_⟩, isTarget, recent, owner,
      generation⟩
    rw [Bool.eq_false_iff]
    intro selected
    have isLegacy : tombstone.recipient = .legacy := legacy _ selected
    rw [isLegacy] at owner
    cases owner
  | restamp p recipient timeless own =>
    refine ⟨_, mem_restampedCancellations.mpr ⟨tombstone, member, rfl⟩, ?_⟩
    split
    · next selected =>
        refine ⟨isTarget, recent, ?_, rfl⟩
        rcases own _ selected with isLegacy | sameInstance
        · rw [show tombstone.recipient = .legacy from isLegacy] at owner
          cases owner
        · exact sameInstance.symm.trans owner
    · exact ⟨isTarget, recent, owner, generation⟩
  | issue | mint | touchMeta | insert | update | remove | strip | rewrite | deliver =>
    exact ⟨tombstone, member, isTarget, recent, owner, generation⟩

theorem Changes.cancellation (changes : Changes allowed before after) (usable : instanceId ≠ "")
    (noWipe : ¬ allowed.wipes session) (noRenew : ¬ allowed.renews session)
    (soon : ∀ now, allowed.prunes now → now ≤ since + queueCancellationTombstoneTtlMs)
    (notEarlier : ∀ row, allowed.cancels row → row.key = (session, clientMessageId) →
      since ≤ row.createdAt)
    (bound : before.BoundTo session instanceId)
    (cancelled : before.CancelledSince session clientMessageId instanceId since) :
    after.BoundTo session instanceId ∧
      after.CancelledSince session clientMessageId instanceId since := by
  induction changes with
  | refl => exact ⟨bound, cancelled⟩
  | tail _ change ih =>
    exact ⟨change.boundTo usable noWipe noRenew ih.1,
      change.cancelledSince noWipe noRenew soon notEarlier ih.2⟩

/-! ## One call -/

theorem not_replacesQueue {store : TransportQueueStore} {clock : Int}
    {input : EnqueueTransportQueueEntryInput} (usable : instanceId ≠ "")
    (bound : store.BoundTo (trim input.sessionName) instanceId)
    (sameInstance : ∀ identity, normalizeQueueRecipient input.recipient = some identity →
      identity.sessionInstanceId = instanceId) : store.replacesQueue clock input = false := by
  have own : store.isForeignQueue (trim input.sessionName)
      (normalizeQueueRecipient input.recipient) = false := by
    cases caller : normalizeQueueRecipient input.recipient with
    | none => rfl
    | some identity =>
      rw [Bool.eq_false_iff, ne_eq, isForeignQueue_iff]
      rintro ⟨held, found, named, isNamed, different⟩
      obtain ⟨known, knownFound, owner⟩ := bound
      cases knownFound.symm.trans found
      rw [owner, truthy_some usable] at isNamed
      exact different ((Option.some.inj isNamed).symm.trans (sameInstance identity caller).symm)
  rw [replacesQueue, own]
  rfl

theorem next_cancellation {store : TransportQueueStore} {operation : Operation}
    (usable : instanceId ≠ "")
    (spares : operation.SparesCancellation session clientMessageId instanceId since)
    (bound : store.BoundTo session instanceId)
    (cancelled : store.CancelledSince session clientMessageId instanceId since) :
    (store.next operation).BoundTo session instanceId ∧
      (store.next operation).CancelledSince session clientMessageId instanceId since := by
  have quiet : ¬ operation.StartsEpoch store session := by
    rintro (resets | discards | ⟨clock, input, evicted, enqueued, named, replaced⟩)
    · exact spares.noReset resets
    · exact spares.noDiscard discards
    · have isSession := (normalizeSessionName_eq_ok named).1
      have own := @not_replacesQueue _ _ _ clock _ usable (isSession ▸ bound)
        (spares.sameInstance clock input evicted enqueued named)
      rw [own] at replaced
      cases replaced
  refine (next_changes store operation).cancellation usable
    (fun wipes => quiet (startsEpoch_of_footprint (.inl wipes)))
    (fun renews => quiet (startsEpoch_of_footprint (.inr renews))) ?_ ?_ bound cancelled
  · intro now prunes
    have soon := spares.soon now
    cases operation with
    | enqueue | enqueueWithCapacityEviction | retry | markHandoffInFlight | cancelQueuedMessage =>
      exact soon (congrArg some (Eq.symm prunes))
    | _ => exact False.elim prunes
  · intro row cancels isTarget
    cases operation with
    | cancelQueuedMessage sessionName messageId recipient now =>
      cases cancels
      simp only [QueueCancellationTombstoneRow.key, Prod.mk.injEq] at isTarget
      exact spares.notEarlier sessionName messageId recipient now rfl isTarget.1 isTarget.2
    | _ => exact False.elim cancels

theorem enqueue_turned_away {store : TransportQueueStore} {clock : Int}
    {input : EnqueueTransportQueueEntryInput} {evicted : Option String}
    {result : TransportQueueStore × EnqueueTransportQueueEntryResult}
    {identity : QueueRecipientIdentity}
    (caller : normalizeQueueRecipient input.recipient = some identity)
    (cancelled : store.CancelledSince (trim input.sessionName)
      (store.identifyMessage input.clientMessageId).2 identity.sessionInstanceId since)
    (soon : input.now.getD clock ≤ since + queueCancellationTombstoneTtlMs)
    (done : store.enqueueWithCapacityEviction clock input evicted = .ok result) :
    result.2.cancelled = true ∧ result.1.queueEntries = store.queueEntries := by
  have done := session_ok done
  have stands : (store.openForEnqueue (trim input.sessionName) input
      (input.now.getD clock)).isCancelled (trim input.sessionName)
        (store.identifyMessage input.clientMessageId).2
        (normalizeQueueRecipient input.recipient) = true := by
    rw [openForEnqueue_isCancelled, caller]
    obtain ⟨tombstone, member, isTarget, recent, owner, generation⟩ := cancelled
    refine Table.holds_iff.mpr ⟨tombstone, Table.mem_deleteWhere.mpr ⟨member, ?_⟩, ?_⟩
    · rw [decide_eq_false_iff_not]
      omega
    · rw [isMessage_iff_cancellationKey.mpr isTarget, cancellationGate, owner, generation]
      simp
  dsimp only at done
  rw [if_pos stands] at done
  cases done
  refine ⟨rfl, ?_⟩
  have opened := (@identifyMessage_tables _ store input.clientMessageId).2.trans
    (ensureMeta_sameMessages (store.identifyMessage input.clientMessageId).1
      (trim input.sessionName) (normalizeQueueRecipient input.recipient))
  have read := buildSnapshot_sameMessages
    (store.openForEnqueue (trim input.sessionName) input (input.now.getD clock))
    (trim input.sessionName) "enqueue_cancelled" none none
  exact read.queueEntries.trans opened.queueEntries

theorem boundTo_of_mayCancel {store : TransportQueueStore} {identity : QueueRecipientIdentity}
    (usable : normalizeQueueRecipient (some identity) = some identity)
    (permitted : store.mayCancel session (some identity) = true) :
    (store.ensureMeta session (some identity)).1.BoundTo session identity.sessionInstanceId := by
  cases found : store.queueMeta.lookup session with
  | none =>
    rw [ensureMeta_of_none found, usable]
    exact ⟨_, Table.lookup_insertOrIgnore_fresh found rfl, rfl⟩
  | some held =>
    simp only [mayCancel, found, Bool.or_eq_true, Bool.and_eq_true, recipientPredicate_iff,
      decide_eq_true_eq] at permitted
    have named : held.sessionName = session := (Table.lookup_eq_some_iff.mp found).2
    have adopts : (store.setMetaRecipient session identity.columns).BoundTo session
        identity.sessionInstanceId := by
      refine ⟨{ held with recipient := identity.columns }, ?_, rfl⟩
      simp [setMetaRecipient, Table.lookup_updateWhere, found, named]
    rcases ensureMeta_of_some found (some identity) with same | ⟨_, bound, normalized, adopted⟩
    · rcases permitted with own | ⟨⟨_, legacy⟩, _⟩
      · rw [same]
        exact ⟨held, found, own ▸ rfl⟩
      · have opened : (store.ensureMeta session (some identity)).1 =
            store.setMetaRecipient session identity.columns := by
          simp only [ensureMeta, found, usable, legacy]
          rfl
        rw [opened]
        exact adopts
    · cases usable.symm.trans normalized
      rw [adopted]
      exact adopts

theorem cancelQueuedMessage_accepted {store : TransportQueueStore} {sessionName messageId : String}
    {recipient : Option QueueRecipientIdentity} {identity : QueueRecipientIdentity}
    (caller : normalizeQueueRecipient recipient = some identity) {now : Int}
    {cancelled : TransportQueueStore} {snapshot : QueueSnapshot}
    (done : store.cancelQueuedMessage sessionName messageId recipient now =
      .ok (cancelled, .accepted, snapshot)) :
    (cancelled.BoundTo (trim sessionName) identity.sessionInstanceId ∧
      cancelled.CancelledSince (trim sessionName) (trim messageId) identity.sessionInstanceId
        now) ∧
    ∀ row, row ∈ cancelled.queueEntries → row.key ≠ (trim sessionName, trim messageId) := by
  obtain ⟨session, named, done⟩ := bind_eq_ok.mp done
  obtain ⟨message, identified, done⟩ := bind_eq_ok.mp done
  obtain ⟨rfl, _, _⟩ := normalizeSessionName_eq_ok named
  obtain ⟨rfl, _⟩ := requireNonEmpty_eq_ok identified
  obtain ⟨instanceText, _, usable⟩ := normalizeQueueRecipient_eq_some caller
  dsimp only at done
  rw [caller] at done
  split at done
  · next permitted =>
      split at done
      · cases done
      · next ownMessage =>
          cases done
          have opened := boundTo_of_mayCancel usable permitted
          have bumped : Changes Footprint.common _
              ((((store.pruneCancellations now).ensureMeta (trim sessionName)
                (some identity)).1.cancelMessage (trim sessionName) (trim messageId)
                (some identity) now).bumpVersion (trim sessionName)).1 :=
            Changes.refl.bumpVersion
          refine ⟨bumped.cancellation instanceText id id (fun _ => False.elim)
            (fun _ => False.elim) opened ?_, ?_⟩
          · exact ⟨_, Table.mem_upsert.mpr (.inr rfl), rfl, le_refl _, rfl, rfl⟩
          · intro row member isTarget
            change row ∈ (bumpVersion _ _).1.queueEntries at member
            rw [(bumpVersion_sameMessages _ _).queueEntries] at member
            obtain ⟨oldMember, spared⟩ := Table.mem_deleteWhere.mp member
            simp only [holdsForeignMessage, Bool.not_eq_true, Bool.or_eq_false_iff] at ownMessage
            have own := Table.holds_eq_false_iff.mp ownMessage.1.1 row oldMember
            rw [isMessage_iff_entryKey.mpr isTarget, Bool.true_and] at own spared
            rw [spared] at own
            cases own
  · cases done

theorem enqueued_of_inserts {store : TransportQueueStore} {operation : Operation}
    {row : QueueEntryRow} (inserts : (operation.footprint store).inserts row) :
    ∃ clock input evicted, operation.enqueued? = some (clock, input, evicted) ∧
      row.key = (trim input.sessionName, (store.identifyMessage input.clientMessageId).2) := by
  cases operation with
  | enqueue clock input =>
    obtain ⟨ordinal, rfl⟩ := inserts
    exact ⟨clock, input, none, rfl, rfl⟩
  | enqueueWithCapacityEviction clock input evicted =>
    obtain ⟨ordinal, rfl⟩ := inserts
    exact ⟨clock, input, evicted, rfl, rfl⟩
  | retry clock sessionName failedClientMessageId input =>
    obtain ⟨ordinal, rfl⟩ := inserts
    exact ⟨clock, _, none, rfl, rfl⟩
  | _ => exact False.elim inserts

theorem next_row {store : TransportQueueStore} (reachable : Reachable store)
    {operation : Operation}
    (sameInstance : ∀ clock input evicted, operation.enqueued? = some (clock, input, evicted) →
      normalizeSessionName input.sessionName = .ok session →
      ∀ identity, normalizeQueueRecipient input.recipient = some identity →
        identity.sessionInstanceId = instanceId)
    (soon : ∀ clock input evicted, operation.enqueued? = some (clock, input, evicted) →
      input.now.getD clock ≤ since + queueCancellationTombstoneTtlMs)
    (cancelled : store.CancelledSince session clientMessageId instanceId since)
    {row : QueueEntryRow} (member : row ∈ (store.next operation).queueEntries)
    (isTarget : row.key = (session, clientMessageId)) :
    (∃ old, old ∈ store.queueEntries ∧ old.key = (session, clientMessageId)) ∨
      operation.EnqueuesUnidentified store session clientMessageId := by
  rcases (next_changes store operation).origin (reachable_numbered reachable) member with
    ⟨old, comes⟩ | fresh
  · exact .inl ⟨old, comes.member, comes.key.trans isTarget⟩
  · obtain ⟨inserted, inserts, sameKey⟩ := fresh.inserted
    obtain ⟨clock, input, evicted, enqueued, insertedKey⟩ := enqueued_of_inserts inserts
    have keys := insertedKey.symm.trans (sameKey.trans isTarget)
    simp only [Prod.mk.injEq] at keys
    obtain ⟨rfl, rfl⟩ := keys
    cases done : store.step operation with
    | error thrown =>
      rw [next, done] at member
      exact .inl ⟨row, member, isTarget⟩
    | ok result =>
      obtain ⟨answer, call, _⟩ := step_enqueued enqueued done
      obtain ⟨session, named, _⟩ := bind_eq_ok.mp call
      have isSession := (normalizeSessionName_eq_ok named).1
      subst isSession
      cases caller : normalizeQueueRecipient input.recipient with
      | none => exact .inr ⟨input, ⟨clock, evicted, enqueued, named, rfl⟩, caller⟩
      | some identity =>
        have own := sameInstance clock input evicted enqueued named identity caller
        subst own
        have unchanged := (enqueue_turned_away caller cancelled
          (soon clock input evicted enqueued) call).2
        rw [next_of_ok done, unchanged] at member
        exact .inl ⟨row, member, isTarget⟩

/-! ## Whole runs -/

theorem run_cancellation {start : TransportQueueStore} (reachable : Reachable start)
    (usable : instanceId ≠ "") (bound : start.BoundTo session instanceId)
    (cancelled : start.CancelledSince session clientMessageId instanceId since)
    (noRow : ∀ row, row ∈ start.queueEntries → row.key ≠ (session, clientMessageId))
    (operations : List Operation) (spares : ∀ operation ∈ operations,
      operation.SparesCancellation session clientMessageId instanceId since) :
    ((run next start operations).BoundTo session instanceId ∧
      (run next start operations).CancelledSince session clientMessageId instanceId since) ∧
    ∀ row, row ∈ (run next start operations).queueEntries → row.key = (session, clientMessageId) →
      ∃ earlier operation later, operations = earlier ++ operation :: later ∧
        operation.EnqueuesUnidentified (run next start earlier) session clientMessageId := by
  induction operations using List.reverseRecOn with
  | nil => exact ⟨⟨bound, cancelled⟩, fun row member isTarget => absurd isTarget (noRow row member)⟩
  | append_singleton operations operation ih =>
    have sparesLast := spares operation (List.mem_append_right _ (List.mem_singleton.mpr rfl))
    obtain ⟨⟨bound, cancelled⟩, unidentified⟩ := ih fun other listed =>
      spares other (List.mem_append_left _ listed)
    have last : run next start (operations ++ [operation]) =
        (run next start operations).next operation := run_append next start operations [operation]
    refine ⟨last ▸ next_cancellation usable sparesLast bound cancelled, ?_⟩
    intro row member isTarget
    rw [last] at member
    have reached : Reachable (run next start operations) := reachable.run operations
    have soon : ∀ clock input evicted, operation.enqueued? = some (clock, input, evicted) →
        input.now.getD clock ≤ since + queueCancellationTombstoneTtlMs :=
      fun _ _ _ enqueued => sparesLast.soon _ (Operation.pruningClock?_of_enqueued enqueued)
    rcases next_row reached sparesLast.sameInstance soon cancelled member isTarget with
      ⟨old, oldMember, oldTarget⟩ | enqueues
    · obtain ⟨earlier, other, rest, rfl, enqueues⟩ := unidentified old oldMember oldTarget
      exact ⟨earlier, other, rest ++ [operation], List.append_assoc _ _ _, enqueues⟩
    · exact ⟨operations, operation, [], rfl, enqueues⟩

/-- Once an instance has cancelled a message, no later enqueue of it by that instance adds
or changes a row for as long as the cancellation is spared; a row of the message can only
be one that was enqueued for nobody. -/
theorem cancellation_beats_late_enqueue (earlier between : List Operation)
    (sessionName messageId : String) (recipient : Option QueueRecipientIdentity)
    (identity caller : QueueRecipientIdentity) (since : Int) (cancelled : TransportQueueStore)
    (snapshot : QueueSnapshot) (usable : normalizeQueueRecipient recipient = some identity)
    (accepted : (run next empty earlier).cancelQueuedMessage sessionName messageId recipient since =
      .ok (cancelled, .accepted, snapshot))
    (spares : ∀ operation ∈ between, operation.SparesCancellation (trim sessionName)
      (trim messageId) identity.sessionInstanceId since)
    (late : Operation) (input : EnqueueTransportQueueEntryInput)
    (enqueues : late.Enqueues (run next cancelled between) (trim sessionName) (trim messageId)
      input)
    (usableCaller : normalizeQueueRecipient input.recipient = some caller)
    (sameInstance : caller.sessionInstanceId = identity.sessionInstanceId)
    (soon : ∀ now, late.pruningClock? = some now →
      now ≤ since + queueCancellationTombstoneTtlMs) :
    (run next cancelled (between ++ [late])).queueEntries =
        (run next cancelled between).queueEntries ∧
      ∀ row, row ∈ (run next cancelled (between ++ [late])).queueEntries →
        row.key = (trim sessionName, trim messageId) →
        ∃ first operation second, between = first ++ operation :: second ∧
          operation.EnqueuesUnidentified (run next cancelled first) (trim sessionName)
            (trim messageId) := by
  obtain ⟨⟨bound, stands⟩, noRow⟩ := cancelQueuedMessage_accepted usable accepted
  have reachable : Reachable cancelled := by
    refine ⟨earlier ++ [.cancelQueuedMessage sessionName messageId recipient since], ?_⟩
    have done : (run next empty earlier).step (.cancelQueuedMessage sessionName messageId recipient
        since) = .ok (cancelled, [snapshot]) := bind_eq_ok.mpr ⟨_, accepted, rfl⟩
    rw [run_append]
    exact next_of_ok done
  obtain ⟨⟨_, standing⟩, unidentified⟩ := run_cancellation reachable
    (normalizeQueueRecipient_eq_some usable).1 bound stands noRow between spares
  have unchanged : (run next cancelled (between ++ [late])).queueEntries =
      (run next cancelled between).queueEntries := by
    rw [run_append]
    change (next _ _).queueEntries = _
    obtain ⟨clock, evicted, enqueued, named, identified⟩ := enqueues
    cases done : (run next cancelled between).step late with
    | error thrown => rw [next, done]
    | ok result =>
      obtain ⟨answer, call, _⟩ := step_enqueued enqueued done
      rw [next_of_ok done]
      refine (@enqueue_turned_away _ since _ _ _ _ _ _ usableCaller ?_ ?_ call).2
      · rw [identified, sameInstance, ← (normalizeSessionName_eq_ok named).1]
        exact standing
      · exact soon _ (Operation.pruningClock?_of_enqueued enqueued)
  refine ⟨unchanged, ?_⟩
  rw [unchanged]
  exact unidentified

end Host

section FixedRuns

open Library.FixedRuns

def cancelFirst : Operation :=
  .cancelQueuedMessage "deck" "m1" (some ⟨"A", "e"⟩) queueCancellationTombstoneTtlMs

def undoings : List Operation :=
  [.cancelQueuedMessage "deck" "m1" (some ⟨"A", "e"⟩) 0,
    .enqueue 0 (plainMessage none "m1" queueCancellationTombstoneTtlMs)]

/-- Either way a row of the message is there after its own instance has enqueued it. -/
theorem cancelled_message_enqueued :
    ((empty.cancelQueuedMessage "deck" "m1" (some ⟨"A", "e"⟩)
      queueCancellationTombstoneTtlMs).toOption.map fun answer => answer.2.1) = some .accepted ∧
    ∀ undoing ∈ undoings,
      ∃ row ∈ (run next (empty.next cancelFirst)
        [undoing, .enqueue 0 (plainMessage (some ⟨"A", "e"⟩) "m1"
          (queueCancellationTombstoneTtlMs + 1))]).queueEntries.rows,
        row.key = ("deck", "m1") := by
  decide

def rebindFirst : Operation := .rebindRecipientRuntimeEpoch "deck" ⟨"A", "e"⟩ ⟨"A", "f"⟩

theorem rebindFirst_spares :
    rebindFirst.SparesCancellation "deck" "m1" "A" queueCancellationTombstoneTtlMs where
  noReset := id
  noDiscard := id
  sameInstance _ _ _ enqueued := by cases enqueued
  soon _ pruning := by cases pruning
  notEarlier _ _ _ _ cancels := by cases cancels

theorem cancellation_beats_late_enqueue_run :
    (run next (empty.next cancelFirst) ([rebindFirst] ++
        [.enqueue 0 (plainMessage (some ⟨"A", "f"⟩) "m1" queueCancellationTombstoneTtlMs)])).queueEntries =
        (run next (empty.next cancelFirst) [rebindFirst]).queueEntries ∧
      ∀ row, row ∈ (run next (empty.next cancelFirst) ([rebindFirst] ++
        [.enqueue 0 (plainMessage (some ⟨"A", "f"⟩) "m1"
          queueCancellationTombstoneTtlMs)])).queueEntries →
        row.key = (trim "deck", trim "m1") →
        ∃ first operation second, [rebindFirst] = first ++ operation :: second ∧
          operation.EnqueuesUnidentified (run next (empty.next cancelFirst) first) (trim "deck")
            (trim "m1") := by
  refine cancellation_beats_late_enqueue [] [rebindFirst] "deck" "m1" (some ⟨"A", "e"⟩) ⟨"A", "e"⟩
    ⟨"A", "f"⟩ queueCancellationTombstoneTtlMs _ _ (by decide) rfl ?_ _ _
    ⟨0, none, rfl, by decide, by decide⟩ (by decide) rfl ?_
  · intro operation listed
    cases List.mem_singleton.mp listed
    exact rebindFirst_spares
  · intro now pruning
    cases pruning
    decide

end FixedRuns

end TransportQueueStore

end ImCodes.Queue
