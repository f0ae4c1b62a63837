import ImCodes.Queue.Store.RowEffects

/-!
# Changing hands as changes

Adoption, binding and rebinding are restamps of the message tables within one
session instance, followed by the metadata.
-/

set_option autoImplicit false

namespace ImCodes.Queue

open Library

namespace TransportQueueStore

theorem ownerKept_of_adoptable {recipient : QueueRecipientIdentity} {columns : RecipientColumns}
    (usable : normalizeQueueRecipient (some recipient) = some recipient)
    (adoptable : isAdoptableMeta recipient columns = true) :
    OwnerKept columns recipient.columns := by
  simp only [isAdoptableMeta, Bool.or_eq_true, Bool.and_eq_true, decide_eq_true_eq] at adoptable
  rcases adoptable with legacy | ⟨sameInstance, _⟩
  · exact .inr (.inl (legacy ▸ rfl))
  · refine .inr (.inr ⟨sameInstance.symm, ?_⟩)
    change (truthy (some recipient.runtimeEpoch)).isSome = true
    rw [truthy_some (normalizeQueueRecipient_eq_some usable).2.1]
    rfl

theorem adoptMessages_queueMeta {store : TransportQueueStore} {session : String}
    {recipient : QueueRecipientIdentity} {sessionCreatedAt : Int}
    {messages : List (String × Option Int)} :
    (store.adoptMessages session recipient sessionCreatedAt messages).1.queueMeta =
      store.queueMeta := by
  refine foldl_unchanged (fun state : TransportQueueStore × AdoptionProgress => state.1.queueMeta)
    ?_ messages (store, ⟨0, 0⟩)
  intro state message
  unfold adoptMessage
  dsimp only
  split
  · rfl
  · rfl

theorem bindLaunchRows_eq {store : TransportQueueStore} {session : String} {recipient : QueueRecipientIdentity}
    (noDeliveries : store.queueDeliveryTombstones.holds (inSession session) = false)
    (noCancellations : store.queueCancellationTombstones.holds (inSession session) = false) :
    store.bindLaunchRows session recipient =
      { store.restampMessageRows (isLegacySessionRow session) recipient.columns with
        queueMeta := store.queueMeta.updateWhere
          (fun row => row.sessionName = session && row.recipient = .legacy)
          (fun row => { row with recipient := recipient.columns }) fun _ => rfl } := by
  have spared : ∀ row : QueueMessageRow, decide (row.sessionName = session) = false →
      isLegacySessionRow session row = false := by
    intro row outside
    rw [isLegacySessionRow, outside, Bool.false_and]
  have deliveries : store.queueDeliveryTombstones.updateWhere
      (fun row => isLegacySessionRow session (asMessageRow row))
      (fun row => { row with recipient := recipient.columns }) (fun _ => rfl) =
      store.queueDeliveryTombstones :=
    Table.updateWhere_eq_self fun row member =>
      spared _ (Table.holds_eq_false_iff.mp noDeliveries row member)
  have cancellations : store.queueCancellationTombstones.updateWhere
      (fun row => isLegacySessionRow session (asMessageRow row))
      (fun row => { row with recipient := recipient.columns }) (fun _ => rfl) =
      store.queueCancellationTombstones :=
    Table.updateWhere_eq_self fun row member =>
      spared _ (Table.holds_eq_false_iff.mp noCancellations row member)
  unfold bindLaunchRows restampMessageRows
  rw [deliveries, cancellations]

variable [Host] {allowed : Footprint} {store : TransportQueueStore} {sessionName : String}

theorem Changes.adoptMessages {start : TransportQueueStore} (changes : Changes allowed start store)
    {session : String} {recipient : QueueRecipientIdentity} {sessionCreatedAt : Int}
    {messages : List (String × Option Int)} (mayPurge : allowed.purges) :
    Changes allowed start
      (store.adoptMessages session recipient sessionCreatedAt messages).1 := by
  refine Changes.foldl Prod.fst ?_ changes
  intro state message changes
  have legacyTimeless : Timeless (isLegacyMessageRow session message.1) := by
    intro left right sameSession sameMessage sameRecipient
    simp only [isLegacyMessageRow, sameSession, sameMessage, sameRecipient]
  have rotatedTimeless : Timeless (isRotatedMessageRow session message.1 recipient) := by
    intro left right sameSession sameMessage sameRecipient
    simp only [isRotatedMessageRow, sameSession, sameMessage, sameRecipient]
  have isLegacy : ∀ row, isLegacyMessageRow session message.1 row = true →
      row.recipient = .legacy := by
    intro row selected
    simp only [isLegacyMessageRow, Bool.and_eq_true, decide_eq_true_eq] at selected
    exact selected.2
  unfold adoptMessage
  dsimp only
  apply Changes.change _ (.restamp _ recipient rotatedTimeless _)
  · split
    · exact changes.change (.purge _ legacyTimeless isLegacy mayPurge)
    · exact changes.change
        (.restamp _ recipient legacyTimeless fun row selected => .inl (isLegacy row selected))
  · intro row selected
    simp only [isRotatedMessageRow, RecipientColumns.rotated, Bool.and_eq_true,
      decide_eq_true_eq] at selected
    exact .inr selected.2.1

theorem Changes.finishAdoption {start : TransportQueueStore} (changes : Changes allowed start store)
    {session : String} {recipient : QueueRecipientIdentity} {held : QueueMetaRow}
    {progress : AdoptionProgress} (found : store.queueMeta.lookup session = some held)
    (kept : OwnerKept held.recipient recipient.columns) :
    Changes allowed start (store.finishAdoption session recipient held progress).1 := by
  have bindable : ∀ {current : TransportQueueStore} {stored : QueueMetaRow},
      Changes allowed start current → current.queueMeta.lookup session = some stored →
      stored.recipient = held.recipient →
      Changes allowed start (current.setMetaRecipient session recipient.columns) := by
    intro current stored changes storedFound sameOwner
    apply changes.change
    apply Change.touchMeta
    intro row member selected
    obtain ⟨storedMember, named⟩ := Table.lookup_eq_some_iff.mp storedFound
    have isStored : row = stored :=
      Table.eq_of_key member storedMember ((of_decide_eq_true selected).trans named.symm)
    exact ⟨rfl, rfl, rfl, Nat.le_refl _, isStored ▸ sameOwner ▸ kept⟩
  unfold TransportQueueStore.finishAdoption
  dsimp only
  split
  · split
    · exact changes.incrementVersion
    · exact changes
  · split
    · split
      · exact changes.incrementVersion
      · exact changes
    · split
      · exact bindable changes.incrementVersion (incrementVersion_stored found) rfl
      · exact bindable changes found rfl

theorem adoptLegacyRecipientIdentity_changes {recipientInput : QueueRecipientIdentity}
    {sessionCreatedAt : JsNumber} {limit : Option Int}
    {result : TransportQueueStore × AdoptLegacyRecipientResult} (mayPurge : allowed.purges)
    (done : store.adoptLegacyRecipientIdentity sessionName recipientInput sessionCreatedAt limit =
      .ok result) : Changes allowed store result.1 := by
  obtain ⟨session, _, done⟩ := bind_eq_ok.mp done
  split at done
  · next recipient createdAt usable _ =>
      split at done
      · cases done
        exact .refl
      · split at done
        · cases done
          exact .refl
        · next held found =>
            split at done
            · cases done
              exact .refl
            · next unambiguous =>
                simp only [Bool.or_eq_true, Bool.not_eq_true', not_or, Bool.not_eq_false]
                  at unambiguous
                cases done
                refine (Changes.refl.adoptMessages mayPurge).finishAdoption ?_
                  (ownerKept_of_adoptable (normalizeQueueRecipient_eq_some usable).2.2
                    unambiguous.1)
                rw [adoptMessages_queueMeta]
                exact found
  · cases done
    exact .refl

theorem Changes.rebindRows {start : TransportQueueStore} (changes : Changes allowed start store)
    {session : String} {previous next : QueueRecipientIdentity}
    (sameInstance : previous.sessionInstanceId = next.sessionInstanceId)
    (usable : normalizeQueueRecipient (some next) = some next) :
    Changes allowed start (store.rebindRows session previous next) := by
  unfold TransportQueueStore.rebindRows
  refine (changes.change (.restamp _ next ?_ ?_)).change (.touchMeta _ _ _ ?_)
  · intro left right sameSession _ sameRecipient
    dsimp only
    rw [sameSession, sameRecipient]
  · intro row selected
    simp only [Bool.and_eq_true, decide_eq_true_eq] at selected
    right
    rw [selected.2, ← sameInstance]
    rfl
  · intro row _ selected
    simp only [Bool.and_eq_true, decide_eq_true_eq] at selected
    refine ⟨rfl, rfl, rfl, Nat.le_refl _, .inr (.inr ⟨?_, ?_⟩)⟩
    · rw [selected.2]
      exact congrArg some sameInstance.symm
    · change (truthy (some next.runtimeEpoch)).isSome = true
      rw [truthy_some (normalizeQueueRecipient_eq_some usable).2.1]
      rfl

theorem rebindRecipientRuntimeEpoch_changes {previousInput nextInput : QueueRecipientIdentity}
    {result : TransportQueueStore × Bool}
    (done : store.rebindRecipientRuntimeEpoch sessionName previousInput nextInput = .ok result) :
    Changes allowed store result.1 := by
  obtain ⟨session, _, done⟩ := bind_eq_ok.mp done
  split at done
  · next previous next _ usable =>
      split at done
      · cases done
        exact .refl
      · next sameInstance =>
          split at done
          · obtain ⟨belongs, _, rfl⟩ := answer_ok done
            exact .refl
          · split at done
            · cases done
              exact .refl
            · split at done
              · cases done
                exact .refl
              · split at done
                · cases done
                  exact .refl
                · cases done
                  exact Changes.refl.rebindRows (not_not.mp sameInstance)
                    (normalizeQueueRecipient_eq_some usable).2.2
  · cases done
    exact .refl

theorem bindFreshLaunchRecipient_changes {recipientInput : QueueRecipientIdentity}
    {expectedClientMessageIds : List String} {result : TransportQueueStore × Bool}
    (done : store.bindFreshLaunchRecipient sessionName recipientInput expectedClientMessageIds =
      .ok result) : Changes allowed store result.1 := by
  obtain ⟨session, _, done⟩ := bind_eq_ok.mp done
  dsimp only at done
  split at done
  · next recipient held usable found =>
      split at done
      · cases done
        exact .refl
      · next admitted =>
          simp only [not_or, Bool.not_eq_false] at admitted
          have matched := admitted.2.2.2
          simp only [matchesLaunchGap, Bool.and_eq_true, Bool.not_eq_true'] at matched
          cases done
          dsimp only
          rw [bindLaunchRows_eq matched.1.2 matched.2]
          refine (Changes.refl.change (.restamp (isLegacySessionRow session) recipient ?_ ?_)).change
            (.touchMeta _ _ _ ?_)
          · intro left right sameSession _ sameRecipient
            simp only [isLegacySessionRow, sameSession, sameRecipient]
          · intro row selected
            simp only [isLegacySessionRow, Bool.and_eq_true, decide_eq_true_eq] at selected
            exact .inl selected.2
          · intro row _ selected
            simp only [Bool.and_eq_true, decide_eq_true_eq] at selected
            exact ⟨rfl, rfl, rfl, Nat.le_refl _, .inr (.inl (selected.2 ▸ rfl))⟩
  · cases done
    exact .refl

end TransportQueueStore

end ImCodes.Queue
