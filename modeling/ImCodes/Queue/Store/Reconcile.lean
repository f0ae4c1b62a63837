import ImCodes.Library.Run
import ImCodes.Queue.Store.Metadata
import ImCodes.Queue.Store.Ownership

/-!
# Reconciliation

Which rows and which private material the repair of delivered messages removes.
-/

set_option autoImplicit false

namespace ImCodes.Queue

open Library

namespace TransportQueueStore

theorem mem_removeDeliveredMessages {session : String} {row : QueueEntryRow}
    (clientMessageIds : List String) (store : TransportQueueStore) :
    row ∈ (store.removeDeliveredMessages session clientMessageIds).1.queueEntries ↔
      row ∈ store.queueEntries ∧
        ¬ (row.sessionName = session ∧ row.clientMessageId ∈ clientMessageIds ∧
          row.pending = true) := by
  suffices general : ∀ state : TransportQueueStore × List String,
      row ∈ (clientMessageIds.foldl (fun state clientMessageId =>
        if state.1.queueEntries.changes
            (fun row => isMessage session clientMessageId row && row.pending) = 0 then state
        else (state.1.removeDeliveredMessage session clientMessageId,
          state.2 ++ [clientMessageId])) state).1.queueEntries ↔
      row ∈ state.1.queueEntries ∧
        ¬ (row.sessionName = session ∧ row.clientMessageId ∈ clientMessageIds ∧
          row.pending = true) from general (store, [])
  induction clientMessageIds with
  | nil => simp
  | cons clientMessageId rest ih =>
    intro state
    have isTarget : ∀ other : QueueEntryRow,
        (isMessage session clientMessageId other && other.pending) = true ↔
          other.sessionName = session ∧ other.clientMessageId = clientMessageId ∧
            other.pending = true := by
      intro other
      rw [Bool.and_eq_true, isMessage_iff_entryKey, QueueEntryRow.key, Prod.mk.injEq, and_assoc]
    rw [List.foldl_cons, ih]
    split
    · next none =>
        have spared := Table.changes_eq_zero_iff.mp none
        simp only [List.mem_cons]
        constructor
        · rintro ⟨member, kept⟩
          refine ⟨member, ?_⟩
          rintro ⟨inside, rfl | listed, pending⟩
          · exact absurd ((isTarget row).mpr ⟨inside, rfl, pending⟩)
              (Bool.not_eq_true _ ▸ spared row member)
          · exact kept ⟨inside, listed, pending⟩
        · rintro ⟨member, kept⟩
          exact ⟨member, fun target => kept ⟨target.1, .inr target.2.1, target.2.2⟩⟩
    · change (row ∈ state.1.queueEntries.deleteWhere _ ∧ _) ↔ _
      rw [Table.mem_deleteWhere, ← Bool.not_eq_true, isTarget]
      simp only [List.mem_cons]
      tauto

theorem isDeliveredGhost_inSession {store : TransportQueueStore} {session : String}
    {row : QueueEntryRow} (ghost : store.isDeliveredGhost session row = true) :
    row.sessionName = session ∧ row.pending = true := by
  simp only [isDeliveredGhost, inSession, Bool.and_eq_true, decide_eq_true_eq] at ghost
  exact ghost.1

theorem isDeliveredGhost_of_listed {store : TransportQueueStore} {session : String}
    {row : QueueEntryRow} (member : row ∈ store.queueEntries) (inside : row.sessionName = session)
    (listed : row.clientMessageId ∈
      (store.queueEntries.select (store.isDeliveredGhost session)).map (·.clientMessageId)) :
    store.isDeliveredGhost session row = true := by
  obtain ⟨ghost, selected, sameMessage⟩ := List.mem_map.mp listed
  obtain ⟨ghostMember, isGhost⟩ := Table.mem_select.mp selected
  have same : ghost = row := Table.eq_of_key ghostMember member
    (Prod.ext ((isDeliveredGhost_inSession isGhost).1.trans inside.symm) sameMessage)
  exact same ▸ isGhost

theorem mem_reconcileDeliveredQueueRows [Host] {store : TransportQueueStore}
    {sessionName : String} {result : TransportQueueStore × List String}
    (done : store.reconcileDeliveredQueueRows sessionName = .ok result) {row : QueueEntryRow} :
    row ∈ result.1.queueEntries ↔
      row ∈ store.queueEntries ∧ store.isDeliveredGhost (trim sessionName) row = false := by
  have done := session_ok done
  have isGhost : row ∈ store.queueEntries → (store.isDeliveredGhost (trim sessionName) row = true ↔
      row.sessionName = trim sessionName ∧ row.clientMessageId ∈
        (store.queueEntries.select (store.isDeliveredGhost (trim sessionName))).map
          (·.clientMessageId) ∧ row.pending = true) := by
    intro member
    constructor
    · intro ghost
      obtain ⟨inside, pending⟩ := isDeliveredGhost_inSession ghost
      exact ⟨inside, List.mem_map.mpr ⟨row, Table.mem_select.mpr ⟨member, ghost⟩, rfl⟩, pending⟩
    · rintro ⟨inside, listed, _⟩
      exact isDeliveredGhost_of_listed member inside listed
  have removed : row ∈ (store.removeDeliveredMessages (trim sessionName)
      ((store.queueEntries.select (store.isDeliveredGhost (trim sessionName))).map
        (·.clientMessageId))).1.queueEntries ↔
      row ∈ store.queueEntries ∧ store.isDeliveredGhost (trim sessionName) row = false := by
    rw [mem_removeDeliveredMessages]
    refine and_congr_right fun member => ?_
    rw [← isGhost member, Bool.not_eq_true]
  dsimp only at done
  split at done
  · next none =>
      cases done
      rw [none] at removed
      exact removed
  · cases done
    unfold removeDeliveredQueueRows
    dsimp only
    split
    · exact removed
    · rw [(bumpVersion_sameMessages _ _).queueEntries]
      exact removed

theorem material_of_removeDeliveredMessages {before : TransportQueueStore} {session : String}
    {held : QueuePrivateMaterialRow} (clientMessageIds : List String) :
    ∀ state : TransportQueueStore × List String,
      (∀ row, row ∈ state.1.queueEntries → row ∈ before.queueEntries) →
      held ∈ state.1.queuePrivateMaterial →
      held ∈ (clientMessageIds.foldl (fun state clientMessageId =>
        if state.1.queueEntries.changes
            (fun row => isMessage session clientMessageId row && row.pending) = 0 then state
        else (state.1.removeDeliveredMessage session clientMessageId,
          state.2 ++ [clientMessageId])) state).1.queuePrivateMaterial ∨
      ∃ row, row ∈ before.queueEntries ∧ row.key = held.key ∧ row.sessionName = session ∧
        row.clientMessageId ∈ clientMessageIds ∧ row.pending = true := by
  induction clientMessageIds with
  | nil => exact fun _ _ member => .inl member
  | cons clientMessageId rest ih =>
    intro state subset member
    have later : (∃ row, row ∈ before.queueEntries ∧ row.key = held.key ∧
        row.sessionName = session ∧ row.clientMessageId ∈ rest ∧ row.pending = true) →
        ∃ row, row ∈ before.queueEntries ∧ row.key = held.key ∧ row.sessionName = session ∧
          row.clientMessageId ∈ clientMessageId :: rest ∧ row.pending = true := by
      rintro ⟨row, rowMember, sameKey, inside, listed, pending⟩
      exact ⟨row, rowMember, sameKey, inside, List.mem_cons_of_mem _ listed, pending⟩
    rw [List.foldl_cons]
    split
    · exact (ih state subset member).imp_right later
    · next some =>
        by_cases isTarget : isMessage session clientMessageId held = true
        · right
          rw [Table.changes_eq_zero_iff] at some
          push Not at some
          obtain ⟨row, rowMember, selected⟩ := some
          simp only [Bool.not_eq_false, Bool.and_eq_true, isMessage_iff_entryKey] at selected
          rw [isMessage_iff_materialKey] at isTarget
          have keys := selected.1
          simp only [QueueEntryRow.key, Prod.mk.injEq] at keys
          exact ⟨row, subset row rowMember, selected.1.trans isTarget.symm, keys.1,
            keys.2 ▸ List.mem_cons_self, selected.2⟩
        · refine (ih _ ?_ ?_).imp_right later
          · exact fun row rowMember => subset row (Table.mem_deleteWhere.mp rowMember).1
          · exact Table.mem_deleteWhere.mpr ⟨member, Bool.not_eq_true _ ▸ isTarget⟩

theorem material_of_reconcileDeliveredQueueRows [Host] {store : TransportQueueStore}
    {sessionName : String} {result : TransportQueueStore × List String}
    (done : store.reconcileDeliveredQueueRows sessionName = .ok result)
    {held : QueuePrivateMaterialRow} (member : held ∈ store.queuePrivateMaterial) :
    held ∈ result.1.queuePrivateMaterial ∨ ∃ row, row ∈ store.queueEntries ∧
      row.key = held.key ∧ store.isDeliveredGhost (trim sessionName) row = true := by
  have done := session_ok done
  have removed : held ∈ (store.removeDeliveredMessages (trim sessionName)
      ((store.queueEntries.select (store.isDeliveredGhost (trim sessionName))).map
        (·.clientMessageId))).1.queuePrivateMaterial ∨ ∃ row, row ∈ store.queueEntries ∧
      row.key = held.key ∧ store.isDeliveredGhost (trim sessionName) row = true := by
    refine (material_of_removeDeliveredMessages _ (store, [])
      (fun _ rowMember => rowMember) member).imp_right ?_
    rintro ⟨row, rowMember, sameKey, inside, listed, _⟩
    exact ⟨row, rowMember, sameKey, isDeliveredGhost_of_listed rowMember inside listed⟩
  dsimp only at done
  split at done
  · cases done
    exact .inl member
  · cases done
    unfold removeDeliveredQueueRows
    dsimp only
    split
    · exact removed
    · rw [(bumpVersion_sameMessages _ _).queuePrivateMaterial]
      exact removed

theorem reconcileDeliveredQueueRows_tombstones [Host] {store : TransportQueueStore}
    {sessionName : String} {result : TransportQueueStore × List String}
    (done : store.reconcileDeliveredQueueRows sessionName = .ok result) :
    result.1.queueDeliveryTombstones = store.queueDeliveryTombstones ∧
      result.1.queueCancellationTombstones = store.queueCancellationTombstones := by
  obtain ⟨session, _, done⟩ := bind_eq_ok.mp done
  have removed : ∀ clientMessageIds, ((store.removeDeliveredMessages session
      clientMessageIds).1.queueDeliveryTombstones, (store.removeDeliveredMessages session
      clientMessageIds).1.queueCancellationTombstones) =
      (store.queueDeliveryTombstones, store.queueCancellationTombstones) := by
    intro clientMessageIds
    refine foldl_unchanged (fun state : TransportQueueStore × List String =>
      (state.1.queueDeliveryTombstones, state.1.queueCancellationTombstones)) ?_ _ _
    intro state clientMessageId
    split
    · rfl
    · rfl
  dsimp only at done
  split at done
  · cases done
    exact ⟨rfl, rfl⟩
  · cases done
    unfold removeDeliveredQueueRows
    dsimp only
    split
    · exact Prod.ext_iff.mp (removed _)
    · rw [(bumpVersion_sameMessages _ _).queueDeliveryTombstones,
        (bumpVersion_sameMessages _ _).queueCancellationTombstones]
      exact Prod.ext_iff.mp (removed _)

end TransportQueueStore

end ImCodes.Queue
