import ImCodes.Queue.Store.Projection

/-!
# What the metadata operations do

One lemma for each way `ensureMeta` and `bumpVersion` can go, and for the row they
return: the metadata of the session as the store then holds it.
-/

set_option autoImplicit false

namespace ImCodes.Queue

open Library

namespace TransportQueueStore

/-- The same rows in the four message tables. -/
structure SameMessages (before after : TransportQueueStore) : Prop where
  queueEntries : after.queueEntries = before.queueEntries
  queuePrivateMaterial : after.queuePrivateMaterial = before.queuePrivateMaterial
  queueDeliveryTombstones : after.queueDeliveryTombstones = before.queueDeliveryTombstones
  queueCancellationTombstones :
    after.queueCancellationTombstones = before.queueCancellationTombstones

theorem SameMessages.trans {first second third : TransportQueueStore}
    (left : SameMessages first second) (right : SameMessages second third) :
    SameMessages first third :=
  ⟨right.1.trans left.1, right.2.trans left.2, right.3.trans left.3, right.4.trans left.4⟩

theorem mem_readRows {store : TransportQueueStore} {session : String}
    {recipientFilter : Option (Option QueueRecipientIdentity)} {entry : QueueStoredEntry}
    (listed : entry ∈ store.readRows session recipientFilter) :
    entry.row ∈ store.queueEntries ∧ entry.row.sessionName = session ∧
      recipientFilter.all (fun caller => recipientPredicate caller entry.row.recipient) = true ∧
      entry = parseStoredEntry entry.row ((store.queuePrivateMaterial.lookup entry.row.key).filter
        fun held => held.recipient = entry.row.recipient) := by
  obtain ⟨row, sorted, rfl⟩ := List.mem_map.mp listed
  obtain ⟨member, selected⟩ := Table.mem_select.mp ((List.mem_insertionSort _).mp sorted)
  simp only [Bool.and_eq_true, inSession, decide_eq_true_eq] at selected
  exact ⟨member, selected.1.1, selected.2, rfl⟩

theorem mem_readRows_of_mem {store : TransportQueueStore} {session : String}
    {recipientFilter : Option (Option QueueRecipientIdentity)} {row : QueueEntryRow}
    (member : row ∈ store.queueEntries) (inside : row.sessionName = session)
    (opened : (store.queueMeta.lookup session).isSome = true)
    (addressed : recipientFilter.all (fun caller => recipientPredicate caller row.recipient) =
      true) :
    parseStoredEntry row ((store.queuePrivateMaterial.lookup row.key).filter
      fun held => held.recipient = row.recipient) ∈ store.readRows session recipientFilter := by
  refine List.mem_map.mpr ⟨row, (List.mem_insertionSort _).mpr (Table.mem_select.mpr ⟨member, ?_⟩),
    rfl⟩
  simp [inSession, MessageRow.sessionName, inside, opened, addressed]

theorem readRows_pairwise (store : TransportQueueStore) (session : String)
    (recipientFilter : Option (Option QueueRecipientIdentity)) :
    (store.readRows session recipientFilter).Pairwise fun left right =>
      left.row.key ≠ right.row.key := by
  unfold readRows
  apply List.pairwise_map.mpr
  refine (List.perm_insertionSort _ _).symm.pairwise ?_ fun distinct => distinct.symm
  exact Table.select_pairwise store.queueEntries _

theorem incrementVersion_stored {store : TransportQueueStore} {session : String}
    {row : QueueMetaRow} (found : store.queueMeta.lookup session = some row) :
    (store.incrementVersion session).queueMeta.lookup session =
      some { row with pendingMessageVersion := row.pendingMessageVersion + 1 } := by
  have named : row.sessionName = session := (Table.lookup_eq_some_iff.mp found).2
  simp [incrementVersion, Table.lookup_updateWhere, found, named]

section Host

variable [Host]

/-- The statement with which `ensureMeta` starts the metadata of a session. -/
def mintMeta (store : TransportQueueStore) (minted : QueueMetaRow) : TransportQueueStore :=
  { store with
    queueMeta := store.queueMeta.insertOrIgnore minted
    uuidsIssued := store.uuidsIssued + 2 }

theorem ensureMeta_of_none {store : TransportQueueStore} {session : String}
    (absent : store.queueMeta.lookup session = none) (recipient : Option QueueRecipientIdentity) :
    store.ensureMeta session recipient =
      (store.mintMeta (store.mintedMeta session (normalizeQueueRecipient recipient)),
        store.mintedMeta session (normalizeQueueRecipient recipient)) := by
  simp only [ensureMeta, absent]
  rfl

theorem ensureMeta_of_some {store : TransportQueueStore} {session : String}
    {existing : QueueMetaRow} (found : store.queueMeta.lookup session = some existing)
    (recipient : Option QueueRecipientIdentity) :
    store.ensureMeta session recipient = (store, existing) ∨
      (existing.recipient.unset = true ∧
        ∃ identity, normalizeQueueRecipient recipient = some identity ∧
          store.ensureMeta session recipient = (store.setMetaRecipient session identity.columns, existing)) := by
  simp only [ensureMeta, found]
  cases bound : normalizeQueueRecipient recipient with
  | none => exact .inl rfl
  | some identity =>
    cases unset : existing.recipient.unset with
    | false => exact .inl rfl
    | true => exact .inr ⟨rfl, identity, rfl, rfl⟩

theorem ensureMeta_none_of_some {store : TransportQueueStore} {session : String}
    {existing : QueueMetaRow} (found : store.queueMeta.lookup session = some existing) :
    store.ensureMeta session none = (store, existing) := by
  rcases ensureMeta_of_some found none with same | ⟨_, identity, impossible, _⟩
  · exact same
  · cases impossible

theorem ensureMeta_stored (store : TransportQueueStore) (session : String)
    (recipient : Option QueueRecipientIdentity) :
    ∃ stored, (store.ensureMeta session recipient).1.queueMeta.lookup session = some stored ∧
      stored.sessionName = session ∧
      { stored with recipient := (store.ensureMeta session recipient).2.recipient } =
        (store.ensureMeta session recipient).2 := by
  cases found : store.queueMeta.lookup session with
  | none =>
    rw [ensureMeta_of_none found]
    exact ⟨_, Table.lookup_insertOrIgnore_fresh found rfl, rfl, rfl⟩
  | some existing =>
    have named := (Table.lookup_eq_some_iff.mp found).2
    rcases ensureMeta_of_some found recipient with same | ⟨_, identity, _, adopted⟩
    · rw [same]
      exact ⟨existing, found, named, rfl⟩
    · rw [adopted]
      refine ⟨{ existing with recipient := identity.columns }, ?_, named, rfl⟩
      simp [setMetaRecipient, Table.lookup_updateWhere, found, show existing.sessionName = session
        from named]

theorem ensureMeta_none_stored (store : TransportQueueStore) (session : String) :
    (store.ensureMeta session none).1.queueMeta.lookup session =
      some (store.ensureMeta session none).2 := by
  cases found : store.queueMeta.lookup session with
  | none =>
    rw [ensureMeta_of_none found]
    exact Table.lookup_insertOrIgnore_fresh found rfl
  | some existing =>
    rw [ensureMeta_none_of_some found]
    exact found

theorem bumpVersion_eq (store : TransportQueueStore) (session : String) :
    store.bumpVersion session =
      ((store.ensureMeta session none).1.incrementVersion session,
        { (store.ensureMeta session none).2 with
          pendingMessageVersion :=
            (store.ensureMeta session none).2.pendingMessageVersion + 1 }) :=
  ensureMeta_none_of_some (incrementVersion_stored (ensureMeta_none_stored store session))

theorem bumpVersion_stored (store : TransportQueueStore) (session : String) :
    (store.bumpVersion session).1.queueMeta.lookup session =
      some (store.bumpVersion session).2 := by
  rw [bumpVersion_eq]
  exact incrementVersion_stored (ensureMeta_none_stored store session)

/-! ## The message tables are not touched -/

section Frame

variable (store : TransportQueueStore) (session : String)
  (recipient : Option QueueRecipientIdentity)

theorem ensureMeta_sameMessages :
    SameMessages store (store.ensureMeta session recipient).1 := by
  cases found : store.queueMeta.lookup session with
  | none =>
    rw [ensureMeta_of_none found]
    exact ⟨rfl, rfl, rfl, rfl⟩
  | some existing =>
    rcases ensureMeta_of_some found recipient with same | ⟨_, identity, _, adopted⟩
    · rw [same]
      exact ⟨rfl, rfl, rfl, rfl⟩
    · rw [adopted]
      exact ⟨rfl, rfl, rfl, rfl⟩

theorem ensureMeta_uuidsIssued :
    store.uuidsIssued ≤ (store.ensureMeta session recipient).1.uuidsIssued := by
  cases found : store.queueMeta.lookup session with
  | none =>
    rw [ensureMeta_of_none found]
    exact Nat.le_add_right _ _
  | some existing =>
    rcases ensureMeta_of_some found recipient with same | ⟨_, identity, _, adopted⟩
    · rw [same]
    · rw [adopted]
      rfl

theorem bumpVersion_sameMessages : SameMessages store (store.bumpVersion session).1 := by
  rw [bumpVersion_eq]
  exact (ensureMeta_sameMessages store session none).trans ⟨rfl, rfl, rfl, rfl⟩

theorem buildSnapshot_sameMessages (source : String) (override : Option QueueSnapshotOverride)
    (recipientFilter : Option (Option QueueRecipientIdentity)) :
    SameMessages store (store.buildSnapshot session source override recipientFilter).1 := by
  cases override with
  | none => exact ensureMeta_sameMessages store session none
  | some given => exact ⟨rfl, rfl, rfl, rfl⟩

theorem snapshotAfter_sameMessages (source : String) (override : Option QueueSnapshotOverride) :
    SameMessages store (store.snapshotAfter session source override).1 :=
  buildSnapshot_sameMessages store session source override none

end Frame

end Host

end TransportQueueStore

end ImCodes.Queue
