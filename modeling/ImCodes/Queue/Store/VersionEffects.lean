import ImCodes.Queue.Store.Epochs

/-!
# Versions and what they stand for

A read lists the live and the failed rows of a session, every one or those of its
caller. An operation that works on one session leaves the rows of the others alone; one
that ends by counting the version up may do anything with the rows of its own.
-/

set_option autoImplicit false

namespace ImCodes.Queue

open Library

/-- What a read can list of a row. -/
structure ListedRow where
  clientMessageId : String
  text : String
  status : QueueEntryStatus
  placement : QueuePlacement
  ordinal : Nat
  createdAt : Int
deriving DecidableEq, Repr

def QueueEntryRow.listed (row : QueueEntryRow) : ListedRow where
  clientMessageId := row.clientMessageId
  text := row.text
  status := row.status
  placement := row.placement
  ordinal := row.ordinal
  createdAt := row.createdAt

def ListedRow.position (item : ListedRow) : QueuePosition where
  placement := item.placement
  ordinal := item.ordinal
  createdAt := item.createdAt
  clientMessageId := item.clientMessageId

def QueueEntryRow.isListed (row : QueueEntryRow) : Bool :=
  row.status.isLive || row.status.isFailed

def seenBy (view : Option (Option QueueRecipientIdentity)) (columns : RecipientColumns) : Bool :=
  view.all fun caller => recipientPredicate caller columns

namespace TransportQueueStore

def Lists (store : TransportQueueStore) (session : String)
    (view : Option (Option QueueRecipientIdentity)) (item : ListedRow) : Prop :=
  ∃ row, row ∈ store.queueEntries ∧ row.sessionName = session ∧ row.isListed = true ∧
    seenBy view row.recipient = true ∧ row.listed = item

/-- Under one version of one epoch a read lists the same rows. -/
def FaithfulTo (view : Option (Option QueueRecipientIdentity)) (session : String)
    (before after : TransportQueueStore) : Prop :=
  ∀ held later, before.queueMeta.lookup session = some held →
    after.queueMeta.lookup session = some later → later.queueEpoch = held.queueEpoch →
    later.pendingMessageVersion = held.pendingMessageVersion →
    ∀ item, after.Lists session view item ↔ before.Lists session view item

def Faithful (session : String) (before after : TransportQueueStore) : Prop :=
  ∀ view, FaithfulTo view session before after

theorem lists_iff_of_rows {session : String} {before after : TransportQueueStore}
    (same : ∀ row : QueueEntryRow, row.sessionName = session →
      (row ∈ after.queueEntries ↔ row ∈ before.queueEntries))
    {view : Option (Option QueueRecipientIdentity)} {item : ListedRow} :
    after.Lists session view item ↔ before.Lists session view item := by
  constructor
  · rintro ⟨row, member, inside, listed⟩
    exact ⟨row, (same row inside).mp member, inside, listed⟩
  · rintro ⟨row, member, inside, listed⟩
    exact ⟨row, (same row inside).mpr member, inside, listed⟩

theorem FaithfulTo.of_lists {session : String} {before after : TransportQueueStore}
    {view : Option (Option QueueRecipientIdentity)}
    (same : ∀ item, after.Lists session view item ↔ before.Lists session view item) :
    FaithfulTo view session before after :=
  fun _ _ _ _ _ _ => same

theorem Faithful.of_rows {session : String} {before after : TransportQueueStore}
    (same : ∀ row : QueueEntryRow, row.sessionName = session →
      (row ∈ after.queueEntries ↔ row ∈ before.queueEntries)) : Faithful session before after :=
  fun _ => .of_lists fun _ => lists_iff_of_rows same

theorem Faithful.of_entries {session : String} {before after : TransportQueueStore}
    (same : after.queueEntries = before.queueEntries) : Faithful session before after := by
  apply Faithful.of_rows
  intro row _
  rw [same]

/-- Only the rows of one session are touched, and its version is not set back. -/
structure Stirs (session : String) (before after : TransportQueueStore) : Prop where
  elsewhere : ∀ row : QueueEntryRow, row.sessionName ≠ session →
    (row ∈ after.queueEntries ↔ row ∈ before.queueEntries)
  carried : ∀ held, before.queueMeta.lookup session = some held →
    ∃ later, after.queueMeta.lookup session = some later ∧
      held.pendingMessageVersion ≤ later.pendingMessageVersion

section Stirs

variable {session : String} {start store after : TransportQueueStore}

theorem Stirs.refl : Stirs session start start :=
  ⟨fun _ _ => Iff.rfl, fun held found => ⟨held, found, Nat.le_refl _⟩⟩

theorem Stirs.trans (left : Stirs session start store) (right : Stirs session store after) :
    Stirs session start after := by
  refine ⟨fun row outside => (right.elsewhere row outside).trans (left.elsewhere row outside), ?_⟩
  intro held found
  obtain ⟨middle, middleFound, low⟩ := left.carried held found
  obtain ⟨later, laterFound, high⟩ := right.carried middle middleFound
  exact ⟨later, laterFound, low.trans high⟩

theorem Stirs.rows (stirs : Stirs session start store) (sameMeta : after.queueMeta = store.queueMeta)
    (elsewhere : ∀ row : QueueEntryRow, row.sessionName ≠ session →
      (row ∈ after.queueEntries ↔ row ∈ store.queueEntries)) : Stirs session start after := by
  refine stirs.trans ⟨elsewhere, fun held found => ⟨held, ?_, Nat.le_refl _⟩⟩
  rw [sameMeta]
  exact found

theorem Stirs.updateEntries (stirs : Stirs session start store) {p : QueueEntryRow → Bool}
    {update : QueueEntryRow → QueueEntryRow} {keeps : ∀ row, (update row).key = row.key}
    (inside : ∀ row, p row = true → row.sessionName = session) :
    Stirs session start (store.updateEntries p update keeps) := by
  refine stirs.rows rfl fun row outside => ?_
  rw [mem_updateEntries]
  constructor
  · rintro ⟨old, member, rfl⟩
    split at outside
    · next selected =>
        exact absurd ((congrArg Prod.fst (keeps old)).trans (inside old selected)) outside
    · next unselected => rwa [if_neg unselected]
  · intro member
    refine ⟨row, member, if_neg fun selected => outside (inside row selected)⟩

theorem Stirs.deleteEntries (stirs : Stirs session start store)
    (sameMeta : after.queueMeta = store.queueMeta) {p : QueueEntryRow → Bool}
    (deleted : after.queueEntries = store.queueEntries.deleteWhere p)
    (inside : ∀ row, p row = true → row.sessionName = session) : Stirs session start after := by
  refine stirs.rows sameMeta fun row outside => ?_
  rw [deleted, Table.mem_deleteWhere, Bool.eq_false_iff]
  exact and_iff_left fun selected => outside (inside row selected)

theorem isMessage_inside {clientMessageId : String} {row : QueueEntryRow}
    (selected : isMessage session clientMessageId row = true) : row.sessionName = session :=
  congrArg Prod.fst (isMessage_iff_entryKey.mp selected)

theorem Stirs.deleteMessage (stirs : Stirs session start store) (clientMessageId : String)
    (gate : RecipientColumns → Bool) :
    Stirs session start (store.deleteMessage session clientMessageId gate) :=
  stirs.deleteEntries rfl rfl fun _ selected =>
    isMessage_inside (Bool.and_eq_true_iff.mp selected).1

theorem Stirs.deleteSessionMessages (stirs : Stirs session start store) :
    Stirs session start (store.deleteSessionMessages session) :=
  stirs.deleteEntries rfl rfl fun _ selected => of_decide_eq_true selected

theorem Stirs.foldl {State Item : Type} (storeOf : State → TransportQueueStore)
    {round : State → Item → State}
    (each : ∀ state item, Stirs session start (storeOf state) →
      Stirs session start (storeOf (round state item)))
    {items : List Item} {state : State} (stirs : Stirs session start (storeOf state)) :
    Stirs session start (storeOf (items.foldl round state)) := by
  induction items generalizing state with
  | nil => exact stirs
  | cons item rest ih => exact ih (each state item stirs)

theorem Stirs.faithful_elsewhere {other : String} (stirs : Stirs session start after)
    (different : other ≠ session) : Faithful other start after :=
  .of_rows fun row inside => stirs.elsewhere row (inside ▸ different)

theorem Stirs.counted (stirs : Stirs session start store)
    (entries : after.queueEntries = store.queueEntries)
    (counted : ∀ held, store.queueMeta.lookup session = some held →
      ∃ later, after.queueMeta.lookup session = some later ∧
        held.pendingMessageVersion < later.pendingMessageVersion) (other : String) :
    Faithful other start after := by
  by_cases same : other = session
  · subst same
    intro view held later found laterFound _ sameVersion
    obtain ⟨middle, middleFound, low⟩ := stirs.carried held found
    obtain ⟨last, lastFound, high⟩ := counted middle middleFound
    cases lastFound.symm.trans laterFound
    omega
  · refine Stirs.faithful_elsewhere ⟨?_, ?_⟩ same
    · rw [entries]
      exact stirs.elsewhere
    · intro held found
      obtain ⟨middle, middleFound, low⟩ := stirs.carried held found
      obtain ⟨last, lastFound, high⟩ := counted middle middleFound
      exact ⟨last, lastFound, low.trans high.le⟩

variable [Host]

theorem Stirs.ensureMeta (stirs : Stirs session start store)
    (recipient : Option QueueRecipientIdentity) :
    Stirs session start (store.ensureMeta session recipient).1 := by
  refine stirs.trans ⟨fun row _ => ?_, fun held found => ?_⟩
  · rw [(ensureMeta_sameMessages store session recipient).queueEntries]
  · obtain ⟨stored, storedFound, _, returned⟩ := ensureMeta_stored store session recipient
    refine ⟨stored, storedFound, ?_⟩
    rw [ensureMeta_returned found] at returned
    exact (congrArg QueueMetaRow.pendingMessageVersion returned).ge

theorem Stirs.bumpVersion (stirs : Stirs session start store) (other : String) :
    Faithful other start (store.bumpVersion session).1 := by
  refine stirs.counted (bumpVersion_sameMessages store session).queueEntries ?_ other
  intro held found
  refine ⟨_, bumpVersion_stored store session, ?_⟩
  rw [bumpVersion_eq, ensureMeta_none_of_some found]
  exact Nat.lt_succ_self _

end Stirs

end TransportQueueStore

/-! ## Operations that count the version up

Every operation that changes a row a read can list counts the version of the session
up afterwards, the ones that only move rows to another recipient apart.
-/

namespace TransportQueueStore

theorem rewritePrivateMaterial_same {store rewritten : TransportQueueStore}
    {session clientMessageId text : String} {now : Int} {replacement : Option EditReplacement}
    (done : store.rewritePrivateMaterialTextStrippingSecrets session clientMessageId text now
      replacement = .ok rewritten) :
    rewritten.queueEntries = store.queueEntries ∧ rewritten.queueMeta = store.queueMeta := by
  unfold rewritePrivateMaterialTextStrippingSecrets at done
  split at done
  · cases done
    exact ⟨rfl, rfl⟩
  · cases done
    exact ⟨rfl, rfl⟩
  · cases done
    exact ⟨rfl, rfl⟩
  · cases done
    exact ⟨rfl, rfl⟩
  · cases done

theorem updateEntries_unchanged {store : TransportQueueStore} {p : QueueEntryRow → Bool}
    {update : QueueEntryRow → QueueEntryRow} {keeps : ∀ row, (update row).key = row.key}
    (none : store.queueEntries.changes p = 0) : store.updateEntries p update keeps = store := by
  unfold updateEntries
  rw [Table.updateWhere_eq_self (Table.changes_eq_zero_iff.mp none)]

theorem countedUpdates_unchanged {Item : Type} (selects : Item → QueueEntryRow → Bool)
    {update : QueueEntryRow → QueueEntryRow} {keeps : ∀ row, (update row).key = row.key}
    {items : List Item} {state : TransportQueueStore × Nat}
    (none : (items.foldl (fun state item => (state.1.updateEntries (selects item) update keeps,
      state.2 + state.1.queueEntries.changes (selects item))) state).2 = 0) :
    (items.foldl (fun state item => (state.1.updateEntries (selects item) update keeps,
      state.2 + state.1.queueEntries.changes (selects item))) state).1 = state.1 ∧ state.2 = 0 := by
  induction items generalizing state with
  | nil => exact ⟨rfl, none⟩
  | cons item rest ih =>
    obtain ⟨same, total⟩ := ih none
    dsimp only at same total
    obtain ⟨before, unselected⟩ := Nat.add_eq_zero_iff.mp total
    exact ⟨same.trans (updateEntries_unchanged unselected), before⟩

theorem Stirs.countedUpdates {start store : TransportQueueStore} {session : String} {Item : Type}
    (stirs : Stirs session start store) {selects : Item → QueueEntryRow → Bool}
    {update : QueueEntryRow → QueueEntryRow} {keeps : ∀ row, (update row).key = row.key}
    (inside : ∀ item row, selects item row = true → row.sessionName = session)
    (items : List Item) :
    Stirs session start (items.foldl (fun state item =>
      (state.1.updateEntries (selects item) update keeps,
        state.2 + state.1.queueEntries.changes (selects item))) (store, 0)).1 :=
  Stirs.foldl Prod.fst (fun _ item stirs => stirs.updateEntries (inside item)) stirs

theorem isReleasable_inside {session handoffId clientMessageId : String} {row : QueueEntryRow}
    (releasable : isReleasable session handoffId clientMessageId row = true) :
    row.sessionName = session := by
  simp only [isReleasable, Bool.and_eq_true] at releasable
  exact isMessage_inside releasable.1.1

theorem isExpiredHandoff_inside {session : String} {now : Int} {includeUnexpired : Bool}
    {row : QueueEntryRow} (expired : isExpiredHandoff session now includeUnexpired row = true) :
    row.sessionName = session := by
  simp only [isExpiredHandoff, inSession, Bool.and_eq_true, decide_eq_true_eq] at expired
  exact expired.1.1

theorem clearDeliveryTombstone_faithful {store : TransportQueueStore} {sessionName clientMessageId : String}
    {result : TransportQueueStore × Bool}
    (done : store.clearDeliveryTombstone sessionName clientMessageId = .ok result)
    (other : String) : Faithful other store result.1 := by
  have done := message_ok (session_ok done)
  dsimp only at done
  split at done
  · cases done
    exact .of_entries rfl
  · cases done
    exact .of_entries rfl

theorem Stirs.cancelMessage {start store : TransportQueueStore} {session : String}
    (stirs : Stirs session start store) (clientMessageId : String)
    (recipient : Option QueueRecipientIdentity) (now : Int) :
    Stirs session start (store.cancelMessage session clientMessageId recipient now) :=
  (stirs.deleteMessage clientMessageId _).rows rfl fun _ _ => Iff.rfl

theorem removeDeliveredMessages_unchanged {session : String} {clientMessageIds : List String}
    {state : TransportQueueStore × List String}
    (none : (clientMessageIds.foldl (fun state clientMessageId =>
      if state.1.queueEntries.changes
          (fun row => isMessage session clientMessageId row && row.pending) = 0 then state
      else (state.1.removeDeliveredMessage session clientMessageId, state.2 ++ [clientMessageId]))
      state).2 = []) :
    (clientMessageIds.foldl (fun state clientMessageId =>
      if state.1.queueEntries.changes
          (fun row => isMessage session clientMessageId row && row.pending) = 0 then state
      else (state.1.removeDeliveredMessage session clientMessageId, state.2 ++ [clientMessageId]))
      state).1 = state.1 ∧ state.2 = [] := by
  induction clientMessageIds generalizing state with
  | nil => exact ⟨rfl, none⟩
  | cons clientMessageId rest ih =>
    obtain ⟨same, before⟩ := ih none
    dsimp only at same before
    split at before
    · next unselected =>
        rw [if_pos unselected] at same
        rw [List.foldl_cons, if_pos unselected]
        exact ⟨same, before⟩
    · exact absurd before (List.append_ne_nil_of_right_ne_nil _ (List.cons_ne_nil _ _))

section Host

variable [Host] {store : TransportQueueStore} {sessionName : String}

theorem readSnapshot_faithful (store : TransportQueueStore) (session other source : String) :
    Faithful other store (store.snapshotAfter session source none).1 :=
  .of_entries (snapshotAfter_sameMessages store session source none).queueEntries

/-! ## Rows in place -/

theorem bumpVersion_carried (session : String) {other : String} {held : QueueMetaRow}
    (found : store.queueMeta.lookup other = some held) :
    ∃ later, (store.bumpVersion session).1.queueMeta.lookup other = some later ∧
      held.pendingMessageVersion ≤ later.pendingMessageVersion ∧
      (session = other → held.pendingMessageVersion < later.pendingMessageVersion) := by
  by_cases same : session = other
  · subst same
    refine ⟨_, bumpVersion_stored store session, ?_⟩
    rw [bumpVersion_eq, ensureMeta_none_of_some found]
    exact ⟨Nat.le_succ _, fun _ => Nat.lt_succ_self _⟩
  · have bumped : Changes Footprint.common store (store.bumpVersion session).1 :=
      Changes.refl.bumpVersion
    obtain ⟨later, goesOn⟩ := (bumped.carries id id).goesOn held found
    exact ⟨later, goesOn.laterFound, goesOn.version, fun impossible => absurd impossible same⟩

theorem foldl_bumpVersion {sessions : List String} {other : String} {held : QueueMetaRow}
    (found : store.queueMeta.lookup other = some held) :
    ∃ later, (sessions.foldl (fun store session =>
        (store.bumpVersion session).1) store).queueMeta.lookup other = some later ∧
      held.pendingMessageVersion ≤ later.pendingMessageVersion ∧
      (other ∈ sessions → held.pendingMessageVersion < later.pendingMessageVersion) := by
  induction sessions generalizing store held with
  | nil => exact ⟨held, found, Nat.le_refl _, fun impossible => by cases impossible⟩
  | cons first rest ih =>
    obtain ⟨middle, middleFound, low, strict⟩ := bumpVersion_carried first found
    obtain ⟨later, laterFound, high, counted⟩ := ih middleFound
    refine ⟨later, laterFound, low.trans high, fun listed => ?_⟩
    rcases List.mem_cons.mp listed with same | inRest
    · exact (strict same.symm).trans_le high
    · exact low.trans_lt (counted inRest)

theorem foldl_bumpVersion_entries (sessions : List String) (store : TransportQueueStore) :
    (sessions.foldl (fun store session => (store.bumpVersion session).1) store).queueEntries =
      store.queueEntries :=
  foldl_unchanged (fun state : TransportQueueStore => state.queueEntries)
    (fun state session => (bumpVersion_sameMessages state session).queueEntries) sessions store

theorem expireStaleDelegationEntries_faithful (now thresholdMs : Int) (other : String) :
    Faithful other store (store.expireStaleDelegationEntries now thresholdMs).1 := by
  unfold expireStaleDelegationEntries
  extract_lets cutoff rows expired stripped bumped
  have strippedEntries : stripped.queueEntries = expired.queueEntries := by
    refine foldl_unchanged (fun state : TransportQueueStore => state.queueEntries) ?_ rows expired
    exact fun _ _ => rfl
  have strippedMeta : stripped.queueMeta = store.queueMeta := by
    refine foldl_unchanged (fun state : TransportQueueStore => state.queueMeta) ?_ rows expired
    exact fun _ _ => rfl
  have entries : bumped.queueEntries = expired.queueEntries :=
    (foldl_bumpVersion_entries _ stripped).trans strippedEntries
  intro view held later found laterFound _ sameVersion
  rw [← strippedMeta] at found
  obtain ⟨last, lastFound, _, counted⟩ :=
    @foldl_bumpVersion _ stripped (firstOccurrences (rows.map (·.sessionName))) other held found
  cases lastFound.symm.trans laterFound
  have unlisted : ∀ row, row ∈ store.queueEntries → row.sessionName = other →
      isStaleDelegation cutoff row = false := by
    intro row member inside
    by_contra stale
    refine absurd (counted ?_) (by omega)
    rw [mem_firstOccurrences]
    exact List.mem_map.mpr ⟨row, (List.mem_insertionSort _).mpr
      (Table.mem_select.mpr ⟨member, Bool.not_eq_false _ ▸ stale⟩), inside⟩
  have same : ∀ row : QueueEntryRow, row.sessionName = other →
      (row ∈ bumped.queueEntries ↔ row ∈ store.queueEntries) := by
    intro row inside
    rw [entries]
    refine mem_updateEntries.trans ?_
    constructor
    · rintro ⟨old, member, rfl⟩
      have oldInside : old.sessionName = other := by
        split at inside
        · exact inside
        · exact inside
      rw [if_neg (by rw [unlisted old member oldInside]; exact Bool.false_ne_true)]
      exact member
    · intro member
      refine ⟨row, member, ?_⟩
      rw [if_neg (by rw [unlisted row member inside]; exact Bool.false_ne_true)]
  exact fun item => lists_iff_of_rows same

theorem attachSupervisionReference_faithful {clientMessageId : String}
    {reference : QueueSupervisionReference} {now : Int} {result : TransportQueueStore × Bool}
    (done : store.attachSupervisionReference sessionName clientMessageId reference now =
      .ok result) (other : String) : Faithful other store result.1 := by
  have done := message_ok (session_ok done)
  split at done
  · cases done
    exact .of_entries rfl
  · split at done
    · split at done
      · cases done
        exact .of_entries rfl
      · cases done
    · cases done
      exact (Stirs.refl.updateEntries fun _ => isMessage_inside).bumpVersion other

theorem edit_faithful {clientMessageId text : String} {now : Int}
    {replacement : Option EditReplacement} {result : TransportQueueStore × QueueSnapshot}
    (done : store.edit sessionName clientMessageId text now replacement = .ok result)
    (other : String) : Faithful other store result.1 := by
  have done := message_ok (session_ok done)
  obtain ⟨rewritten, rewriting, rfl⟩ := answer_ok done
  have same := rewritePrivateMaterial_same rewriting
  refine Stirs.bumpVersion ?_ other
  refine ((Stirs.refl.ensureMeta none).updateEntries fun _ => isMessage_inside).rows same.2 ?_
  exact fun row _ => by rw [same.1]

/-! ## Handoff leases -/

theorem markHandoffInFlight_faithful {clientMessageIds : List String} {leaseMs now : Int}
    {recipient : Option QueueRecipientIdentity}
    {result : TransportQueueStore × List HandoffTransportQueueEntry}
    (done : store.markHandoffInFlight sessionName clientMessageIds leaseMs now recipient =
      .ok result) (other : String) : Faithful other store result.1 := by
  obtain ⟨session, _, done⟩ := bind_eq_ok.mp done
  dsimp only at done
  split at done
  · cases done
    exact .of_entries rfl
  · have opened : Stirs session store ((store.freshUUID.1.ensureMeta session
        (normalizeQueueRecipient recipient)).1.pruneCancellations now) := by
      have issued : Stirs session store store.freshUUID.1 := Stirs.refl.rows rfl fun _ _ => Iff.rfl
      exact (issued.ensureMeta _).rows rfl fun _ _ => Iff.rfl
    have entries : ((store.freshUUID.1.ensureMeta session
        (normalizeQueueRecipient recipient)).1.pruneCancellations now).queueEntries =
          store.queueEntries :=
      (ensureMeta_sameMessages store.freshUUID.1 session _).queueEntries
    cases done
    dsimp only
    split
    · refine Stirs.bumpVersion (Stirs.countedUpdates opened ?_ clientMessageIds) other
      intro clientMessageId row leasable
      simp only [isLeasable, Bool.and_eq_true] at leasable
      exact isMessage_inside leasable.1.1
    · next unleased =>
        have same := (countedUpdates_unchanged _ (Nat.eq_zero_of_not_pos unleased)).1
        exact .of_entries ((congrArg TransportQueueStore.queueEntries same).trans entries)

theorem releaseHandoff_faithful {handoffId : String} {clientMessageIds : List String} {now : Int}
    {result : TransportQueueStore × QueueSnapshot}
    (done : store.releaseHandoff sessionName handoffId clientMessageIds now = .ok result)
    (other : String) : Faithful other store result.1 := by
  obtain ⟨session, _, done⟩ := bind_eq_ok.mp done
  obtain ⟨handoff, _, done⟩ := bind_eq_ok.mp done
  dsimp only at done
  split at done
  · cases done
    exact readSnapshot_faithful store session other _
  · split at done
    · cases done
      exact Stirs.bumpVersion (Stirs.countedUpdates (Stirs.refl.ensureMeta none)
        (fun _ _ => isReleasable_inside) _) other
    · next unreleased =>
        cases done
        have same := (countedUpdates_unchanged _ (Nat.eq_zero_of_not_pos unreleased)).1
        refine .of_entries ((snapshotAfter_sameMessages _ _ _ _).queueEntries.trans ?_)
        exact (congrArg TransportQueueStore.queueEntries same).trans
          (ensureMeta_sameMessages store session none).queueEntries

theorem restoreExpiredHandoffs_faithful {now : Int} {includeUnexpired : Bool}
    {result : TransportQueueStore × QueueSnapshot}
    (done : store.restoreExpiredHandoffs sessionName now includeUnexpired = .ok result)
    (other : String) : Faithful other store result.1 := by
  obtain ⟨session, _, done⟩ := bind_eq_ok.mp done
  dsimp only at done
  split at done
  · cases done
    refine Stirs.bumpVersion (Stirs.updateEntries (Stirs.updateEntries
      (Stirs.refl.ensureMeta none) ?_) ?_) other
    · exact fun row selected => isExpiredHandoff_inside (Bool.and_eq_true_iff.mp selected).1
    · exact fun row selected => isExpiredHandoff_inside (Bool.and_eq_true_iff.mp selected).1
  · next unchanged =>
      cases done
      obtain ⟨unrestored, unexhausted⟩ := not_or.mp unchanged
      refine .of_entries ((snapshotAfter_sameMessages _ _ _ _).queueEntries.trans ?_)
      refine Eq.trans (congrArg TransportQueueStore.queueEntries (updateEntries_unchanged ?_)) ?_
      · exact Nat.eq_zero_of_not_pos unrestored
      · refine Eq.trans (congrArg TransportQueueStore.queueEntries (updateEntries_unchanged ?_)) ?_
        · exact Nat.eq_zero_of_not_pos unexhausted
        · exact (ensureMeta_sameMessages store session none).queueEntries

/-! ## Material policy and settling -/

theorem markAppendFallback_faithful {clientMessageId : String}
    {reason : TransportAppendFallbackReason} {recipient : Option QueueRecipientIdentity}
    {result : TransportQueueStore}
    (done : store.markAppendFallback sessionName clientMessageId reason recipient = .ok result)
    (other : String) : Faithful other store result := by
  obtain ⟨session, _, done⟩ := bind_eq_ok.mp done
  obtain ⟨material, _, done⟩ := bind_eq_ok.mp done
  dsimp only at done
  split at done
  · cases done
    exact .of_entries rfl
  · cases done
  · split at done
    · cases done
      exact .of_entries rfl
    · obtain ⟨rewritten, _, rfl⟩ := answer_ok done
      exact .of_entries (ensureMeta_sameMessages _ session none).queueEntries

theorem scrubPeerAuditOrphans_faithful {result : TransportQueueStore × List String}
    (done : store.scrubPeerAuditOrphans sessionName = .ok result) (other : String) :
    Faithful other store result.1 := by
  obtain ⟨session, _, done⟩ := bind_eq_ok.mp done
  dsimp only at done
  split at done
  · cases done
    exact .of_entries rfl
  · cases done
    refine Stirs.bumpVersion ?_ other
    exact Stirs.foldl id (fun _ orphanId stirs => stirs.deleteMessage orphanId ungated)
      (Stirs.refl.ensureMeta none)

theorem Stirs.settleStrippingMaterial (store : TransportQueueStore) (session : String)
    {clientMessageId : String} {settles : QueueEntryRow → Bool}
    {update : QueueEntryRow → QueueEntryRow} {keeps : ∀ row, (update row).key = row.key} :
    Stirs session store
      (store.settleStrippingMaterial session clientMessageId settles update keeps) := by
  have settled : Stirs session store ((store.ensureMeta session none).1.updateEntries
      (fun row => isMessage session clientMessageId row && settles row) update keeps) :=
    (Stirs.refl.ensureMeta none).updateEntries fun row selected =>
      isMessage_inside (Bool.and_eq_true_iff.mp selected).1
  exact settled.rows rfl fun _ _ => Iff.rfl

theorem markMissingPrivateMaterialFailed_faithful {clientMessageId : String} {now : Int}
    {result : TransportQueueStore × QueueSnapshot}
    (done : store.markMissingPrivateMaterialFailed sessionName clientMessageId now = .ok result)
    (other : String) : Faithful other store result.1 := by
  have done := message_ok (session_ok done)
  cases done
  exact (Stirs.settleStrippingMaterial store _).bumpVersion other

theorem markDeleted_faithful {clientMessageId : String} {now : Int}
    {result : TransportQueueStore × QueueSnapshot}
    (done : store.markDeleted sessionName clientMessageId now = .ok result) (other : String) :
    Faithful other store result.1 := by
  have done := message_ok (session_ok done)
  cases done
  exact (Stirs.settleStrippingMaterial store _).bumpVersion other

theorem dismissFailed_faithful {clientMessageId : String} {now : Int}
    {result : TransportQueueStore × QueueSnapshot}
    (done : store.dismissFailed sessionName clientMessageId now = .ok result) (other : String) :
    Faithful other store result.1 := by
  have done := message_ok (session_ok done)
  cases done
  exact (Stirs.settleStrippingMaterial store _).bumpVersion other

theorem markFailed_faithful {clientMessageId : String} {reason : QueueFailureReason} {now : Int}
    {result : TransportQueueStore × QueueSnapshot}
    (done : store.markFailed sessionName clientMessageId reason now = .ok result)
    (other : String) : Faithful other store result.1 := by
  have done := message_ok (session_ok done)
  cases done
  exact ((Stirs.refl.ensureMeta none).updateEntries fun _ => isMessage_inside).bumpVersion other

theorem cleanup_faithful {result : TransportQueueStore × QueueSnapshot}
    (done : store.cleanup sessionName = .ok result) (other : String) :
    Faithful other store result.1 := by
  obtain ⟨session, _, rfl⟩ := answer_ok done
  refine Stirs.bumpVersion ?_ other
  exact @Stirs.deleteEntries session store _ _ (Stirs.refl.ensureMeta none) rfl
    (fun row => inSession session row && row.disposable) rfl fun row selected =>
      of_decide_eq_true (Bool.and_eq_true_iff.mp selected).1

/-! ## Delivery and removal -/

theorem finalizeSentBatch_faithful {clientMessageIds : List String} {deliveryFrameId : String}
    {now : Int} {recipient : Option QueueRecipientIdentity} {conversationKey : Option String}
    {result : TransportQueueStore × FinalizeTransportQueueSentResult}
    (done : store.finalizeSentBatch sessionName clientMessageIds deliveryFrameId now recipient
      conversationKey = .ok result) (other : String) : Faithful other store result.1 := by
  obtain ⟨session, _, done⟩ := bind_eq_ok.mp done
  dsimp only at done
  split at done
  · cases done
    exact readSnapshot_faithful store session other "finalize_sent_noop"
  · cases done
    refine Stirs.bumpVersion ?_ other
    refine Stirs.foldl Prod.fst ?_ (Stirs.refl.ensureMeta none)
    intro state clientMessageId stirs
    split
    · exact stirs
    · exact (stirs.deleteMessage clientMessageId _).rows rfl fun _ _ => Iff.rfl

theorem recordDeliveryTombstone_entries {clientMessageId deliveryFrameId : String} {now : Int}
    {recipient : Option QueueRecipientIdentity} {conversationKey : Option String}
    {result : TransportQueueStore × Bool}
    (done : store.recordDeliveryTombstone sessionName clientMessageId deliveryFrameId now
      recipient conversationKey = .ok result) :
    result.1.queueEntries = store.queueEntries ∧ Stirs (trim sessionName) store result.1 := by
  have done := session_ok done
  dsimp only at done
  split at done
  · cases done
    exact ⟨rfl, Stirs.refl⟩
  · cases done
    exact ⟨(ensureMeta_sameMessages store (trim sessionName) recipient).queueEntries,
      (Stirs.refl.ensureMeta recipient).rows rfl fun _ _ => Iff.rfl⟩

theorem Stirs.removeDeliveredQueueRows {start : TransportQueueStore} {session : String}
    (stirs : Stirs session start store) (clientMessageIds : List String) (other : String)
    (unchanged : store.queueEntries = start.queueEntries) :
    Faithful other start (store.removeDeliveredQueueRows session clientMessageIds).1 := by
  have removed : Stirs session start (store.removeDeliveredMessages session clientMessageIds).1 := by
    refine Stirs.foldl Prod.fst ?_ stirs
    intro state clientMessageId stirs
    split
    · exact stirs
    · refine stirs.deleteEntries rfl rfl ?_
      exact fun row selected => isMessage_inside (Bool.and_eq_true_iff.mp selected).1
  unfold TransportQueueStore.removeDeliveredQueueRows
  dsimp only
  split
  · next none =>
      have same := (removeDeliveredMessages_unchanged none).1
      exact .of_entries ((congrArg TransportQueueStore.queueEntries same).trans unchanged)
  · exact removed.bumpVersion other

theorem reconcileDeliveredQueueRows_faithful {start : TransportQueueStore}
    {result : TransportQueueStore × List String}
    (stirs : Stirs (trim sessionName) start store)
    (unchanged : store.queueEntries = start.queueEntries)
    (done : store.reconcileDeliveredQueueRows sessionName = .ok result) (other : String) :
    Faithful other start result.1 := by
  have done := session_ok done
  dsimp only at done
  split at done
  · cases done
    exact .of_entries unchanged
  · cases done
    exact stirs.removeDeliveredQueueRows _ other unchanged

theorem recordDirectDelivery_faithful {clientMessageId deliveryFrameId : String} {now : Int}
    {recipient : Option QueueRecipientIdentity} {conversationKey : Option String}
    {result : TransportQueueStore × Bool}
    (done : store.recordDirectDelivery sessionName clientMessageId deliveryFrameId now recipient
      conversationKey = .ok result) (other : String) : Faithful other store result.1 := by
  obtain ⟨recorded, record, done⟩ := bind_eq_ok.mp done
  obtain ⟨reconciled, reconcile, rfl⟩ := answer_ok done
  obtain ⟨entries, stirs⟩ := recordDeliveryTombstone_entries record
  exact reconcileDeliveredQueueRows_faithful stirs entries reconcile other

theorem drop_faithful {clientMessageId : String} {dropReason : QueueDropReason}
    {recipient : Option QueueRecipientIdentity} {result : TransportQueueStore × QueueSnapshot}
    (done : store.drop sessionName clientMessageId dropReason recipient = .ok result)
    (other : String) : Faithful other store result.1 := by
  obtain ⟨session, _, done⟩ := bind_eq_ok.mp done
  obtain ⟨messageId, _, rfl⟩ := answer_ok done
  exact ((Stirs.refl.ensureMeta none).deleteMessage messageId _).bumpVersion other

theorem dropAll_faithful {dropReason : QueueDropReason}
    {result : TransportQueueStore × QueueSnapshot}
    (done : store.dropAll sessionName dropReason = .ok result) (other : String) :
    Faithful other store result.1 := by
  obtain ⟨session, _, rfl⟩ := answer_ok done
  exact (Stirs.refl.ensureMeta none).deleteSessionMessages.bumpVersion other

theorem cancelQueuedMessage_faithful {clientMessageId : String}
    {recipient : Option QueueRecipientIdentity} {now : Int}
    {result : TransportQueueStore × CancelQueuedMessageStatus × QueueSnapshot}
    (done : store.cancelQueuedMessage sessionName clientMessageId recipient now = .ok result)
    (other : String) : Faithful other store result.1 := by
  obtain ⟨session, _, done⟩ := bind_eq_ok.mp done
  obtain ⟨messageId, _, done⟩ := bind_eq_ok.mp done
  have pruned : Stirs session store (store.pruneCancellations now) :=
    Stirs.refl.rows rfl fun _ _ => Iff.rfl
  have opened : ((store.pruneCancellations now).ensureMeta session
      (normalizeQueueRecipient recipient)).1.queueEntries = store.queueEntries :=
    (ensureMeta_sameMessages _ session _).queueEntries
  dsimp only at done
  split at done
  · split at done
    · cases done
      dsimp only
      exact .of_entries ((snapshotAfter_sameMessages _ _ _ _).queueEntries.trans opened)
    · cases done
      exact Stirs.bumpVersion ((pruned.ensureMeta _).cancelMessage messageId _ now) other
  · cases done
    dsimp only
    exact .of_entries (snapshotAfter_sameMessages _ _ _ _).queueEntries

end Host

end TransportQueueStore

end ImCodes.Queue
