import ImCodes.Queue.Store.Admission
import ImCodes.Queue.Store.VersionEffects

/-!
# Rows that change hands

Adopting, binding and rebinding give rows another recipient, and so show them to a
caller, or hide them from one. Only an adoption that also purges rows counts the version
up.
-/

set_option autoImplicit false

namespace ImCodes.Queue

open Library

namespace TransportQueueStore

/-- A listed row of the session would get columns that the read sees differently. -/
def Moves (store : TransportQueueStore) (session : String)
    (view : Option (Option QueueRecipientIdentity)) (p : QueueMessageRow → Bool)
    (columns : RecipientColumns) : Prop :=
  ∃ row, row ∈ store.queueEntries ∧ row.sessionName = session ∧ row.isListed = true ∧
    p (asMessageRow row) = true ∧ seenBy view columns ≠ seenBy view row.recipient

theorem mem_restampMessageRows {store : TransportQueueStore} {p : QueueMessageRow → Bool}
    {columns : RecipientColumns} {row : QueueEntryRow} :
    row ∈ (store.restampMessageRows p columns).queueEntries ↔ ∃ old, old ∈ store.queueEntries ∧
      (if p (asMessageRow old) = true then { old with recipient := columns } else old) = row :=
  @Table.mem_updateWhere _ _ _ store.queueEntries (fun row => p (asMessageRow row))
    (fun row => { row with recipient := columns }) (fun _ => rfl) row

theorem restampMessageRows_lists {store : TransportQueueStore} {session : String}
    {view : Option (Option QueueRecipientIdentity)} {p : QueueMessageRow → Bool}
    {columns : RecipientColumns} (still : ¬ store.Moves session view p columns)
    (item : ListedRow) :
    (store.restampMessageRows p columns).Lists session view item ↔
      store.Lists session view item := by
  have same : ∀ row : QueueEntryRow, row ∈ store.queueEntries → row.sessionName = session →
      row.isListed = true → p (asMessageRow row) = true →
      seenBy view columns = seenBy view row.recipient := by
    intro row member inside listed selected
    by_contra differs
    exact still ⟨row, member, inside, listed, selected, differs⟩
  constructor
  · rintro ⟨row, member, inside, listed, seen, rfl⟩
    obtain ⟨old, oldMember, rfl⟩ := mem_restampMessageRows.mp member
    by_cases selected : p (asMessageRow old) = true
    · rw [if_pos selected] at inside listed seen ⊢
      exact ⟨old, oldMember, inside, listed,
        (same old oldMember inside listed selected).symm.trans seen, rfl⟩
    · rw [if_neg selected] at inside listed seen ⊢
      exact ⟨old, oldMember, inside, listed, seen, rfl⟩
  · rintro ⟨row, member, inside, listed, seen, rfl⟩
    refine ⟨_, mem_restampMessageRows.mpr ⟨row, member, rfl⟩, ?_⟩
    by_cases selected : p (asMessageRow row) = true
    · rw [if_pos selected]
      exact ⟨inside, listed, (same row member inside listed selected).trans seen, rfl⟩
    · rw [if_neg selected]
      exact ⟨inside, listed, seen, rfl⟩

theorem restampMessageRows_faithful {store after : TransportQueueStore} {session other : String}
    {view : Option (Option QueueRecipientIdentity)} {p : QueueMessageRow → Bool}
    {columns : RecipientColumns} (inside : ∀ row, p row = true → row.sessionName = session)
    (still : other = session → ¬ store.Moves session view p columns)
    (entries : after.queueEntries = (store.restampMessageRows p columns).queueEntries) :
    FaithfulTo view other store after := by
  apply FaithfulTo.of_lists
  intro item
  unfold Lists
  rw [entries]
  apply restampMessageRows_lists
  rintro ⟨row, member, named, listed, selected, differs⟩
  have isSession : other = session := named.symm.trans (inside _ selected)
  subst isSession
  exact still rfl ⟨row, member, named, listed, selected, differs⟩

/-! ## Adoption, message by message -/

section Adoption

variable {session : String} {recipient : QueueRecipientIdentity} {createdAt : Int}

def isStale (createdAt : Int) (message : String × Option Int) : Bool :=
  message.2.any fun oldestAt => oldestAt < createdAt

def isAdopted (session : String) (recipient : QueueRecipientIdentity) (clientMessageId : String)
    (row : QueueMessageRow) : Bool :=
  isLegacyMessageRow session clientMessageId row ||
    isRotatedMessageRow session clientMessageId recipient row

theorem isAdopted_of_own {clientMessageId : String} {row : QueueMessageRow}
    (own : row.recipient = recipient.columns) :
    isAdopted session recipient clientMessageId row = false := by
  simp [isAdopted, isLegacyMessageRow, isRotatedMessageRow, RecipientColumns.rotated, own,
    QueueRecipientIdentity.columns, RecipientColumns.legacy]

theorem mem_adoptMessage {store : TransportQueueStore} {progress : AdoptionProgress}
    {message : String × Option Int} {row : QueueEntryRow}
    (member : row ∈ (store.adoptMessage progress session recipient createdAt
      message).1.queueEntries) :
    row ∈ store.queueEntries ∨ row.recipient = recipient.columns := by
  unfold adoptMessage at member
  dsimp only at member
  obtain ⟨settled, settledMember, rfl⟩ := mem_restampMessageRows.mp member
  split
  · exact .inr rfl
  · split at settledMember
    · exact .inl (Table.mem_deleteWhere.mp settledMember).1
    · obtain ⟨old, oldMember, rfl⟩ := mem_restampMessageRows.mp settledMember
      split
      · exact .inr rfl
      · exact .inl oldMember

/-- Adopting a message purges none of its rows and shows none of them anew. -/
structure Unnoticed (store : TransportQueueStore) (session : String)
    (recipient : QueueRecipientIdentity) (createdAt : Int)
    (view : Option (Option QueueRecipientIdentity)) (message : String × Option Int) : Prop where
  kept : isStale createdAt message = true → ∀ row : QueueEntryRow, row ∈ store.queueEntries →
    isLegacyMessageRow session message.1 (asMessageRow row) = false
  still : ¬ store.Moves session view (isAdopted session recipient message.1) recipient.columns

theorem Unnoticed.adoptMessage {store : TransportQueueStore} {progress : AdoptionProgress}
    {view : Option (Option QueueRecipientIdentity)} {message other : String × Option Int}
    (unnoticed : Unnoticed store session recipient createdAt view other) :
    Unnoticed (store.adoptMessage progress session recipient createdAt message).1 session
      recipient createdAt view other := by
  constructor
  · intro stale row member
    rcases mem_adoptMessage member with old | own
    · exact unnoticed.kept stale row old
    · have adopted : isAdopted session recipient other.1 (asMessageRow row) = false :=
        isAdopted_of_own own
      exact (Bool.or_eq_false_iff.mp adopted).1
  · rintro ⟨row, member, inside, listed, selected, differs⟩
    rcases mem_adoptMessage member with old | own
    · exact unnoticed.still ⟨row, old, inside, listed, selected, differs⟩
    · rw [isAdopted_of_own own] at selected
      cases selected

theorem adoptMessage_lists {store : TransportQueueStore} {progress : AdoptionProgress}
    {view : Option (Option QueueRecipientIdentity)} {message : String × Option Int}
    (unnoticed : Unnoticed store session recipient createdAt view message) (item : ListedRow) :
    (store.adoptMessage progress session recipient createdAt message).1.Lists session view item ↔
      store.Lists session view item := by
  have keeps : ∀ settled : TransportQueueStore,
      (∀ row : QueueEntryRow, row ∈ settled.queueEntries →
        row ∈ store.queueEntries ∨ row.recipient = recipient.columns) →
      ¬ settled.Moves session view (isRotatedMessageRow session message.1 recipient)
        recipient.columns := by
    rintro settled came ⟨row, member, inside, listed, selected, differs⟩
    have adopted : isAdopted session recipient message.1 (asMessageRow row) = true :=
      Bool.or_eq_true_iff.mpr (.inr selected)
    rcases came row member with old | own
    · exact unnoticed.still ⟨row, old, inside, listed, adopted, differs⟩
    · rw [isAdopted_of_own own] at adopted
      cases adopted
  unfold adoptMessage
  dsimp only
  by_cases stale : (message.2.any fun oldestAt => decide (oldestAt < createdAt)) = true
  · rw [if_pos stale]
    refine (restampMessageRows_lists (keeps _ ?_) item).trans ?_
    · intro row member
      exact .inl (Table.mem_deleteWhere.mp member).1
    · refine lists_iff_of_rows fun row _ => ?_
      refine Table.mem_deleteWhere.trans (and_iff_left_of_imp ?_)
      exact unnoticed.kept stale row
  · rw [if_neg stale]
    refine (restampMessageRows_lists (keeps _ ?_) item).trans (restampMessageRows_lists ?_ item)
    · intro row member
      obtain ⟨old, oldMember, rfl⟩ := mem_restampMessageRows.mp member
      split
      · exact .inr rfl
      · exact .inl oldMember
    · rintro ⟨row, member, inside, listed, selected, differs⟩
      exact unnoticed.still
        ⟨row, member, inside, listed, Bool.or_eq_true_iff.mpr (.inl selected), differs⟩

theorem adoptMessages_lists {store : TransportQueueStore}
    {view : Option (Option QueueRecipientIdentity)} {messages : List (String × Option Int)}
    (unnoticed : ∀ message ∈ messages, Unnoticed store session recipient createdAt view message)
    (item : ListedRow) :
    (store.adoptMessages session recipient createdAt messages).1.Lists session view item ↔
      store.Lists session view item := by
  unfold adoptMessages
  generalize (⟨0, 0⟩ : AdoptionProgress) = progress
  induction messages generalizing store progress with
  | nil => exact Iff.rfl
  | cons message rest ih =>
    have first := @adoptMessage_lists session recipient createdAt store progress view message
      (unnoticed message List.mem_cons_self) item
    have later : ∀ other ∈ rest, Unnoticed (store.adoptMessage progress session recipient
        createdAt message).1 session recipient createdAt view other :=
      fun other listed => (unnoticed other (List.mem_cons_of_mem _ listed)).adoptMessage
    exact (ih later _).trans first

private theorem spared_by_update {Row Key : Type} [DecidableEq Key] {key : Row → Key}
    [MessageRow Row] {table : Table Row Key key} {p : QueueMessageRow → Bool} {update : Row → Row}
    {keeps : ∀ row, key (update row) = key row} {item : QueueMessageRow}
    (member : item ∈ table.rows.map asMessageRow) (unselected : p item = false) :
    item ∈ (table.updateWhere (fun row => p (asMessageRow row)) update keeps).rows.map
      asMessageRow := by
  obtain ⟨row, stored, rfl⟩ := List.mem_map.mp member
  refine List.mem_map.mpr ⟨row, Table.mem_updateWhere.mpr ⟨row, stored, ?_⟩, rfl⟩
  rw [unselected]
  rfl

theorem mem_messageRows_restamp {store : TransportQueueStore} {p : QueueMessageRow → Bool}
    {columns : RecipientColumns} {item : QueueMessageRow} (member : item ∈ store.messageRows)
    (unselected : p item = false) :
    item ∈ (store.restampMessageRows p columns).messageRows := by
  unfold restampMessageRows
  simp only [messageRows, List.mem_append] at member ⊢
  rcases member with ((entry | material) | delivery) | cancellation
  · exact .inl (.inl (.inl (spared_by_update entry unselected)))
  · exact .inl (.inl (.inr (spared_by_update material unselected)))
  · exact .inl (.inr (spared_by_update delivery unselected))
  · exact .inr (spared_by_update cancellation unselected)

theorem mem_messageRows_delete {store : TransportQueueStore} {p : QueueMessageRow → Bool}
    {item : QueueMessageRow} (member : item ∈ store.messageRows) (unselected : p item = false) :
    item ∈ (store.deleteMessageRows p).messageRows := by
  simp only [messageRows, List.mem_append, List.mem_map] at member ⊢
  rcases member with ((⟨row, stored, rfl⟩ | ⟨row, stored, rfl⟩) | ⟨row, stored, rfl⟩) |
    ⟨row, stored, rfl⟩
  · exact .inl (.inl (.inl ⟨row, Table.mem_deleteWhere.mpr ⟨stored, unselected⟩, rfl⟩))
  · exact .inl (.inl (.inr ⟨row, Table.mem_deleteWhere.mpr ⟨stored, unselected⟩, rfl⟩))
  · exact .inl (.inr ⟨row, Table.mem_deleteWhere.mpr ⟨stored, unselected⟩, rfl⟩)
  · exact .inr ⟨row, Table.mem_deleteWhere.mpr ⟨stored, unselected⟩, rfl⟩

def Purges (store : TransportQueueStore) (session : String) (createdAt : Int)
    (message : String × Option Int) : Prop :=
  isStale createdAt message = true ∧
    ∃ row ∈ store.messageRows, isLegacyMessageRow session message.1 row = true

theorem Purges.adoptMessage {store : TransportQueueStore} {progress : AdoptionProgress}
    {message other : String × Option Int} (purges : Purges store session createdAt other)
    (different : other.1 ≠ message.1) :
    Purges (store.adoptMessage progress session recipient createdAt message).1 session createdAt
      other := by
  obtain ⟨stale, row, member, selected⟩ := purges
  refine ⟨stale, row, ?_, selected⟩
  have named : row.clientMessageId = other.1 := by
    simp only [isLegacyMessageRow, Bool.and_eq_true, decide_eq_true_eq] at selected
    exact selected.1.2
  have notLegacy : isLegacyMessageRow session message.1 row = false := by
    simp [isLegacyMessageRow, named, different]
  have notRotated : isRotatedMessageRow session message.1 recipient row = false := by
    simp [isRotatedMessageRow, named, different]
  unfold TransportQueueStore.adoptMessage
  dsimp only
  apply mem_messageRows_restamp _ notRotated
  split
  · exact mem_messageRows_delete member notLegacy
  · exact mem_messageRows_restamp member notLegacy

theorem adoptMessage_purged_le {store : TransportQueueStore} {progress : AdoptionProgress}
    {message : String × Option Int} :
    progress.purged ≤
      (store.adoptMessage progress session recipient createdAt message).2.purged := by
  unfold adoptMessage
  dsimp only
  split
  · exact Nat.le_add_right _ _
  · exact Nat.le_refl _

theorem Purges.counted {store : TransportQueueStore} {progress : AdoptionProgress}
    {message : String × Option Int} (purges : Purges store session createdAt message) :
    progress.purged <
      (store.adoptMessage progress session recipient createdAt message).2.purged := by
  obtain ⟨stale, row, member, selected⟩ := purges
  unfold isStale at stale
  unfold TransportQueueStore.adoptMessage
  dsimp only
  rw [if_pos stale]
  exact Nat.lt_add_of_pos_right (List.countP_pos_iff.mpr ⟨row, member, selected⟩)

theorem adoptMessages_purged {store : TransportQueueStore} {messages : List (String × Option Int)}
    (apart : ∀ left ∈ messages, ∀ right ∈ messages, left.1 = right.1 → left = right)
    {message : String × Option Int} (listed : message ∈ messages)
    (purges : Purges store session createdAt message) :
    0 < (store.adoptMessages session recipient createdAt messages).2.purged := by
  have grows : ∀ (rest : List (String × Option Int)) (state : TransportQueueStore × AdoptionProgress),
      state.2.purged ≤ (rest.foldl (fun state message =>
        state.1.adoptMessage state.2 session recipient createdAt message) state).2.purged := by
    intro rest
    induction rest with
    | nil => exact fun state => Nat.le_refl _
    | cons head rest ih => exact fun state => adoptMessage_purged_le.trans (ih _)
  unfold adoptMessages
  generalize (⟨0, 0⟩ : AdoptionProgress) = progress
  induction messages generalizing store progress with
  | nil => cases listed
  | cons head rest ih =>
    by_cases same : message.1 = head.1
    · cases apart message listed head List.mem_cons_self same
      exact (Nat.zero_le _).trans_lt (purges.counted.trans_le (grows rest _))
    · refine ih (fun left leftListed right rightListed => ?_) ?_ ?_ _
      · exact apart left (List.mem_cons_of_mem _ leftListed) right
          (List.mem_cons_of_mem _ rightListed)
      · rcases List.mem_cons.mp listed with isHead | later
        · exact absurd (congrArg Prod.fst isHead) same
        · exact later
      · exact @Purges.adoptMessage _ _ _ _ progress _ _ purges same

theorem recoverableMessages_apart {store : TransportQueueStore} {limit : Nat} :
    ∀ left ∈ store.recoverableMessages session recipient limit,
    ∀ right ∈ store.recoverableMessages session recipient limit, left.1 = right.1 →
      left = right := by
  intro left leftListed right rightListed same
  obtain ⟨leftId, _, rfl⟩ := List.mem_map.mp leftListed
  obtain ⟨rightId, _, rfl⟩ := List.mem_map.mp rightListed
  cases same
  rfl

end Adoption

end TransportQueueStore

namespace Operation

open TransportQueueStore

/-- The call lets a listed row of the session appear to the read, or disappear from it,
without counting the version up. -/
def HandsOver (store : TransportQueueStore) (session : String)
    (view : Option (Option QueueRecipientIdentity)) : Operation → Prop
  | .bindFreshLaunchRecipient sessionName recipientInput expectedClientMessageIds =>
    ∃ recipient held, normalizeSessionName sessionName = .ok session ∧
      normalizeQueueRecipient (some recipientInput) = some recipient ∧
      store.queueMeta.lookup session = some held ∧
      sortByUtf16 (normalizeMessageIds expectedClientMessageIds) ≠ [] ∧
      (sortByUtf16 (normalizeMessageIds expectedClientMessageIds)).length =
        expectedClientMessageIds.length ∧
      (held.recipient = .legacy ∨ held.recipient = recipient.columns) ∧
      store.matchesLaunchGap session
        (sortByUtf16 (normalizeMessageIds expectedClientMessageIds)) = true ∧
      store.Moves session view (isLegacySessionRow session) recipient.columns
  | .rebindRecipientRuntimeEpoch sessionName previousInput nextInput =>
    ∃ previous next held, normalizeSessionName sessionName = .ok session ∧
      normalizeQueueRecipient (some previousInput) = some previous ∧
      normalizeQueueRecipient (some nextInput) = some next ∧
      previous.sessionInstanceId = next.sessionInstanceId ∧
      previous.runtimeEpoch ≠ next.runtimeEpoch ∧
      store.queueMeta.lookup session = some held ∧
      (held.recipient.identity? = some previous ∨ held.recipient.identity? = some next) ∧
      store.messageRows.any (conflictsWithRebinding session previous next) = false ∧
      store.Moves session view
        (fun row => row.sessionName = session && row.recipient = previous.columns) next.columns
  | .adoptLegacyRecipientIdentity sessionName recipientInput sessionCreatedAt limit =>
    ∃ recipient createdAt held, normalizeSessionName sessionName = .ok session ∧
      normalizeQueueRecipient (some recipientInput) = some recipient ∧
      sessionCreatedAt = .finite createdAt ∧ 0 ≤ createdAt ∧
      store.queueMeta.lookup session = some held ∧
      isAdoptableMeta recipient held.recipient = true ∧
      store.messageRows.any (conflictsWithAdoption session recipient createdAt) = false ∧
      (∀ message ∈ store.recoverableMessages session recipient
          (max 1 (min 100 (limit.getD 64))).toNat,
        ¬ store.Purges session createdAt message) ∧
      ∃ message ∈ store.recoverableMessages session recipient
          (max 1 (min 100 (limit.getD 64))).toNat,
        store.Moves session view (isAdopted session recipient message.1) recipient.columns
  | _ => False

end Operation

namespace TransportQueueStore

theorem bindFreshLaunchRecipient_faithful {store : TransportQueueStore}
    {sessionName session : String} {recipientInput : QueueRecipientIdentity}
    {expectedClientMessageIds : List String} {result : TransportQueueStore × Bool}
    {view : Option (Option QueueRecipientIdentity)}
    (still : ¬ (Operation.bindFreshLaunchRecipient sessionName recipientInput
      expectedClientMessageIds).HandsOver store session view)
    (done : store.bindFreshLaunchRecipient sessionName recipientInput expectedClientMessageIds =
      .ok result) : FaithfulTo view session store result.1 := by
  obtain ⟨named, normalized, done⟩ := bind_eq_ok.mp done
  dsimp only at done
  split at done
  · next recipient held usable found =>
      split at done
      · cases done
        exact Faithful.of_entries rfl view
      · next admitted =>
          simp only [not_or, not_and_or, not_not, Bool.not_eq_false] at admitted
          obtain ⟨nonempty, sameLength, owner, matched⟩ := admitted
          cases done
          refine @restampMessageRows_faithful store _ named session view
            (isLegacySessionRow named) recipient.columns ?_ ?_ rfl
          · intro row selected
            simp only [isLegacySessionRow, Bool.and_eq_true, decide_eq_true_eq] at selected
            exact selected.1
          · rintro rfl moves
            exact still ⟨recipient, held, normalized, usable, found, nonempty, sameLength, owner,
              matched, moves⟩
  · cases done
    exact Faithful.of_entries rfl view

theorem rebindRecipientRuntimeEpoch_faithful {store : TransportQueueStore}
    {sessionName session : String} {previousInput nextInput : QueueRecipientIdentity}
    {result : TransportQueueStore × Bool} {view : Option (Option QueueRecipientIdentity)}
    (still : ¬ (Operation.rebindRecipientRuntimeEpoch sessionName previousInput
      nextInput).HandsOver store session view)
    (done : store.rebindRecipientRuntimeEpoch sessionName previousInput nextInput = .ok result) :
    FaithfulTo view session store result.1 := by
  have unchanged : FaithfulTo view session store store := Faithful.of_entries rfl view
  obtain ⟨named, normalized, done⟩ := bind_eq_ok.mp done
  split at done
  · next previous next previousUsable nextUsable =>
      split at done
      · cases done
        exact unchanged
      · next sameInstance =>
          split at done
          · obtain ⟨belongs, _, rfl⟩ := answer_ok done
            exact unchanged
          · next otherEpoch =>
              split at done
              · cases done
                exact unchanged
              · next held found =>
                  split at done
                  · cases done
                    exact unchanged
                  · next owner =>
                      split at done
                      · cases done
                        exact unchanged
                      · next unambiguous =>
                          cases done
                          refine @restampMessageRows_faithful store _ named session view
                            (fun row => row.sessionName = named &&
                              row.recipient = previous.columns) next.columns ?_ ?_ rfl
                          · intro row selected
                            exact of_decide_eq_true (Bool.and_eq_true_iff.mp selected).1
                          · rintro rfl moves
                            rw [not_and_or, not_not, not_not] at owner
                            exact still ⟨previous, next, held, normalized, previousUsable,
                              nextUsable, not_not.mp sameInstance, otherEpoch, found, owner,
                              Bool.not_eq_true _ ▸ unambiguous, moves⟩
  · cases done
    exact unchanged

theorem Stirs.restamp {start store : TransportQueueStore} {session : String}
    (stirs : Stirs session start store) {p : QueueMessageRow → Bool}
    (inside : ∀ row, p row = true → row.sessionName = session) (columns : RecipientColumns) :
    Stirs session start (store.restampMessageRows p columns) := by
  refine stirs.rows rfl fun row outside => ?_
  have unselected : ∀ old : QueueEntryRow, old.sessionName ≠ session →
      ¬ p (asMessageRow old) = true := fun old different selected => different (inside _ selected)
  rw [mem_restampMessageRows]
  constructor
  · rintro ⟨old, member, rfl⟩
    by_cases selected : p (asMessageRow old) = true
    · rw [if_pos selected] at outside
      exact absurd selected (unselected old outside)
    · rwa [if_neg selected]
  · exact fun member => ⟨row, member, if_neg (unselected row outside)⟩

theorem Stirs.adoptMessages {start store : TransportQueueStore} {session : String}
    (stirs : Stirs session start store) (recipient : QueueRecipientIdentity) (createdAt : Int)
    (messages : List (String × Option Int)) :
    Stirs session start (store.adoptMessages session recipient createdAt messages).1 := by
  refine Stirs.foldl Prod.fst ?_ stirs
  intro state message stirs
  have legacyInside : ∀ row, isLegacyMessageRow session message.1 row = true →
      row.sessionName = session := by
    intro row selected
    simp only [isLegacyMessageRow, Bool.and_eq_true, decide_eq_true_eq] at selected
    exact selected.1.1
  have rotatedInside : ∀ row, isRotatedMessageRow session message.1 recipient row = true →
      row.sessionName = session := by
    intro row selected
    simp only [isRotatedMessageRow, Bool.and_eq_true, decide_eq_true_eq] at selected
    exact selected.1.1
  unfold adoptMessage
  dsimp only
  refine Stirs.restamp ?_ rotatedInside _
  split
  · exact stirs.deleteEntries rfl rfl fun row selected => legacyInside _ selected
  · exact stirs.restamp legacyInside _

theorem finishAdoption_entries {store : TransportQueueStore} {session : String}
    {recipient : QueueRecipientIdentity} {held : QueueMetaRow} {progress : AdoptionProgress} :
    (store.finishAdoption session recipient held progress).1.queueEntries =
      store.queueEntries := by
  unfold finishAdoption
  dsimp only
  split
  · split
    · rfl
    · rfl
  · split
    · split
      · rfl
      · rfl
    · split
      · rfl
      · rfl

theorem finishAdoption_lists {store : TransportQueueStore} {session named : String}
    {recipient : QueueRecipientIdentity} {held : QueueMetaRow} {progress : AdoptionProgress}
    {view : Option (Option QueueRecipientIdentity)} {item : ListedRow} :
    (store.finishAdoption named recipient held progress).1.Lists session view item ↔
      store.Lists session view item := by
  unfold Lists
  rw [finishAdoption_entries]

theorem finishAdoption_counted {store : TransportQueueStore} {session : String}
    {recipient : QueueRecipientIdentity} {known held : QueueMetaRow} {progress : AdoptionProgress}
    (purged : 0 < progress.purged) (found : store.queueMeta.lookup session = some held) :
    ∃ later, (store.finishAdoption session recipient known progress).1.queueMeta.lookup session =
        some later ∧ held.pendingMessageVersion < later.pendingMessageVersion := by
  have counted := incrementVersion_stored found
  unfold finishAdoption
  rw [if_pos purged]
  dsimp only
  split
  · exact ⟨_, counted, Nat.lt_succ_self _⟩
  · split
    · exact ⟨_, counted, Nat.lt_succ_self _⟩
    · refine ⟨{ held with
        pendingMessageVersion := held.pendingMessageVersion + 1
        recipient := recipient.columns }, ?_, Nat.lt_succ_self _⟩
      have named := (Table.lookup_eq_some_iff.mp found).2
      simp [setMetaRecipient, Table.lookup_updateWhere, counted, named]

theorem adoptLegacyRecipientIdentity_faithful {store : TransportQueueStore}
    {sessionName session : String} {recipientInput : QueueRecipientIdentity}
    {sessionCreatedAt : JsNumber} {limit : Option Int}
    {result : TransportQueueStore × AdoptLegacyRecipientResult}
    {view : Option (Option QueueRecipientIdentity)}
    (still : ¬ (Operation.adoptLegacyRecipientIdentity sessionName recipientInput sessionCreatedAt
      limit).HandsOver store session view)
    (done : store.adoptLegacyRecipientIdentity sessionName recipientInput sessionCreatedAt limit =
      .ok result) : FaithfulTo view session store result.1 := by
  have unchanged : FaithfulTo view session store store := Faithful.of_entries rfl view
  obtain ⟨named, normalized, done⟩ := bind_eq_ok.mp done
  split at done
  · next recipient createdAt usable finite =>
      split at done
      · cases done
        exact unchanged
      · next nonnegative =>
          split at done
          · cases done
            exact unchanged
          · next held found =>
              split at done
              · cases done
                exact unchanged
              · next unambiguous =>
                  simp only [Bool.or_eq_true, Bool.not_eq_true', not_or, Bool.not_eq_false,
                    Bool.not_eq_true] at unambiguous
                  cases done
                  generalize listed : store.recoverableMessages named recipient
                    (max 1 (min 100 (limit.getD 64))).toNat = messages
                  have adopted : Stirs named store
                      (store.adoptMessages named recipient createdAt messages).1 :=
                    Stirs.refl.adoptMessages recipient createdAt messages
                  by_cases purges : ∃ message ∈ messages, Purges store named createdAt message
                  · obtain ⟨message, member, purges⟩ := purges
                    refine adopted.counted finishAdoption_entries ?_ session view
                    intro stored storedFound
                    refine finishAdoption_counted ?_ storedFound
                    exact adoptMessages_purged (listed ▸ recoverableMessages_apart) member purges
                  · push Not at purges
                    apply FaithfulTo.of_lists
                    intro item
                    refine finishAdoption_lists.trans ?_
                    by_cases same : session = named
                    · subst same
                      refine adoptMessages_lists (fun message member => ⟨?_, fun moves => ?_⟩) item
                      · intro stale row stored
                        rw [Bool.eq_false_iff]
                        intro legacy
                        refine purges message member ⟨stale, asMessageRow row, ?_, legacy⟩
                        simp only [messageRows, List.mem_append]
                        exact .inl (.inl (.inl (List.mem_map_of_mem stored)))
                      · exact still ⟨recipient, createdAt, held, normalized, usable, rfl,
                          not_lt.mp nonnegative, found, unambiguous.1, unambiguous.2,
                          listed ▸ purges, message, listed ▸ member, moves⟩
                    · exact lists_iff_of_rows fun row inside =>
                        adopted.elsewhere row (inside ▸ same)
  · cases done
    exact unchanged

end TransportQueueStore

end ImCodes.Queue
