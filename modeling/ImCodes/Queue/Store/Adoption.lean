import ImCodes.Queue.Store.Handover

/-!
# Adoption as a plan for rows

What an adoption does with a row depends on the row and on how old the oldest row to be
adopted of its message is. So a batch of messages followed by the plan for what is left is
the plan for the whole session, whatever the batch was.
-/

set_option autoImplicit false

namespace ImCodes.Queue

open Library

/-- Naming another recipient changes nothing else about a row. -/
class LawfulMessageRow (Row : Type) [MessageRow Row] : Prop where
  asMessageRow_with : ∀ (row : Row) (columns : RecipientColumns),
    asMessageRow (MessageRow.withRecipient row columns) =
      { asMessageRow row with recipient := columns }
  with_with : ∀ (row : Row) (first second : RecipientColumns),
    MessageRow.withRecipient (MessageRow.withRecipient row first) second =
      MessageRow.withRecipient row second
  with_own : ∀ row : Row, MessageRow.withRecipient row (MessageRow.recipient row) = row

instance : LawfulMessageRow QueueEntryRow := ⟨fun _ _ => rfl, fun _ _ _ => rfl, fun _ => rfl⟩

instance : LawfulMessageRow QueuePrivateMaterialRow :=
  ⟨fun _ _ => rfl, fun _ _ _ => rfl, fun _ => rfl⟩

instance : LawfulMessageRow QueueDeliveryTombstoneRow :=
  ⟨fun _ _ => rfl, fun _ _ _ => rfl, fun _ => rfl⟩

instance : LawfulMessageRow QueueCancellationTombstoneRow :=
  ⟨fun _ _ => rfl, fun _ _ _ => rfl, fun _ => rfl⟩

abbrev RowPlan := QueueMessageRow → Option RecipientColumns

namespace RowPlan

def keep : RowPlan := fun row => some row.recipient

def thenPlan (first second : RowPlan) : RowPlan := fun row =>
  (first row).bind fun columns => second { row with recipient := columns }

def apply {Row : Type} [MessageRow Row] (plan : RowPlan) (row : Row) : Option Row :=
  (plan (asMessageRow row)).map (MessageRow.withRecipient row)

def applySeen (plan : RowPlan) (row : QueueMessageRow) : Option QueueMessageRow :=
  (plan row).map fun columns => { row with recipient := columns }

section Rows

variable {Row : Type} [MessageRow Row] [LawfulMessageRow Row] {plan first second : RowPlan}

theorem apply_keep (row : Row) : keep.apply row = some row :=
  congrArg some (LawfulMessageRow.with_own row)

theorem apply_thenPlan (row : Row) :
    (first.thenPlan second).apply row = (first.apply row).bind second.apply := by
  unfold apply thenPlan
  cases decided : first (asMessageRow row) with
  | none => rfl
  | some columns =>
    simp only [Option.bind_some, Option.map_some, LawfulMessageRow.asMessageRow_with]
    cases second { asMessageRow row with recipient := columns } with
    | none => rfl
    | some later => exact congrArg some (LawfulMessageRow.with_with row columns later).symm

theorem seen_apply (row : Row) :
    (plan.apply row).map asMessageRow = plan.applySeen (asMessageRow row) := by
  unfold apply applySeen
  cases plan (asMessageRow row) with
  | none => rfl
  | some columns => exact congrArg some (LawfulMessageRow.asMessageRow_with row columns)

theorem map_filterMap_apply (rows : List Row) :
    (rows.filterMap plan.apply).map asMessageRow =
      (rows.map asMessageRow).filterMap plan.applySeen := by
  rw [List.map_filterMap, List.filterMap_map]
  exact List.filterMap_congr fun row _ => seen_apply row

end Rows

end RowPlan

namespace TransportQueueStore

/-- The four message tables of `after` are those of `before`, row by row as planned. -/
structure Follows (plan : RowPlan) (before after : TransportQueueStore) : Prop where
  entries : after.queueEntries.rows = before.queueEntries.rows.filterMap plan.apply
  material :
    after.queuePrivateMaterial.rows = before.queuePrivateMaterial.rows.filterMap plan.apply
  deliveries : after.queueDeliveryTombstones.rows =
    before.queueDeliveryTombstones.rows.filterMap plan.apply
  cancellations : after.queueCancellationTombstones.rows =
    before.queueCancellationTombstones.rows.filterMap plan.apply

namespace Follows

variable {plan first second : RowPlan} {before middle after : TransportQueueStore}

private theorem filterMap_keep {Row : Type} [MessageRow Row] [LawfulMessageRow Row]
    (rows : List Row) : rows.filterMap RowPlan.keep.apply = rows := by
  rw [show (RowPlan.keep.apply : Row → Option Row) = some from
    funext RowPlan.apply_keep]
  exact List.filterMap_some

theorem keep (store : TransportQueueStore) : Follows RowPlan.keep store store :=
  ⟨(filterMap_keep _).symm, (filterMap_keep _).symm, (filterMap_keep _).symm,
    (filterMap_keep _).symm⟩

private theorem filterMap_thenPlan {Row : Type} [MessageRow Row] [LawfulMessageRow Row]
    {rows later last : List Row} (one : later = rows.filterMap first.apply)
    (two : last = later.filterMap second.apply) :
    last = rows.filterMap (first.thenPlan second).apply := by
  rw [two, one, List.filterMap_filterMap]
  exact List.filterMap_congr fun row _ => (RowPlan.apply_thenPlan row).symm

theorem trans (one : Follows first before middle) (two : Follows second middle after) :
    Follows (first.thenPlan second) before after where
  entries := filterMap_thenPlan one.entries two.entries
  material := filterMap_thenPlan one.material two.material
  deliveries := filterMap_thenPlan one.deliveries two.deliveries
  cancellations := filterMap_thenPlan one.cancellations two.cancellations

private theorem filterMap_agree {Row : Type} [MessageRow Row] {rows : List Row}
    (agree : ∀ row ∈ rows, first (asMessageRow row) = second (asMessageRow row)) :
    rows.filterMap first.apply = rows.filterMap second.apply := by
  apply List.filterMap_congr
  intro row member
  unfold RowPlan.apply
  rw [agree row member]

theorem congr (follows : Follows first before after)
    (agree : ∀ row ∈ before.messageRows, first row = second row) :
    Follows second before after := by
  have listed : ∀ row, row ∈ before.queueEntries.rows.map asMessageRow ∨
      row ∈ before.queuePrivateMaterial.rows.map asMessageRow ∨
      row ∈ before.queueDeliveryTombstones.rows.map asMessageRow ∨
      row ∈ before.queueCancellationTombstones.rows.map asMessageRow →
      first row = second row := by
    intro row member
    apply agree row
    simp only [messageRows, List.mem_append]
    tauto
  constructor
  · rw [follows.entries]
    exact filterMap_agree fun row member =>
      listed _ (.inl (List.mem_map_of_mem member))
  · rw [follows.material]
    exact filterMap_agree fun row member =>
      listed _ (.inr (.inl (List.mem_map_of_mem member)))
  · rw [follows.deliveries]
    exact filterMap_agree fun row member =>
      listed _ (.inr (.inr (.inl (List.mem_map_of_mem member))))
  · rw [follows.cancellations]
    exact filterMap_agree fun row member =>
      listed _ (.inr (.inr (.inr (List.mem_map_of_mem member))))

theorem messageRows (follows : Follows plan before after) :
    after.messageRows = before.messageRows.filterMap plan.applySeen := by
  unfold TransportQueueStore.messageRows
  rw [follows.entries, follows.material, follows.deliveries, follows.cancellations]
  simp only [RowPlan.map_filterMap_apply, List.filterMap_append]

theorem of_tables {other : TransportQueueStore} (follows : Follows plan before after)
    (same : SameMessages after other) : Follows plan before other where
  entries := same.queueEntries ▸ follows.entries
  material := same.queuePrivateMaterial ▸ follows.material
  deliveries := same.queueDeliveryTombstones ▸ follows.deliveries
  cancellations := same.queueCancellationTombstones ▸ follows.cancellations

end Follows

/-! ## The statements of an adoption -/

/-- `DELETE ... WHERE p`. -/
def deletion (p : QueueMessageRow → Bool) : RowPlan := fun row =>
  if p row then none else some row.recipient

/-- `UPDATE` of the recipient `WHERE p`. -/
def restamping (p : QueueMessageRow → Bool) (columns : RecipientColumns) : RowPlan := fun row =>
  if p row then some columns else some row.recipient

section Statements

variable {Row Key : Type} [MessageRow Row] [LawfulMessageRow Row] {key : Row → Key}

private theorem deleteWhere_rows (table : Table Row Key key) (p : QueueMessageRow → Bool) :
    (table.deleteWhere fun row => p (asMessageRow row)).rows =
      table.rows.filterMap (deletion p).apply := by
  change table.rows.filter _ = _
  rw [← List.filterMap_eq_filter]
  apply List.filterMap_congr
  intro row _
  by_cases selected : p (asMessageRow row) = true
  · simp [RowPlan.apply, deletion, Option.guard, selected]
  · simp only [Option.guard, selected, RowPlan.apply, deletion]
    exact congrArg some (LawfulMessageRow.with_own row).symm

private theorem updateWhere_rows (table : Table Row Key key) (p : QueueMessageRow → Bool)
    (columns : RecipientColumns)
    (keeps : ∀ row, key (MessageRow.withRecipient row columns) = key row) :
    (table.updateWhere (fun row => p (asMessageRow row))
      (fun row => MessageRow.withRecipient row columns) keeps).rows =
      table.rows.filterMap (restamping p columns).apply := by
  change table.rows.map _ = _
  rw [← List.filterMap_eq_map]
  apply List.filterMap_congr
  intro row _
  by_cases selected : p (asMessageRow row) = true
  · simp [RowPlan.apply, restamping, selected]
  · simp only [Function.comp_apply, selected, RowPlan.apply, restamping]
    exact congrArg some (LawfulMessageRow.with_own row).symm

end Statements

theorem deleteMessageRows_follows (store : TransportQueueStore) (p : QueueMessageRow → Bool) :
    Follows (deletion p) store (store.deleteMessageRows p) :=
  ⟨deleteWhere_rows _ p, deleteWhere_rows _ p, deleteWhere_rows _ p, deleteWhere_rows _ p⟩

theorem restampMessageRows_follows (store : TransportQueueStore) (p : QueueMessageRow → Bool)
    (columns : RecipientColumns) :
    Follows (restamping p columns) store (store.restampMessageRows p columns) :=
  ⟨updateWhere_rows _ p columns fun _ => rfl, updateWhere_rows _ p columns fun _ => rfl,
    updateWhere_rows _ p columns fun _ => rfl, updateWhere_rows _ p columns fun _ => rfl⟩

/-! ## The plan of a batch -/

def isRecoverable (session : String) (recipient : QueueRecipientIdentity)
    (row : QueueMessageRow) : Bool :=
  row.sessionName = session && row.recipient.recoverable recipient

/-- Legacy rows of stale messages go; the other rows of the chosen messages become the
caller's. -/
def adoptionPlan (session : String) (recipient : QueueRecipientIdentity)
    (chosen stale : String → Bool) : RowPlan := fun row =>
  if isRecoverable session recipient row && chosen row.clientMessageId then
    if row.recipient = .legacy && stale row.clientMessageId then none else some recipient.columns
  else some row.recipient

section Plans

variable {session : String} {recipient : QueueRecipientIdentity} {createdAt : Int}

theorem isRecoverable_columns {row : QueueMessageRow} :
    isRecoverable session recipient { row with recipient := recipient.columns } = false := by
  simp [isRecoverable, RecipientColumns.recoverable, RecipientColumns.rotated,
    QueueRecipientIdentity.columns, RecipientColumns.legacy]

theorem rotated_legacy : RecipientColumns.legacy.rotated recipient = false := by
  simp [RecipientColumns.rotated, RecipientColumns.legacy]

theorem adoptMessage_follows (store : TransportQueueStore) (progress : AdoptionProgress)
    (message : String × Option Int) :
    Follows (adoptionPlan session recipient (fun id => id = message.1)
        fun _ => isStale createdAt message)
      store (store.adoptMessage progress session recipient createdAt message).1 := by
  unfold adoptMessage
  dsimp only
  by_cases stale : (message.2.any fun oldestAt => decide (oldestAt < createdAt)) = true
  · rw [if_pos stale]
    refine ((deleteMessageRows_follows _ _).trans (restampMessageRows_follows _ _ _)).congr ?_
    intro row _
    have staleMessage : isStale createdAt message = true := stale
    by_cases legacy : row.recipient = .legacy
    · by_cases named : row.sessionName = session ∧ row.clientMessageId = message.1
      · simp [RowPlan.thenPlan, deletion, adoptionPlan, isLegacyMessageRow, isRecoverable,
          RecipientColumns.recoverable, legacy, named, staleMessage]
      · simp [RowPlan.thenPlan, deletion, restamping, adoptionPlan, isLegacyMessageRow,
          isRotatedMessageRow, isRecoverable, RecipientColumns.recoverable, legacy, named,
          rotated_legacy]
    · simp [RowPlan.thenPlan, deletion, restamping, adoptionPlan, isLegacyMessageRow,
        isRotatedMessageRow, isRecoverable, RecipientColumns.recoverable, legacy]
      grind
  · rw [if_neg stale]
    refine ((restampMessageRows_follows _ _ _).trans (restampMessageRows_follows _ _ _)).congr ?_
    intro row _
    have freshMessage : isStale createdAt message = false := Bool.not_eq_true _ ▸ stale
    by_cases legacy : row.recipient = .legacy
    · by_cases named : row.sessionName = session ∧ row.clientMessageId = message.1
      · simp [RowPlan.thenPlan, restamping, adoptionPlan, isLegacyMessageRow, isRecoverable,
          RecipientColumns.recoverable, legacy, named, freshMessage, isRotatedMessageRow]
      · simp [RowPlan.thenPlan, restamping, adoptionPlan, isLegacyMessageRow,
          isRotatedMessageRow, isRecoverable, RecipientColumns.recoverable, legacy, named,
          rotated_legacy]
    · simp [RowPlan.thenPlan, restamping, adoptionPlan, isLegacyMessageRow,
        isRotatedMessageRow, isRecoverable, RecipientColumns.recoverable, legacy]
      grind

theorem adoptionPlan_then {early late stale staleLate : String → Bool} {row : QueueMessageRow}
    (agree : early row.clientMessageId = false →
      stale row.clientMessageId = staleLate row.clientMessageId) :
    ((adoptionPlan session recipient early stale).thenPlan
        (adoptionPlan session recipient late staleLate)) row =
      adoptionPlan session recipient (fun id => early id || late id) stale row := by
  unfold RowPlan.thenPlan
  cases recoverable : isRecoverable session recipient row with
  | false => simp [adoptionPlan, recoverable]
  | true =>
    cases chosen : early row.clientMessageId with
    | false => simp [adoptionPlan, recoverable, chosen, agree chosen]
    | true =>
      cases gone : (row.recipient = .legacy && stale row.clientMessageId : Bool) with
      | true => simp only [adoptionPlan, recoverable, chosen, gone]; rfl
      | false =>
        simp only [adoptionPlan, recoverable, chosen, gone, Bool.true_or, Bool.and_self,
          if_true, Bool.false_eq_true, if_false, Option.bind_some, isRecoverable_columns,
          Bool.false_and]

theorem adoptMessages_follows {oldest : String → Option Int} (store : TransportQueueStore)
    {messages : List (String × Option Int)}
    (read : ∀ message ∈ messages, message.2 = oldest message.1) :
    Follows (adoptionPlan session recipient (fun id => (messages.map Prod.fst).contains id)
        fun id => isStale createdAt (id, oldest id))
      store (store.adoptMessages session recipient createdAt messages).1 := by
  unfold adoptMessages
  generalize (⟨0, 0⟩ : AdoptionProgress) = progress
  induction messages generalizing store progress with
  | nil =>
    refine (Follows.keep store).congr fun row _ => ?_
    simp [RowPlan.keep, adoptionPlan]
  | cons message rest ih =>
    have first := @adoptMessage_follows session recipient createdAt store progress message
    have later := ih (store.adoptMessage progress session recipient createdAt message).1
      (fun other listed => read other (List.mem_cons_of_mem _ listed))
      (store.adoptMessage progress session recipient createdAt message).2
    refine (first.trans later).congr fun row _ => ?_
    have age : isStale createdAt message = isStale createdAt (message.1, oldest message.1) := by
      rw [← read message List.mem_cons_self]
    have named : (adoptionPlan session recipient (fun id => id = message.1)
        fun _ => isStale createdAt message) =
        adoptionPlan session recipient (fun id => id = message.1)
          fun id => isStale createdAt (id, oldest id) := by
      funext other
      unfold adoptionPlan
      by_cases same : other.clientMessageId = message.1
      · rw [same, age]
      · simp [same]
    rw [named, adoptionPlan_then fun _ => rfl]
    simp only [List.map_cons, List.contains_cons, beq_eq_decide]

/-! ## One batch after the other -/

/-- How old the oldest row to be adopted of a message is. -/
def oldestRecoverable (store : TransportQueueStore) (session : String)
    (recipient : QueueRecipientIdentity) (clientMessageId : String) : Option Int :=
  (((store.messageRows.filter (isRecoverable session recipient)).filter fun row =>
    row.clientMessageId = clientMessageId).map (·.timestamp)).min?

/-- The plan for every row that is left to adopt. -/
def wholePlan (store : TransportQueueStore) (session : String)
    (recipient : QueueRecipientIdentity) (createdAt : Int) : RowPlan :=
  adoptionPlan session recipient (fun _ => true) fun id =>
    isStale createdAt (id, store.oldestRecoverable session recipient id)

def remaining (store : TransportQueueStore) (session : String)
    (recipient : QueueRecipientIdentity) : List QueueMessageRow :=
  store.messageRows.filter (isRecoverable session recipient)

theorem recoverableMessages_read {store : TransportQueueStore} {limit : Nat} :
    ∀ message ∈ store.recoverableMessages session recipient limit,
      message.2 = store.oldestRecoverable session recipient message.1 := by
  intro message listed
  obtain ⟨id, _, rfl⟩ := List.mem_map.mp listed
  rfl

theorem recoverableMessages_nonempty {store : TransportQueueStore} {limit : Nat}
    (positive : 0 < limit) (left : store.remaining session recipient ≠ []) :
    ∃ row ∈ store.remaining session recipient, row.clientMessageId ∈
      (store.recoverableMessages session recipient limit).map Prod.fst := by
  unfold recoverableMessages
  simp only [List.map_map]
  rw [show (Prod.fst ∘ fun id => _ : String → String) = id from rfl, List.map_id]
  change ∃ row ∈ store.remaining session recipient, row.clientMessageId ∈
    ((firstOccurrences ((store.remaining session recipient).map
      (·.clientMessageId))).insertionSort fun a b : String => ¬ b < a).take limit
  generalize sorted : (firstOccurrences ((store.remaining session recipient).map
    (·.clientMessageId))).insertionSort (fun a b : String => ¬ b < a) = ids
  have among : ∀ id, id ∈ ids ↔ id ∈ (store.remaining session recipient).map
      (·.clientMessageId) := by
    intro id
    rw [← sorted, List.mem_insertionSort, mem_firstOccurrences]
  cases ids with
  | nil =>
    obtain ⟨row, member⟩ := List.exists_mem_of_ne_nil _ left
    exact absurd ((among _).mpr (List.mem_map_of_mem member)) List.not_mem_nil
  | cons first rest =>
    obtain ⟨row, member, named⟩ := List.mem_map.mp ((among first).mp List.mem_cons_self)
    refine ⟨row, member, ?_⟩
    obtain ⟨more, rfl⟩ := Nat.exists_eq_add_of_lt positive
    rw [named, Nat.zero_add, List.take_succ_cons]
    exact List.mem_cons_self

private theorem filter_filterMap {Item : Type} {change : Item → Option Item}
    {before after : Item → Bool} {items : List Item}
    (agree : ∀ item ∈ items, (change item).filter after =
      if before item then some item else none) :
    (items.filterMap change).filter after = items.filter before := by
  induction items with
  | nil => rfl
  | cons item rest ih =>
    have first := agree item List.mem_cons_self
    have later := ih fun other listed => agree other (List.mem_cons_of_mem _ listed)
    cases changed : change item with
    | none =>
      rw [changed] at first
      have gone : before item = false := by
        by_contra kept
        rw [Bool.not_eq_false] at kept
        rw [if_pos kept] at first
        cases first
      rw [List.filterMap_cons_none changed, later, List.filter_cons_of_neg (by simp [gone])]
    | some other =>
      rw [changed, Option.filter_some] at first
      rw [List.filterMap_cons_some changed, List.filter_cons, List.filter_cons, later]
      by_cases kept : before item = true
      · rw [if_pos kept] at first ⊢
        split at first
        · next seen =>
            cases first
            rw [if_pos seen]
        · cases first
      · rw [if_neg kept] at first ⊢
        split at first
        · cases first
        · next unseen => rw [if_neg unseen]

theorem Follows.remaining {chosen stale : String → Bool} {store next : TransportQueueStore}
    (follows : Follows (adoptionPlan session recipient chosen stale) store next) :
    next.remaining session recipient = (store.remaining session recipient).filter
      fun row => !chosen row.clientMessageId := by
  unfold TransportQueueStore.remaining
  rw [follows.messageRows, List.filter_filter]
  apply filter_filterMap
  intro row _
  unfold RowPlan.applySeen adoptionPlan
  cases recoverable : isRecoverable session recipient row with
  | false => simp [recoverable]
  | true =>
    cases taken : chosen row.clientMessageId with
    | false => simp [recoverable]
    | true =>
      simp only [Bool.and_self, if_true, Bool.not_true, Bool.false_and, Bool.false_eq_true,
        if_false]
      split
      · rfl
      · simp [isRecoverable_columns]

theorem Follows.batch_then_whole {chosen : String → Bool} {store next last : TransportQueueStore}
    (batch : Follows (adoptionPlan session recipient chosen fun id =>
      isStale createdAt (id, store.oldestRecoverable session recipient id)) store next)
    (rest : Follows (next.wholePlan session recipient createdAt) next last) :
    Follows (store.wholePlan session recipient createdAt) store last := by
  refine (batch.trans rest).congr fun row _ => ?_
  unfold wholePlan
  rw [adoptionPlan_then]
  · simp only [Bool.or_true]
  · intro spared
    have same : next.oldestRecoverable session recipient row.clientMessageId =
        store.oldestRecoverable session recipient row.clientMessageId := by
      have left := batch.remaining
      unfold TransportQueueStore.remaining at left
      unfold oldestRecoverable
      rw [left, List.filter_filter]
      refine congrArg (fun rows : List QueueMessageRow => (rows.map (·.timestamp)).min?) ?_
      apply List.filter_congr
      intro other _
      by_cases same : other.clientMessageId = row.clientMessageId
      · simp [same, spared]
      · simp [same]
    rw [same]

theorem follows_wholePlan_of_none_left {store : TransportQueueStore}
    (none : store.remaining session recipient = []) :
    Follows (store.wholePlan session recipient createdAt) store store := by
  refine (Follows.keep store).congr fun row member => ?_
  have unrecoverable := List.filter_eq_nil_iff.mp none row member
  simp [RowPlan.keep, wholePlan, adoptionPlan, unrecoverable]

end Plans

end TransportQueueStore

end ImCodes.Queue
