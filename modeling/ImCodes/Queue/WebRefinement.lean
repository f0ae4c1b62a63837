import ImCodes.Library.Run
import ImCodes.Queue.WebProjection

/-!
# The browser's projection and the shared reducer

Beside the browser's fields runs the shared reducer over the same inputs. They show the same
queue as long as every entry that takes the way through the fields comes back as it was.
-/

set_option autoImplicit false

namespace ImCodes.Queue

open Library

/-! ## Entries on their way through the fields -/

def roundTrip (entry : TransportPendingMessageEntry) : Option TransportPendingMessageEntry :=
  (extractEntry entry).map fun read => { read with sharedActor := none }

/-- An entry that comes back as it was: its id is trimmed, it has an id and a text, and nothing
says who sent it. -/
structure TransportPendingMessageEntry.Plain (entry : TransportPendingMessageEntry) : Prop where
  trimmed : trim entry.clientMessageId = entry.clientMessageId
  named : entry.clientMessageId ≠ ""
  worded : entry.text ≠ ""
  unsigned : entry.sharedActor = none

theorem roundTrip_eq_self_iff {entry : TransportPendingMessageEntry} :
    roundTrip entry = some entry ↔ entry.Plain := by
  obtain ⟨clientMessageId, text, sharedActor, deliveryMode, appendFallbackReason⟩ := entry
  unfold roundTrip extractEntry
  dsimp only
  constructor
  · intro same
    split at same
    · cases same
    · rename_i complete
      simp only [not_or] at complete
      simp only [Option.map_some, Option.some.injEq, TransportPendingMessageEntry.mk.injEq,
        true_and, and_true] at same
      exact ⟨same.1, same.1 ▸ complete.1, complete.2, same.2.symm⟩
  · intro ⟨isTrimmed, named, worded, unsigned⟩
    dsimp only at isTrimmed named worded unsigned
    rw [isTrimmed, if_neg (by simp [named, worded]), unsigned]
    rfl

theorem roundTrip_plain {entry back : TransportPendingMessageEntry}
    (returned : roundTrip entry = some back) : back.Plain := by
  unfold roundTrip extractEntry at returned
  dsimp only at returned
  split at returned
  · cases returned
  · rename_i complete
    simp only [not_or] at complete
    simp only [Option.map_some, Option.some.injEq] at returned
    subst returned
    exact ⟨trim_trim _, complete.1, complete.2, rfl⟩

theorem filter_mapIdx {Item Placed Seen : Type} {place : Nat → Item → Placed}
    {keepPlaced : Placed → Bool} {keep : Item → Bool} {seePlaced : Placed → Seen}
    {see : Item → Seen} (keeps : ∀ index item, keepPlaced (place index item) = keep item)
    (sees : ∀ index item, seePlaced (place index item) = see item) (items : List Item) :
    ((items.mapIdx place).filter keepPlaced).map seePlaced = (items.filter keep).map see := by
  induction items generalizing place with
  | nil => rfl
  | cons item rest ih =>
    have later := @ih (fun index => place (index + 1)) (fun index => keeps (index + 1))
      (fun index => sees (index + 1))
    rw [List.mapIdx_cons, List.filter_cons, List.filter_cons, keeps]
    split
    · rw [List.map_cons, List.map_cons, sees, later]
    · exact later

theorem sortEntries_placed [Host] (status : QueueEntryStatus)
    (entries : List TransportPendingMessageEntry) (keep : QueueProjectionEntry → Bool) :
    sortEntries ((entries.mapIdx (projectionAt status)).filter keep) =
      (entries.mapIdx (projectionAt status)).filter keep := by
  apply List.Pairwise.insertionSort_eq
  apply List.Pairwise.filter
  rw [List.pairwise_iff_getElem]
  intro first second firstBound secondBound before
  simp only [List.getElem_mapIdx, QueueProjectionEntry.position, projectionAt,
    compareQueuePositions, ne_eq, not_true_eq_false, if_false]
  rw [if_pos (by omega)]
  omega

theorem fromQueueProjectionEntries_filter (status : QueueEntryStatus)
    (entries : List TransportPendingMessageEntry) (keep : QueueProjectionEntry → Bool)
    (keepId : String → Bool)
    (byId : ∀ index entry, keep (projectionAt status index entry) = keepId entry.clientMessageId) :
    fromQueueProjectionEntries ((toQueueProjectionEntries entries status).filter keep) =
      entries.filterMap fun entry =>
        (roundTrip entry).filter fun back => keepId back.clientMessageId := by
  have placed := @filter_mapIdx _ _ _ (projectionAt status) keep
    (fun entry => keepId entry.clientMessageId) QueueProjectionEntry.toPending
    (fun entry => { entry with sharedActor := none }) byId (fun _ _ => rfl)
    (extractTransportPendingMessageEntries entries)
  unfold fromQueueProjectionEntries toQueueProjectionEntries
  rw [placed]
  unfold extractTransportPendingMessageEntries
  rw [List.filter_filterMap, List.map_filterMap]
  apply List.filterMap_congr
  intro entry _
  unfold roundTrip
  cases extractEntry entry with
  | none => rfl
  | some read =>
    simp only [Option.map_some, Option.filter_some]
    split <;> rfl

section Reading
variable {Item Seen : Type} {read : Item → Option Seen} {keep : Item → Bool} {see : Item → Seen}

theorem filterMap_covers (items : List Item)
    (readKept : ∀ item ∈ items, keep item = true → read item = some (see item)) :
    (items.filter keep).length ≤ (items.filterMap read).length ∧
      ((items.filterMap read).length ≤ (items.filter keep).length →
        ∀ item ∈ items, keep item = false → read item = none) := by
  induction items with
  | nil => simp
  | cons item rest ih =>
    obtain ⟨atLeast, others⟩ := ih fun other isLater => readKept other (by simp [isLater])
    cases isKept : keep item with
    | true =>
      have isRead := readKept item (by simp) isKept
      simp only [List.filterMap_cons, isRead, List.filter_cons, isKept, if_true,
        List.length_cons, Nat.add_le_add_iff_right]
      refine ⟨atLeast, ?_⟩
      intro short other isListed dropped
      rcases List.mem_cons.mp isListed with isFirst | isLater
      · subst isFirst
        simp [isKept] at dropped
      · exact others short other isLater dropped
    | false =>
      cases isRead : read item with
      | none =>
        simp only [List.filterMap_cons, isRead, List.filter_cons, isKept,
          Bool.false_eq_true, if_false]
        refine ⟨atLeast, ?_⟩
        intro short other isListed dropped
        rcases List.mem_cons.mp isListed with isFirst | isLater
        · subst isFirst
          exact isRead
        · exact others short other isLater dropped
      | some seen =>
        simp only [List.filterMap_cons, isRead, List.filter_cons, isKept,
          Bool.false_eq_true, if_false, List.length_cons]
        omega

theorem filterMap_of_pointwise {items : List Item}
    (pointwise : ∀ item ∈ items,
      if keep item then read item = some (see item) else read item = none) :
    items.filterMap read = (items.filter keep).map see := by
  induction items with
  | nil => rfl
  | cons item rest ih =>
    have later := ih fun other isLater => pointwise other (by simp [isLater])
    have first := pointwise item (by simp)
    rw [List.filterMap_cons, List.filter_cons]
    split at first
    · rename_i isKept
      rw [first, if_pos isKept, List.map_cons, later]
    · rename_i isDropped
      rw [first, if_neg isDropped]
      exact later

theorem filterMap_eq_iff {stays : Seen → Prop}
    (given : ∀ item seen, read item = some seen → stays seen)
    (keeps : ∀ item, keep item = true → stays (see item) → read item = some (see item))
    {items : List Item} {shown : List Seen}
    (rearranged : shown.Perm ((items.filter keep).map see)) :
    items.filterMap read = shown ↔
      (∀ item ∈ items, if keep item then stays (see item) else read item = none) ∧
        shown = (items.filter keep).map see := by
  have asRead : ∀ item, (if keep item then stays (see item) else read item = none) →
      if keep item then read item = some (see item) else read item = none := by
    intro item holds
    split at holds
    · rename_i isKept
      rw [if_pos isKept]
      exact keeps item isKept holds
    · rename_i isDropped
      rw [if_neg isDropped]
      exact holds
  constructor
  · intro same
    have staysKept : ∀ item ∈ items, keep item = true → stays (see item) := by
      intro item isListed isKept
      have isShown : see item ∈ items.filterMap read := by
        rw [same, rearranged.mem_iff]
        exact List.mem_map_of_mem (List.mem_filter.mpr ⟨isListed, isKept⟩)
      obtain ⟨source, _, isRead⟩ := List.mem_filterMap.mp isShown
      exact given source _ isRead
    have short : (items.filterMap read).length ≤ (items.filter keep).length := by
      rw [same, rearranged.length_eq, List.length_map]
    have dropped := (filterMap_covers items fun item isListed isKept =>
      keeps item isKept (staysKept item isListed isKept)).2 short
    have pointwise : ∀ item ∈ items,
        if keep item then stays (see item) else read item = none := by
      intro item isListed
      split
      · rename_i isKept
        exact staysKept item isListed isKept
      · rename_i isDropped
        exact dropped item isListed (by simpa using isDropped)
    refine ⟨pointwise, ?_⟩
    rw [← same]
    exact filterMap_of_pointwise fun item isListed => asRead item (pointwise item isListed)
  · intro ⟨pointwise, unmoved⟩
    rw [unmoved]
    exact filterMap_of_pointwise fun item isListed => asRead item (pointwise item isListed)

end Reading

/-! ## Settled ids -/

theorem toList_tombstoneKey (epoch id : String) :
    (tombstoneKey epoch id).toList = epoch.toList ++ ':' :: id.toList := by
  simp [tombstoneKey]

theorem tombstoneKey_inj {epoch left right : String}
    (same : tombstoneKey epoch left = tombstoneKey epoch right) : left = right := by
  have lists := congrArg String.toList same
  simp only [toList_tombstoneKey] at lists
  have tails := List.append_cancel_left lists
  simp only [List.cons.injEq, true_and] at tails
  exact String.toList_injective tails

theorem settledIdOf_eq_some_iff {epoch key id : String} :
    settledIdOf epoch key = some id ↔ key = tombstoneKey epoch id ∧ id ≠ "" := by
  unfold settledIdOf
  simp only [toList_tombstoneKey]
  constructor
  · intro found
    split at found
    · rename_i marked
      rw [List.isPrefixOf_iff_prefix] at marked
      obtain ⟨rest, isKey⟩ := marked
      rw [truthy_eq_some_iff] at found
      obtain ⟨isId, named⟩ := found
      refine ⟨?_, named⟩
      rw [Option.some.injEq, ← isKey, List.drop_left] at isId
      apply String.toList_injective
      rw [toList_tombstoneKey, ← isKey, ← isId]
      simp
    · cases found
  · intro ⟨isKey, named⟩
    subst isKey
    rw [toList_tombstoneKey, if_pos]
    · rw [truthy_eq_some_iff]
      refine ⟨?_, named⟩
      simp
    · rw [List.isPrefixOf_iff_prefix]
      exact ⟨id.toList, by simp⟩

theorem mem_settledMessageIds {state : TransportQueueReducerState} {id : String} :
    id ∈ settledMessageIds state ↔
      id ≠ "" ∧ ∃ epoch, truthy state.queueEpoch = some epoch ∧
        tombstoneKey epoch id ∈ state.deliveredTombstones := by
  unfold settledMessageIds
  cases truthy state.queueEpoch with
  | none => simp
  | some epoch =>
    simp only [sortByUtf16, List.mem_insertionSort, List.mem_filterMap, settledIdOf_eq_some_iff,
      Option.some.injEq]
    constructor
    · intro ⟨key, isKept, isKey, named⟩
      subst isKey
      exact ⟨named, epoch, rfl, isKept⟩
    · intro ⟨named, other, isEpoch, isKept⟩
      subst isEpoch
      exact ⟨_, isKept, rfl, named⟩

theorem mem_settledTombstones {queueEpoch : Option String} {settledIds : List String}
    {key : String} :
    key ∈ settledTombstones queueEpoch settledIds ↔
      ∃ epoch id, truthy queueEpoch = some epoch ∧ id ∈ settledIds ∧ id ≠ "" ∧
        key = tombstoneKey epoch id := by
  unfold settledTombstones
  cases truthy queueEpoch with
  | none => simp
  | some epoch =>
    have folded : ∀ (ids kept : List String),
        key ∈ ids.foldl (fun tombstones id => addTombstone (tombstoneKey epoch id) tombstones)
          kept ↔ key ∈ kept ∨ ∃ id ∈ ids, key = tombstoneKey epoch id := by
      intro ids
      induction ids with
      | nil => simp
      | cons id rest ih =>
        intro kept
        rw [List.foldl_cons, ih, mem_addTombstone]
        simp only [List.mem_cons, exists_eq_or_imp]
        tauto
    dsimp only
    rw [folded]
    simp only [List.not_mem_nil, List.mem_filter, decide_eq_true_eq, false_or,
      Option.some.injEq]
    constructor
    · rintro ⟨id, ⟨isSettled, named⟩, isKey⟩
      exact ⟨epoch, id, rfl, isSettled, named, isKey⟩
    · rintro ⟨other, id, isEpoch, isSettled, named, isKey⟩
      subst isEpoch
      exact ⟨id, ⟨isSettled, named⟩, isKey⟩

/-! ## The two side by side -/

/-- The shared reducer's state and the browser's fields after the same inputs. -/
structure QueueViews where
  reduced : TransportQueueReducerState
  shown : TransportPendingQueueSyncState

namespace QueueViews

def initial (scopeKey : String) : QueueViews :=
  ⟨createTransportQueueReducerState (some scopeKey), .initial⟩

abbrev Input (scopeKey : String) := { input : WebQueueInput // input.sessionName = scopeKey }

def step [Host] (scopeKey : String) (views : QueueViews) (input : Input scopeKey) : QueueViews :=
  ⟨reduceTransportQueueEvent views.reduced input.val.toQueueEvent,
    webStep scopeKey views.shown input.val⟩

def settledIds (views : QueueViews) : List String :=
  views.shown.transportPendingSettledMessageIds.getD []

/-- The browser shows what the reducer has, and its settled ids are the tombstones of the
epoch. -/
structure Agree (views : QueueViews) : Prop where
  epoch : views.shown.queueEpoch = views.reduced.queueEpoch
  authority : views.shown.queueAuthorityId = views.reduced.queueAuthorityId
  version : views.shown.transportPendingMessageVersion = views.reduced.pendingMessageVersion
  messages : views.shown.transportPendingMessages =
    views.reduced.pendingMessageEntries.map (·.text)
  pending : views.shown.transportPendingMessageEntries =
    fromQueueProjectionEntries views.reduced.pendingMessageEntries
  failed : views.shown.failedMessageEntries =
    fromQueueProjectionEntries views.reduced.failedMessageEntries
  settled : ∀ id, id ≠ "" → (id ∈ views.settledIds ↔ ∃ epoch,
    views.reduced.queueEpoch = some epoch ∧
      tombstoneKey epoch id ∈ views.reduced.deliveredTombstones)

def Complete (views : QueueViews) : Prop :=
  (views.reduced.queueEpoch = none ∧ views.reduced.deliveredTombstones = []) ∨
    ∃ baseline, views.reduced.baseline? = some baseline

theorem agree_initial (scopeKey : String) : (initial scopeKey).Agree := by
  refine ⟨rfl, rfl, rfl, rfl, rfl, rfl, ?_⟩
  intro id _
  simp [initial, settledIds, TransportPendingQueueSyncState.initial,
    createTransportQueueReducerState]

theorem complete_initial (scopeKey : String) : (initial scopeKey).Complete :=
  .inl ⟨rfl, rfl⟩

/-! ## What an input must not meet -/

def Concerns (state : TransportQueueReducerState) (queueEpoch queueAuthorityId : String) : Prop :=
  ∃ baseline, state.baseline? = some baseline ∧ queueEpoch = baseline.queueEpoch ∧
    queueAuthorityId = baseline.queueAuthorityId

def PlainBut (clientMessageId : String) (entries : List QueueProjectionEntry) : Prop :=
  ∀ entry ∈ entries,
    if entry.clientMessageId ≠ clientMessageId then entry.toPending.Plain
    else ∀ back, roundTrip entry.toPending = some back → back.clientMessageId = clientMessageId

def InDisplayOrder [Host] (entries : List QueueProjectionEntry) : Prop :=
  fromQueueProjectionEntries (sortEntries entries) = fromQueueProjectionEntries entries

def tombstonesFor (state : TransportQueueReducerState) (queueEpoch : String) : List String :=
  if state.queueEpoch ≠ none ∧ state.queueEpoch ≠ some queueEpoch then []
  else state.deliveredTombstones

/-- A snapshot the reducer keeps an entry of. -/
def keepsLive (state : TransportQueueReducerState) (snapshot : QueueSnapshot)
    (entry : QueueProjectionEntry) : Bool :=
  entry.status.isLive &&
    decide (tombstoneKey snapshot.queueEpoch entry.clientMessageId ∉
      tombstonesFor state snapshot.queueEpoch)

/-- The live entries not settled are plain and in display order, and of the others nothing comes
back that is not settled; so are the failed ones, and of the others nothing comes back. -/
structure ListsPlainly [Host] (state : TransportQueueReducerState) (snapshot : QueueSnapshot) :
    Prop where
  live : ∀ entry ∈ snapshot.pendingMessageEntries,
    if keepsLive state snapshot entry then entry.toPending.Plain
    else ∀ back, roundTrip entry.toPending = some back →
      tombstoneKey snapshot.queueEpoch back.clientMessageId ∈
        tombstonesFor state snapshot.queueEpoch
  liveOrder : InDisplayOrder (snapshot.pendingMessageEntries.filter (keepsLive state snapshot))
  failed : ∀ entry ∈ snapshot.failedMessageEntries,
    if entry.status.isFailed then entry.toPending.Plain else roundTrip entry.toPending = none
  failedOrder : InDisplayOrder (snapshot.failedMessageEntries.filter (·.status.isFailed))

/-- Nothing an input of the current queue makes take the way through the fields is changed by
it; a reset of the same epoch finds no settled message, and a snapshot no nameless entry that
was settled. -/
def Carries [Host] (state : TransportQueueReducerState) : WebQueueInput → Prop
  | .sync value => state.Accepts value.announcement → ListsPlainly state value
  | .event (.delivery delivery) =>
    Concerns state delivery.queueEpoch delivery.queueAuthorityId →
      PlainBut delivery.clientMessageId state.pendingMessageEntries ∧
        PlainBut delivery.clientMessageId state.failedMessageEntries
  | .event (.failure failure) =>
    Concerns state failure.queueEpoch failure.queueAuthorityId →
      PlainBut failure.clientMessageId state.pendingMessageEntries ∧
        ∀ entry ∈ state.failedMessageEntries, entry.toPending.Plain
  | .event (.reset reset) =>
    state.Accepts reset.announcement → state.queueEpoch = some reset.queueEpoch →
      ∀ id, id ≠ "" → tombstoneKey reset.queueEpoch id ∉ state.deliveredTombstones
  | .event (.snapshot snapshot) =>
    state.Accepts snapshot.announcement → ∀ entry ∈ snapshot.pendingMessageEntries,
      entry.status.isLive = true → entry.clientMessageId = "" →
        tombstoneKey snapshot.queueEpoch "" ∉ tombstonesFor state snapshot.queueEpoch
  | .event (.receipt _) => True

/-! ## The rebuilt baseline -/

variable {views : QueueViews} {scopeKey : String}

theorem Agree.baseline? (agree : views.Agree) :
    (buildTransportQueueReducerBaseline views.shown scopeKey).baseline? =
      views.reduced.baseline? := by
  unfold TransportQueueReducerState.baseline? buildTransportQueueReducerBaseline
  dsimp only
  rw [agree.epoch, agree.authority, agree.version]

theorem Agree.canApplySnapshot (agree : views.Agree) (announced : QueueAnnouncement) :
    Queue.canApplySnapshot (buildTransportQueueReducerBaseline views.shown scopeKey) announced =
      Queue.canApplySnapshot views.reduced announced := by
  unfold Queue.canApplySnapshot
  rw [agree.baseline?]

theorem Agree.tombstone_iff (agree : views.Agree) {baseline : QueueBaseline}
    (found : views.reduced.baseline? = some baseline) {id : String} (named : id ≠ "") :
    tombstoneKey baseline.queueEpoch id ∈
        (buildTransportQueueReducerBaseline views.shown scopeKey).deliveredTombstones ↔
      tombstoneKey baseline.queueEpoch id ∈ views.reduced.deliveredTombstones := by
  have isBaseline := baseline?_eq_some found
  have isEpoch : truthy views.shown.queueEpoch = some baseline.queueEpoch := by
    rw [agree.epoch, isBaseline.1]
    exact truthy_some isBaseline.2.1
  change _ ∈ settledTombstones _ _ ↔ _
  rw [mem_settledTombstones]
  constructor
  · intro ⟨epoch, other, isOther, isSettled, _, isKey⟩
    cases isEpoch.symm.trans isOther
    cases tombstoneKey_inj isKey
    obtain ⟨epoch, ofEpoch, isKept⟩ := (agree.settled id named).mp isSettled
    cases isBaseline.1.symm.trans ofEpoch
    exact isKept
  · intro isKept
    exact ⟨_, id, isEpoch, (agree.settled id named).mpr ⟨_, isBaseline.1, isKept⟩, named, rfl⟩

theorem Agree.withDegraded (agree : views.Agree) (reason : String) :
    Agree ⟨Queue.withDegraded views.reduced reason, views.shown⟩ :=
  ⟨agree.epoch, agree.authority, agree.version, agree.messages, agree.pending, agree.failed,
    agree.settled⟩

theorem Agree.tombstonesFor_iff (agree : views.Agree) (complete : views.Complete)
    (queueEpoch : String) {id : String} (named : id ≠ "") :
    tombstoneKey queueEpoch id ∈
        tombstonesFor (buildTransportQueueReducerBaseline views.shown scopeKey) queueEpoch ↔
      tombstoneKey queueEpoch id ∈ tombstonesFor views.reduced queueEpoch := by
  have sameEpoch : (buildTransportQueueReducerBaseline views.shown scopeKey).queueEpoch =
      views.reduced.queueEpoch := agree.epoch
  unfold tombstonesFor
  rw [sameEpoch]
  split
  · exact Iff.rfl
  · rename_i notNew
    rcases complete with ⟨noEpoch, noTombstones⟩ | ⟨baseline, found⟩
    · rw [noTombstones]
      have rebuilt : (buildTransportQueueReducerBaseline views.shown scopeKey).deliveredTombstones
          = [] := by
        change settledTombstones _ _ = []
        rw [agree.epoch, noEpoch]
        rfl
      rw [rebuilt]
    · have isBaseline := baseline?_eq_some found
      have isSame : baseline.queueEpoch = queueEpoch := by
        simp only [isBaseline.1, ne_eq, reduceCtorEq, not_false_eq_true, Option.some.injEq,
          true_and, not_not] at notNew
        exact notNew
      subst isSame
      exact agree.tombstone_iff found named

theorem Agree.settled_after (agree : views.Agree) {baseline : QueueBaseline}
    (found : views.reduced.baseline? = some baseline) (clientMessageId : String)
    {next : TransportQueueReducerState} (sameEpoch : next.queueEpoch = some baseline.queueEpoch)
    (isTombstones : next.deliveredTombstones =
      addTombstone (tombstoneKey baseline.queueEpoch clientMessageId)
        (buildTransportQueueReducerBaseline views.shown scopeKey).deliveredTombstones)
    {id : String} (named : id ≠ "") :
    (id ∈ if settledMessageIds next = [] ∧ next.queueEpoch = views.shown.queueEpoch then
        views.shown.transportPendingSettledMessageIds.getD []
      else settledMessageIds next) ↔
      tombstoneKey baseline.queueEpoch id ∈
        addTombstone (tombstoneKey baseline.queueEpoch clientMessageId)
          views.reduced.deliveredTombstones := by
  have isBaseline := baseline?_eq_some found
  have isEpoch : truthy next.queueEpoch = some baseline.queueEpoch := by
    rw [sameEpoch]
    exact truthy_some isBaseline.2.1
  have settles : id ∈ settledMessageIds next ↔
      tombstoneKey baseline.queueEpoch id ∈
        addTombstone (tombstoneKey baseline.queueEpoch clientMessageId)
          views.reduced.deliveredTombstones := by
    rw [mem_settledMessageIds, isEpoch, isTombstones, mem_addTombstone]
    simp only [named, ne_eq, not_false_eq_true, true_and, Option.some.injEq, exists_eq_left']
    rw [mem_addTombstone, agree.tombstone_iff found named]
  split
  · rename_i nothing
    rw [← settles, nothing.1]
    have held := agree.settled id named
    change id ∈ views.settledIds ↔ _
    constructor
    · intro isSettled
      obtain ⟨epoch, ofEpoch, isKept⟩ := held.mp isSettled
      cases isBaseline.1.symm.trans ofEpoch
      have stays := settles.mpr (mem_addTombstone.mpr (.inr isKept))
      rw [nothing.1] at stays
      exact stays
    · intro impossible
      cases impossible
  · exact settles

theorem not_mem_tombstonesFor_rebuilt (queueEpoch : String) :
    tombstoneKey queueEpoch "" ∉
      tombstonesFor (buildTransportQueueReducerBaseline views.shown scopeKey) queueEpoch := by
  unfold tombstonesFor
  split
  · exact List.not_mem_nil
  · rename_i notNew
    intro isKept
    obtain ⟨epoch, id, isEpoch, _, named, isKey⟩ := mem_settledTombstones.mp isKept
    rw [truthy_eq_some_iff] at isEpoch
    have sameEpoch : epoch = queueEpoch := by
      simp only [buildTransportQueueReducerBaseline, isEpoch.1, ne_eq, reduceCtorEq,
        not_false_eq_true, Option.some.injEq, true_and, not_not] at notNew
      exact notNew
    subst sameEpoch
    exact named (tombstoneKey_inj isKey).symm

theorem Agree.keepsLive_cases (agree : views.Agree) (complete : views.Complete)
    (snapshot : QueueSnapshot) (entry : QueueProjectionEntry) :
    (keepsLive views.reduced snapshot entry = true →
      keepsLive (buildTransportQueueReducerBaseline views.shown scopeKey) snapshot entry = true) ∧
    ((keepsLive (buildTransportQueueReducerBaseline views.shown scopeKey) snapshot entry = true →
        keepsLive views.reduced snapshot entry = true) ↔
      (entry.status.isLive = true → entry.clientMessageId = "" →
        tombstoneKey snapshot.queueEpoch "" ∉ tombstonesFor views.reduced snapshot.queueEpoch)) := by
  simp only [keepsLive, Bool.and_eq_true, decide_eq_true_eq]
  by_cases named : entry.clientMessageId = ""
  · have rebuilt := @not_mem_tombstonesFor_rebuilt views scopeKey snapshot.queueEpoch
    rw [named]
    simp only [rebuilt, not_false_eq_true, and_true, true_implies]
    constructor
    · intro kept
      exact kept.1
    · constructor
      · intro keeps isLive
        exact (keeps isLive).2
      · intro unsettled isLive
        exact ⟨isLive, unsettled isLive⟩
  · rw [agree.tombstonesFor_iff complete snapshot.queueEpoch named]
    simp [named]

theorem Complete.of_unchanged (complete : views.Complete) {after : QueueViews}
    (sameEpoch : after.reduced.queueEpoch = views.reduced.queueEpoch)
    (sameBaseline : after.reduced.baseline? = views.reduced.baseline?)
    (sameTombstones : after.reduced.deliveredTombstones = views.reduced.deliveredTombstones) :
    after.Complete := by
  unfold Complete
  rw [sameEpoch, sameBaseline, sameTombstones]
  exact complete

theorem withoutMessage_iff (status : QueueEntryStatus) (clientMessageId : String)
    (entries : List QueueProjectionEntry) :
    fromQueueProjectionEntries (withoutMessage clientMessageId
        (toQueueProjectionEntries (fromQueueProjectionEntries entries) status)) =
      fromQueueProjectionEntries (withoutMessage clientMessageId entries) ↔
    PlainBut clientMessageId entries := by
  unfold withoutMessage
  rw [fromQueueProjectionEntries_filter status (fromQueueProjectionEntries entries) _
    (fun id => decide (id ≠ clientMessageId)) (fun _ _ => rfl)]
  unfold fromQueueProjectionEntries
  rw [List.filterMap_map]
  refine (@filterMap_eq_iff _ _ _ (fun entry => decide (entry.clientMessageId ≠ clientMessageId))
    QueueProjectionEntry.toPending TransportPendingMessageEntry.Plain ?_ ?_ _ _ (.refl _)).trans ?_
  · intro entry back given
    rw [Function.comp_apply, Option.filter_eq_some_iff] at given
    exact roundTrip_plain given.1
  · intro entry isKept plain
    rw [Function.comp_apply, Option.filter_eq_some_iff]
    exact ⟨roundTrip_eq_self_iff.mpr plain, isKept⟩
  · simp only [and_true]
    apply forall₂_congr
    intro entry _
    by_cases isOther : entry.clientMessageId ≠ clientMessageId
    · rw [if_pos (decide_eq_true isOther), if_pos isOther]
    · rw [if_neg (by simpa using isOther), if_neg isOther, Function.comp_apply,
        Option.filter_eq_none_iff]
      simp

theorem carriedAll_iff (status : QueueEntryStatus) (entries : List QueueProjectionEntry) :
    fromQueueProjectionEntries
        (toQueueProjectionEntries (fromQueueProjectionEntries entries) status) =
      fromQueueProjectionEntries entries ↔ ∀ entry ∈ entries, entry.toPending.Plain := by
  have read := fromQueueProjectionEntries_filter status (fromQueueProjectionEntries entries)
    (fun _ => true) (fun _ => true) (fun _ _ => rfl)
  have whole : ∀ back : Option TransportPendingMessageEntry, back.filter (fun _ => true) = back := by
    intro back
    cases back <;> rfl
  simp only [List.filter_true, whole] at read
  rw [read]
  unfold fromQueueProjectionEntries
  rw [List.filterMap_map]
  have kept : (entries.filter fun _ => true) = entries := List.filter_true entries
  refine (@filterMap_eq_iff _ _ _ (fun _ => true) QueueProjectionEntry.toPending
    TransportPendingMessageEntry.Plain ?_ ?_ _ _ ?_).trans ?_
  · intro entry back given
    exact roundTrip_plain given
  · intro entry _ plain
    exact roundTrip_eq_self_iff.mpr plain
  · rw [kept]
  · rw [kept]
    simp only [if_true, and_true]

theorem not_concerns_cases {state : TransportQueueReducerState}
    {queueEpoch queueAuthorityId : String}
    (unconcerned : ¬ Concerns state queueEpoch queueAuthorityId) :
    state.baseline? = none ∨ ∃ baseline, state.baseline? = some baseline ∧
      (queueEpoch ≠ baseline.queueEpoch ∨ queueAuthorityId ≠ baseline.queueAuthorityId) := by
  cases found : state.baseline? with
  | none => exact .inl rfl
  | some baseline =>
    right
    refine ⟨baseline, rfl, ?_⟩
    by_contra same
    simp only [not_or, ne_eq, not_not] at same
    exact unconcerned ⟨baseline, found, same.1, same.2⟩

section Host
variable [Host]

/-! ## Snapshots read as the browser's own -/

theorem shown_of_sync (status : QueueEntryStatus) (allowed : QueueEntryStatus → Bool)
    (isAllowed : allowed status = true) (entries : List QueueProjectionEntry)
    (keepId : String → Bool) :
    fromQueueProjectionEntries (sortEntries
        (((toQueueProjectionEntries (fromQueueProjectionEntries entries) status).filter
          fun entry => allowed entry.status).filter fun entry => keepId entry.clientMessageId)) =
      entries.filterMap fun entry =>
        (roundTrip entry.toPending).filter fun back => keepId back.clientMessageId := by
  rw [List.filter_filter]
  unfold toQueueProjectionEntries
  rw [sortEntries_placed]
  have asFields := fromQueueProjectionEntries_filter status (fromQueueProjectionEntries entries)
    (fun entry => keepId entry.clientMessageId && allowed entry.status) keepId
    (by intro index entry; simp [projectionAt, isAllowed])
  unfold toQueueProjectionEntries at asFields
  rw [asFields]
  unfold fromQueueProjectionEntries
  rw [List.filterMap_map]
  rfl

theorem Agree.live_iff (agree : views.Agree) (complete : views.Complete) (value : QueueSnapshot) :
    (value.pendingMessageEntries.filterMap fun entry =>
        (roundTrip entry.toPending).filter fun back =>
          decide (tombstoneKey value.queueEpoch back.clientMessageId ∉
            tombstonesFor (buildTransportQueueReducerBaseline views.shown scopeKey)
              value.queueEpoch)) =
      fromQueueProjectionEntries
        (sortEntries (value.pendingMessageEntries.filter (keepsLive views.reduced value))) ↔
    (∀ entry ∈ value.pendingMessageEntries,
      if keepsLive views.reduced value entry then entry.toPending.Plain
      else ∀ back, roundTrip entry.toPending = some back →
        tombstoneKey value.queueEpoch back.clientMessageId ∈
          tombstonesFor views.reduced value.queueEpoch) ∧
      InDisplayOrder (value.pendingMessageEntries.filter (keepsLive views.reduced value)) := by
  have settles := fun id (named : id ≠ "") =>
    @Agree.tombstonesFor_iff views scopeKey agree complete value.queueEpoch id named
  refine (@filterMap_eq_iff _ _ _ (keepsLive views.reduced value) QueueProjectionEntry.toPending
    TransportPendingMessageEntry.Plain ?_ ?_ _ _ ?_).trans ?_
  · intro entry back given
    rw [Option.filter_eq_some_iff] at given
    exact roundTrip_plain given.1
  · intro entry isKept plain
    rw [Option.filter_eq_some_iff]
    refine ⟨roundTrip_eq_self_iff.mpr plain, ?_⟩
    have unsettled : tombstoneKey value.queueEpoch entry.clientMessageId ∉
        tombstonesFor views.reduced value.queueEpoch := by
      simp only [keepsLive, Bool.and_eq_true, decide_eq_true_eq] at isKept
      exact isKept.2
    have rebuilt := mt (settles entry.clientMessageId plain.named).mp unsettled
    exact decide_eq_true rebuilt
  · exact (List.perm_insertionSort _ _).map _
  · apply and_congr_left'
    apply forall₂_congr
    intro entry _
    split
    · exact Iff.rfl
    · rw [Option.filter_eq_none_iff]
      apply forall₂_congr
      intro back returned
      have named := (roundTrip_plain returned).named
      simp [settles _ named]

theorem failed_iff (value : QueueSnapshot) :
    (value.failedMessageEntries.filterMap fun entry => roundTrip entry.toPending) =
      fromQueueProjectionEntries
        (sortEntries (value.failedMessageEntries.filter (·.status.isFailed))) ↔
    (∀ entry ∈ value.failedMessageEntries,
      if entry.status.isFailed then entry.toPending.Plain else roundTrip entry.toPending = none) ∧
      InDisplayOrder (value.failedMessageEntries.filter (·.status.isFailed)) := by
  refine @filterMap_eq_iff _ _ _ (·.status.isFailed) QueueProjectionEntry.toPending
    TransportPendingMessageEntry.Plain ?_ ?_ _ _ ?_
  · intro entry back given
    exact roundTrip_plain given
  · intro entry _ plain
    exact roundTrip_eq_self_iff.mpr plain
  · exact (List.perm_insertionSort _ _).map _

theorem applySnapshot_of_accepted {state : TransportQueueReducerState} {snapshot : QueueSnapshot}
    (accepted : state.Accepts snapshot.announcement) :
    applySnapshot state snapshot =
      { state with
        sessionName := some snapshot.sessionName
        queueEpoch := some snapshot.queueEpoch
        queueAuthorityId := some snapshot.queueAuthorityId
        pendingMessageVersion := some snapshot.pendingMessageVersion
        pendingMessageEntries :=
          sortEntries (snapshot.pendingMessageEntries.filter (keepsLive state snapshot))
        failedMessageEntries :=
          sortEntries (snapshot.failedMessageEntries.filter (·.status.isFailed))
        deliveredTombstones := tombstonesFor state snapshot.queueEpoch } := by
  have decided : Queue.canApplySnapshot state snapshot.announcement = .ok () := accepted
  unfold applySnapshot
  rw [decided]
  dsimp only
  rw [List.filter_filter]
  congr 3
  funext entry
  rw [keepsLive, tombstonesFor, Bool.and_comm]

theorem webStep_sync (agree : views.Agree) {value : QueueSnapshot}
    (accepted : views.reduced.Accepts value.announcement) :
    let baseline := buildTransportQueueReducerBaseline views.shown scopeKey
    let next := applySnapshot baseline (value.asWebSync scopeKey)
    let after := webStep scopeKey views.shown (.sync value)
    (next.queueEpoch = some value.queueEpoch ∧
      next.deliveredTombstones = tombstonesFor baseline value.queueEpoch) ∧
    after.queueEpoch = some value.queueEpoch ∧
    after.queueAuthorityId = some value.queueAuthorityId ∧
    after.transportPendingMessageVersion = some value.pendingMessageVersion ∧
    after.transportPendingMessages = after.transportPendingMessageEntries.map (·.text) ∧
    after.transportPendingMessageEntries =
      (value.pendingMessageEntries.filterMap fun entry =>
        (roundTrip entry.toPending).filter fun back =>
          decide (tombstoneKey value.queueEpoch back.clientMessageId ∉
            tombstonesFor baseline value.queueEpoch)) ∧
    after.failedMessageEntries =
      (value.failedMessageEntries.filterMap fun entry => roundTrip entry.toPending) ∧
    after.transportPendingSettledMessageIds.getD [] = settledMessageIds next := by
  intro baseline next after
  have complete : ¬ (value.queueEpoch = "" ∨ value.queueAuthorityId = "" ∨
      value.pendingMessageVersion.isFinite = false) := by
    have parts := (accepts_iff.mp accepted).1
    simp only [QueueSnapshot.announcement] at parts
    simp [parts]
  have decided : canApplySnapshot baseline (value.asWebSync scopeKey).announcement = .ok () := by
    rw [agree.canApplySnapshot]
    exact accepted
  have applied : next = { baseline with
      sessionName := some scopeKey
      queueEpoch := some value.queueEpoch
      queueAuthorityId := some value.queueAuthorityId
      pendingMessageVersion := some value.pendingMessageVersion
      pendingMessageEntries := sortEntries
        (((value.asWebSync scopeKey).pendingMessageEntries.filter (·.status.isLive)).filter
          fun entry => decide (tombstoneKey value.queueEpoch entry.clientMessageId ∉
            tombstonesFor baseline value.queueEpoch))
      failedMessageEntries := sortEntries
        ((value.asWebSync scopeKey).failedMessageEntries.filter (·.status.isFailed))
      deliveredTombstones := tombstonesFor baseline value.queueEpoch } := by
    change applySnapshot baseline (value.asWebSync scopeKey) = _
    unfold applySnapshot
    rw [decided]
    rfl
  have isPatch : buildTransportPendingSyncPatch views.shown value scopeKey = some
      { transportPendingMessages := next.pendingMessageEntries.map (·.text)
        transportPendingMessageEntries := fromQueueProjectionEntries next.pendingMessageEntries
        transportPendingMessageVersion := next.pendingMessageVersion
        queueEpoch := some value.queueEpoch
        queueAuthorityId := some value.queueAuthorityId
        failedMessageEntries := fromQueueProjectionEntries next.failedMessageEntries
        transportPendingSettledMessageIds :=
          if settledMessageIds next ≠ [] ∨ views.shown.transportPendingSettledMessageIds ≠ none then
            some (settledMessageIds next)
          else none } := by
    unfold buildTransportPendingSyncPatch
    rw [if_neg complete]
    dsimp only
    rw [if_neg]
    change ¬ next.degradedEvidence.length > baseline.degradedEvidence.length
    rw [applied]
    exact lt_irrefl _
  have isAfter : after = views.shown.spread (buildTransportPendingSyncPatch views.shown value
      scopeKey) := rfl
  rw [isPatch] at isAfter
  refine ⟨⟨by rw [applied], by rw [applied]⟩, ?_⟩
  rw [isAfter]
  refine ⟨rfl, rfl, ?_, ?_, ?_, ?_, ?_⟩
  · rw [applied]
    rfl
  · change List.map _ _ = List.map _ (List.map _ _)
    rw [List.map_map]
    rfl
  · change fromQueueProjectionEntries next.pendingMessageEntries = _
    rw [applied]
    exact shown_of_sync .queued QueueEntryStatus.isLive rfl value.pendingMessageEntries
      fun id => decide (tombstoneKey value.queueEpoch id ∉ tombstonesFor baseline value.queueEpoch)
  · change fromQueueProjectionEntries next.failedMessageEntries = _
    rw [applied]
    have read := shown_of_sync .failed QueueEntryStatus.isFailed rfl value.failedMessageEntries
      fun _ => true
    have whole : ∀ back : Option TransportPendingMessageEntry, back.filter (fun _ => true) = back := by
      intro back
      cases back <;> rfl
    simp only [whole, List.filter_true] at read
    exact read
  · change Option.getD (Option.or (ite _ _ _) _) [] = _
    split
    · rfl
    · rename_i nothing
      simp only [not_or, ne_eq, not_not] at nothing
      rw [nothing.1, nothing.2]
      rfl

theorem refused_sync (agree : views.Agree) (scopeKey : String) {value : QueueSnapshot}
    (refused : ¬ views.reduced.Accepts value.announcement) :
    ∃ reason, applySnapshot views.reduced value = Queue.withDegraded views.reduced reason ∧
      buildTransportPendingSyncPatch views.shown value scopeKey = none := by
  cases decided : Queue.canApplySnapshot views.reduced value.announcement with
  | ok accepted => exact absurd decided refused
  | error reason =>
    refine ⟨reason, ?_, ?_⟩
    · unfold applySnapshot
      rw [decided]
    · unfold buildTransportPendingSyncPatch
      split
      · rfl
      · have rebuilt : Queue.canApplySnapshot
            (buildTransportQueueReducerBaseline views.shown scopeKey)
            (value.asWebSync scopeKey).announcement = .error reason := by
          rw [agree.canApplySnapshot]
          exact decided
        unfold applySnapshot
        dsimp only
        rw [rebuilt]
        exact if_pos (by simp [Queue.withDegraded])

theorem Agree.sync_iff (agree : views.Agree) (complete : views.Complete) (value : QueueSnapshot)
    (isOf : value.sessionName = scopeKey) :
    (step scopeKey views ⟨.sync value, isOf⟩).Agree ↔ Carries views.reduced (.sync value) := by
  by_cases accepted : views.reduced.Accepts value.announcement
  · obtain ⟨⟨nextEpoch, nextTombstones⟩, epoch, authority, version, messages, pending, failed, settled⟩ :=
      @webStep_sync views scopeKey _ agree value accepted
    have reduced : (step scopeKey views ⟨.sync value, isOf⟩).reduced = _ :=
      applySnapshot_of_accepted accepted
    have asLists := @Agree.live_iff views scopeKey _ agree complete value
    rw [← pending] at asLists
    have asFailed := failed_iff value
    rw [← failed] at asFailed
    constructor
    · intro after _
      have shownPending := after.pending
      have shownFailed := after.failed
      rw [reduced] at shownPending shownFailed
      obtain ⟨live, liveOrder⟩ := asLists.mp shownPending
      obtain ⟨failedPlain, failedOrder⟩ := asFailed.mp shownFailed
      exact ⟨live, liveOrder, failedPlain, failedOrder⟩
    · intro carries
      have plainly := carries accepted
      have shownPending := asLists.mpr ⟨plainly.live, plainly.liveOrder⟩
      have shownFailed := asFailed.mpr ⟨plainly.failed, plainly.failedOrder⟩
      refine ⟨?_, ?_, ?_, ?_, ?_, ?_, ?_⟩
      · rw [reduced]
        exact epoch
      · rw [reduced]
        exact authority
      · rw [reduced]
        exact version
      · rw [reduced]
        refine messages.trans ?_
        rw [shownPending]
        exact List.map_map.symm ▸ rfl
      · rw [reduced]
        exact shownPending
      · rw [reduced]
        exact shownFailed
      · intro id named
        have isEpoch : truthy (some value.queueEpoch) = some value.queueEpoch :=
          truthy_some (accepts_iff.mp accepted).1.1
        change id ∈ (webStep scopeKey views.shown (.sync value)).transportPendingSettledMessageIds.getD
          [] ↔ _
        rw [settled, mem_settledMessageIds, nextEpoch, isEpoch, nextTombstones, reduced]
        simp only [named, ne_eq, not_false_eq_true, true_and, Option.some.injEq,
          exists_eq_left']
        exact agree.tombstonesFor_iff complete value.queueEpoch named
  · obtain ⟨reason, reduced, refused⟩ := refused_sync agree scopeKey accepted
    have unchanged : step scopeKey views ⟨.sync value, isOf⟩ =
        ⟨Queue.withDegraded views.reduced reason, views.shown⟩ := by
      change (⟨applySnapshot views.reduced value, views.shown.spread
        (buildTransportPendingSyncPatch views.shown value scopeKey)⟩ : QueueViews) = _
      rw [reduced, refused]
      rfl
    rw [unchanged]
    constructor
    · intro _ isAccepted
      exact absurd isAccepted accepted
    · intro _
      exact agree.withDegraded reason

/-! ## Events -/

theorem webStep_event {fact : QueueEvent} (isOf : fact.sessionName = scopeKey)
    (noReceipt : fact.isReceipt = false) {next : TransportQueueReducerState}
    (isNext : reduceTransportQueueEvent (buildTransportQueueReducerBaseline views.shown scopeKey)
      fact = next)
    (taken : next.degradedEvidence = []) {baseline : QueueBaseline}
    (known : next.baseline? = some baseline) :
    let after := webStep scopeKey views.shown (.event fact)
    after.queueEpoch = next.queueEpoch ∧
    after.queueAuthorityId = next.queueAuthorityId ∧
    after.transportPendingMessageVersion = next.pendingMessageVersion ∧
    after.transportPendingMessages = next.pendingMessageEntries.map (·.text) ∧
    after.transportPendingMessageEntries =
      fromQueueProjectionEntries next.pendingMessageEntries ∧
    after.failedMessageEntries = fromQueueProjectionEntries next.failedMessageEntries ∧
    after.transportPendingSettledMessageIds.getD [] =
      if settledMessageIds next = [] ∧ next.queueEpoch = views.shown.queueEpoch then
        views.shown.transportPendingSettledMessageIds.getD []
      else settledMessageIds next := by
  intro after
  have isBaseline := baseline?_eq_some known
  have isAfter : after = views.shown.spread
      (buildTransportQueueEventPatch views.shown fact scopeKey) := rfl
  unfold buildTransportQueueEventPatch at isAfter
  rw [if_neg (by simp [isOf]), if_neg (by simp [noReceipt])] at isAfter
  dsimp only at isAfter
  rw [isNext, if_neg (by simp [taken]), if_neg (by simp [isBaseline])] at isAfter
  rw [isAfter]
  refine ⟨rfl, rfl, rfl, rfl, rfl, rfl, ?_⟩
  change Option.getD (Option.or (ite _ _ _) _) [] = _
  by_cases nothing : settledMessageIds next = []
  · by_cases sameEpoch : next.queueEpoch = views.shown.queueEpoch
    · rw [if_pos (⟨nothing, sameEpoch⟩ : _ ∧ _), if_neg]
      · rfl
      · intro named
        rcases named with someSettled | ⟨_, newEpoch⟩
        · exact someSettled nothing
        · exact newEpoch sameEpoch
    · rw [if_neg (fun both : _ ∧ _ => sameEpoch both.2)]
      by_cases noIds : views.shown.transportPendingSettledMessageIds = none
      · rw [if_neg, noIds, nothing]
        · rfl
        · intro named
          rcases named with someSettled | ⟨someIds, _⟩
          · exact someSettled nothing
          · exact someIds noIds
      · rw [if_pos (.inr ⟨noIds, sameEpoch⟩)]
        rfl
  · rw [if_pos (.inl nothing), if_neg (fun both : _ ∧ _ => nothing both.1)]
    rfl

theorem webStep_degraded {fact : QueueEvent} {reason : String}
    (degraded : reduceTransportQueueEvent
      (buildTransportQueueReducerBaseline views.shown scopeKey) fact =
        Queue.withDegraded (buildTransportQueueReducerBaseline views.shown scopeKey) reason) :
    webStep scopeKey views.shown (.event fact) = views.shown := by
  have isPatch : buildTransportQueueEventPatch views.shown fact scopeKey = none := by
    unfold buildTransportQueueEventPatch
    split
    · rfl
    · split
      · rfl
      · dsimp only
        rw [degraded]
        exact if_pos (by simp [Queue.withDegraded])
  unfold webStep
  dsimp only
  rw [isPatch]
  rfl

theorem agree_event_iff {fact : QueueEvent} (isOf : fact.sessionName = scopeKey)
    (noReceipt : fact.isReceipt = false) {next reduced : TransportQueueReducerState}
    (isNext : reduceTransportQueueEvent (buildTransportQueueReducerBaseline views.shown scopeKey)
      fact = next)
    (isReduced : reduceTransportQueueEvent views.reduced fact = reduced)
    (taken : next.degradedEvidence = []) {baseline : QueueBaseline}
    (known : next.baseline? = some baseline) (reducedKnown : reduced.baseline? = some baseline) :
    (step scopeKey views ⟨.event fact, isOf⟩).Agree ↔
      fromQueueProjectionEntries next.pendingMessageEntries =
        fromQueueProjectionEntries reduced.pendingMessageEntries ∧
      fromQueueProjectionEntries next.failedMessageEntries =
        fromQueueProjectionEntries reduced.failedMessageEntries ∧
      ∀ id, id ≠ "" →
        ((id ∈ if settledMessageIds next = [] ∧ next.queueEpoch = views.shown.queueEpoch then
            views.shown.transportPendingSettledMessageIds.getD []
          else settledMessageIds next) ↔
          tombstoneKey baseline.queueEpoch id ∈ reduced.deliveredTombstones) := by
  obtain ⟨epoch, authority, version, messages, pending, failed, settled⟩ :=
    @webStep_event views scopeKey _ fact isOf noReceipt next isNext taken baseline known
  have isBaseline := baseline?_eq_some known
  have reducedBaseline := baseline?_eq_some reducedKnown
  have isStep : step scopeKey views ⟨.event fact, isOf⟩ =
      ⟨reduced, webStep scopeKey views.shown (.event fact)⟩ := by
    rw [← isReduced]
    rfl
  rw [isStep]
  constructor
  · intro after
    refine ⟨?_, ?_, ?_⟩
    · rw [← pending]
      exact after.pending
    · rw [← failed]
      exact after.failed
    · intro id named
      rw [← settled]
      refine (after.settled id named).trans ?_
      dsimp only
      rw [reducedBaseline.1]
      simp
  · intro ⟨samePending, sameFailed, sameSettled⟩
    refine ⟨?_, ?_, ?_, ?_, ?_, ?_, ?_⟩
    · exact epoch.trans (isBaseline.1.trans reducedBaseline.1.symm)
    · exact authority.trans (isBaseline.2.2.1.trans reducedBaseline.2.2.1.symm)
    · exact version.trans (isBaseline.2.2.2.2.trans reducedBaseline.2.2.2.2.symm)
    · have texts := congrArg (List.map TransportPendingMessageEntry.text) samePending
      unfold fromQueueProjectionEntries at texts
      rw [List.map_map, List.map_map] at texts
      exact messages.trans texts
    · exact pending.trans samePending
    · exact failed.trans sameFailed
    · intro id named
      change id ∈ (webStep scopeKey views.shown
        (.event fact)).transportPendingSettledMessageIds.getD [] ↔ _
      rw [settled, sameSettled id named]
      dsimp only
      rw [reducedBaseline.1]
      simp

theorem Agree.degraded (agree : views.Agree) (fact : QueueEvent)
    (isOf : fact.sessionName = scopeKey) {reason : String}
    (shown : reduceTransportQueueEvent
      (buildTransportQueueReducerBaseline views.shown scopeKey) fact =
        Queue.withDegraded (buildTransportQueueReducerBaseline views.shown scopeKey) reason)
    (reduced : reduceTransportQueueEvent views.reduced fact =
      Queue.withDegraded views.reduced reason) :
    (step scopeKey views ⟨.event fact, isOf⟩).Agree := by
  have isStep : step scopeKey views ⟨.event fact, isOf⟩ =
      ⟨reduceTransportQueueEvent views.reduced fact,
        webStep scopeKey views.shown (.event fact)⟩ := rfl
  rw [isStep, webStep_degraded shown, reduced]
  exact agree.withDegraded reason

theorem Agree.settling_iff (agree : views.Agree) (fact : QueueEvent)
    (isOf : fact.sessionName = scopeKey) (noReceipt : fact.isReceipt = false)
    {baseline : QueueBaseline} (found : views.reduced.baseline? = some baseline)
    {clientMessageId : String} {version : JsNumber}
    {failedAfter : List QueueProjectionEntry → List QueueProjectionEntry}
    (taken : ∀ state : TransportQueueReducerState, state.baseline? = some baseline →
      reduceTransportQueueEvent state fact =
        { state with
          pendingMessageVersion := some (baseline.pendingMessageVersion.max version)
          pendingMessageEntries := withoutMessage clientMessageId state.pendingMessageEntries
          failedMessageEntries := failedAfter state.failedMessageEntries
          deliveredTombstones := addTombstone
            (tombstoneKey baseline.queueEpoch clientMessageId) state.deliveredTombstones }) :
    (step scopeKey views ⟨.event fact, isOf⟩).Agree ↔
      PlainBut clientMessageId views.reduced.pendingMessageEntries ∧
      fromQueueProjectionEntries (failedAfter (toQueueProjectionEntries
          (fromQueueProjectionEntries views.reduced.failedMessageEntries) .failed)) =
        fromQueueProjectionEntries (failedAfter views.reduced.failedMessageEntries) := by
  have rebuilt := (@Agree.baseline? views scopeKey agree).trans found
  have isBaseline := baseline?_eq_some found
  have rebuiltBaseline := baseline?_eq_some rebuilt
  have sides := @agree_event_iff views scopeKey _ fact isOf noReceipt _ _ (taken _ rebuilt)
    (taken _ found) rfl
    ⟨baseline.queueEpoch, baseline.queueAuthorityId, baseline.pendingMessageVersion.max version⟩
    (baseline?_of_fields rebuiltBaseline.1 isBaseline.2.1 rebuiltBaseline.2.2.1
      isBaseline.2.2.2.1 rfl)
    (baseline?_of_fields isBaseline.1 isBaseline.2.1 isBaseline.2.2.1 isBaseline.2.2.2.1 rfl)
  have isPending : (buildTransportQueueReducerBaseline views.shown scopeKey).pendingMessageEntries =
      toQueueProjectionEntries
        (fromQueueProjectionEntries views.reduced.pendingMessageEntries) .queued := by
    rw [← agree.pending]
    rfl
  have isFailed : (buildTransportQueueReducerBaseline views.shown scopeKey).failedMessageEntries =
      toQueueProjectionEntries
        (fromQueueProjectionEntries views.reduced.failedMessageEntries) .failed := by
    rw [← agree.failed]
    rfl
  rw [sides]
  dsimp only
  rw [isPending, isFailed, withoutMessage_iff]
  constructor
  · intro ⟨plain, sameFailed, _⟩
    exact ⟨plain, sameFailed⟩
  · intro ⟨plain, sameFailed⟩
    refine ⟨plain, sameFailed, ?_⟩
    intro id named
    refine @Agree.settled_after views scopeKey agree baseline found clientMessageId _ ?_ ?_ id
      named
    · exact rebuiltBaseline.1
    · rfl

theorem Agree.delivery_iff (agree : views.Agree) (delivery : QueueDeliveryFact)
    (isOf : delivery.sessionName = scopeKey) :
    (step scopeKey views ⟨.event (.delivery delivery), isOf⟩).Agree ↔
      Carries views.reduced (.event (.delivery delivery)) := by
  by_cases concerned : Concerns views.reduced delivery.queueEpoch delivery.queueAuthorityId
  · obtain ⟨baseline, found, isEpoch, isAuthority⟩ := id concerned
    have taken : ∀ state : TransportQueueReducerState, state.baseline? = some baseline →
        reduceTransportQueueEvent state (.delivery delivery) =
          { state with
            pendingMessageVersion :=
              some (baseline.pendingMessageVersion.max delivery.pendingMessageVersion)
            pendingMessageEntries :=
              withoutMessage delivery.clientMessageId state.pendingMessageEntries
            failedMessageEntries :=
              withoutMessage delivery.clientMessageId state.failedMessageEntries
            deliveredTombstones := addTombstone
              (tombstoneKey baseline.queueEpoch delivery.clientMessageId)
              state.deliveredTombstones } := by
      intro state isState
      change applyDelivery state delivery = _
      unfold applyDelivery
      rw [isState]
      dsimp only
      rw [if_neg (by simp [isEpoch, isAuthority]), isEpoch]
    rw [agree.settling_iff (.delivery delivery) isOf rfl found taken, withoutMessage_iff]
    simp only [Carries, concerned, true_implies]
  · have ignored : ∀ state : TransportQueueReducerState,
        state.baseline? = views.reduced.baseline? →
          reduceTransportQueueEvent state (.delivery delivery) = Queue.withDegraded state
            (if views.reduced.baseline? = none then "delivery_without_baseline"
            else "delivery_epoch_or_authority_mismatch") := by
      intro state same
      change applyDelivery state delivery = _
      unfold applyDelivery
      rcases not_concerns_cases concerned with missing | ⟨baseline, found, other⟩
      · rw [same, missing]
        rfl
      · rw [same, found]
        dsimp only
        rw [if_pos other]
        rfl
    have stays := agree.degraded (.delivery delivery) isOf (ignored _ agree.baseline?) (ignored _ rfl)
    simp only [stays, Carries, concerned, false_implies]

theorem Agree.failure_iff (agree : views.Agree) (failure : QueueFailureDropEvent)
    (isOf : failure.sessionName = scopeKey) :
    (step scopeKey views ⟨.event (.failure failure), isOf⟩).Agree ↔
      Carries views.reduced (.event (.failure failure)) := by
  by_cases concerned : Concerns views.reduced failure.queueEpoch failure.queueAuthorityId
  · obtain ⟨baseline, found, isEpoch, isAuthority⟩ := id concerned
    have taken : ∀ state : TransportQueueReducerState, state.baseline? = some baseline →
        reduceTransportQueueEvent state (.failure failure) =
          { state with
            pendingMessageVersion :=
              some (baseline.pendingMessageVersion.max failure.pendingMessageVersion)
            pendingMessageEntries :=
              withoutMessage failure.clientMessageId state.pendingMessageEntries
            failedMessageEntries := id state.failedMessageEntries
            deliveredTombstones := addTombstone
              (tombstoneKey baseline.queueEpoch failure.clientMessageId)
              state.deliveredTombstones } := by
      intro state isState
      change applyFailure state failure = _
      unfold applyFailure
      rw [isState]
      dsimp only
      rw [if_neg (by simp [isEpoch, isAuthority]), isEpoch]
      rfl
    rw [agree.settling_iff (.failure failure) isOf rfl found taken]
    dsimp only [id]
    rw [carriedAll_iff]
    simp only [Carries, concerned, true_implies]
  · have ignored : ∀ state : TransportQueueReducerState,
        state.baseline? = views.reduced.baseline? →
          reduceTransportQueueEvent state (.failure failure) = Queue.withDegraded state
            "failure_epoch_or_authority_mismatch" := by
      intro state same
      change applyFailure state failure = _
      unfold applyFailure
      rcases not_concerns_cases concerned with missing | ⟨baseline, found, other⟩
      · rw [same, missing]
      · rw [same, found]
        dsimp only
        rw [if_pos other]
    have stays := agree.degraded (.failure failure) isOf (ignored _ agree.baseline?) (ignored _ rfl)
    simp only [stays, Carries, concerned, false_implies]


theorem Agree.refused (agree : views.Agree) (fact : QueueEvent) (isOf : fact.sessionName = scopeKey)
    {announced : QueueAnnouncement} (refused : ¬ views.reduced.Accepts announced)
    (decides : ∀ (state : TransportQueueReducerState) (reason : String),
      Queue.canApplySnapshot state announced = .error reason →
        reduceTransportQueueEvent state fact = Queue.withDegraded state reason) :
    (step scopeKey views ⟨.event fact, isOf⟩).Agree := by
  cases decided : Queue.canApplySnapshot views.reduced announced with
  | ok accepted => exact absurd decided refused
  | error reason =>
    have rebuilt := (@Agree.canApplySnapshot views scopeKey agree announced).trans decided
    exact agree.degraded fact isOf (decides _ reason rebuilt) (decides _ reason decided)

theorem Agree.reset_iff (agree : views.Agree) (reset : QueueResetEvent)
    (isOf : reset.sessionName = scopeKey) :
    (step scopeKey views ⟨.event (.reset reset), isOf⟩).Agree ↔
      Carries views.reduced (.event (.reset reset)) := by
  by_cases accepted : views.reduced.Accepts reset.announcement
  · have taken : ∀ state : TransportQueueReducerState,
        Queue.canApplySnapshot state reset.announcement = .ok () →
        reduceTransportQueueEvent state (.reset reset) =
          { state with
            sessionName := some reset.sessionName
            queueEpoch := some reset.queueEpoch
            queueAuthorityId := some reset.queueAuthorityId
            pendingMessageVersion := some reset.pendingMessageVersion
            pendingMessageEntries := []
            failedMessageEntries := []
            deliveredTombstones := [] } := by
      intro state isAccepted
      change applyReset state reset = _
      unfold applyReset
      rw [isAccepted]
    have complete := (accepts_iff.mp accepted).1
    have rebuilt := (@Agree.canApplySnapshot views scopeKey agree reset.announcement).trans accepted
    rw [@agree_event_iff views scopeKey _ (.reset reset) isOf rfl _ _ (taken _ rebuilt)
      (taken _ accepted) rfl ⟨reset.queueEpoch, reset.queueAuthorityId, reset.pendingMessageVersion⟩
      (baseline?_of_fields rfl complete.1 rfl complete.2.1 rfl)
      (baseline?_of_fields rfl complete.1 rfl complete.2.1 rfl)]
    have nothing : ∀ state : TransportQueueReducerState, state.deliveredTombstones = [] →
        settledMessageIds state = [] := by
      intro state noTombstones
      apply List.eq_nil_iff_forall_not_mem.mpr
      intro id isSettled
      obtain ⟨_, epoch, _, isKept⟩ := mem_settledMessageIds.mp isSettled
      rw [noTombstones] at isKept
      cases isKept
    rw [nothing _ rfl]
    simp only [true_and, List.not_mem_nil, iff_false, Carries, accepted, true_implies]
    rw [agree.epoch]
    by_cases sameEpoch : views.reduced.queueEpoch = some reset.queueEpoch
    · rw [if_pos sameEpoch.symm]
      simp only [sameEpoch, true_implies]
      apply forall₂_congr
      intro id named
      have held := agree.settled id named
      rw [sameEpoch] at held
      simp only [Option.some.injEq, exists_eq_left'] at held
      exact not_congr held
    · rw [if_neg (fun same => sameEpoch same.symm)]
      simp [sameEpoch]
  · have stays := agree.refused (.reset reset) isOf accepted (by
      intro state reason decided
      change applyReset state reset = _
      unfold applyReset
      rw [decided])
    simp only [stays, Carries, accepted, false_implies]

theorem Agree.snapshot_entries_iff (agree : views.Agree) (complete : views.Complete)
    (snapshot : QueueSnapshot) :
    fromQueueProjectionEntries (sortEntries (snapshot.pendingMessageEntries.filter
        (keepsLive (buildTransportQueueReducerBaseline views.shown scopeKey) snapshot))) =
      fromQueueProjectionEntries (sortEntries (snapshot.pendingMessageEntries.filter
        (keepsLive views.reduced snapshot))) ↔
    ∀ entry ∈ snapshot.pendingMessageEntries, entry.status.isLive = true →
      entry.clientMessageId = "" → tombstoneKey snapshot.queueEpoch "" ∉
        tombstonesFor views.reduced snapshot.queueEpoch := by
  have cases := fun entry =>
    @Agree.keepsLive_cases views scopeKey agree complete snapshot entry
  constructor
  · intro same entry isListed
    apply (cases entry).2.mp
    intro isRebuilt
    have lengths := congrArg List.length same
    simp only [fromQueueProjectionEntries, List.length_map, sortEntries, sortByPosition,
      List.length_insertionSort] at lengths
    obtain ⟨_, others⟩ := @filterMap_covers _ _ (Option.guard
      (keepsLive (buildTransportQueueReducerBaseline views.shown scopeKey) snapshot))
      (keepsLive views.reduced snapshot) id snapshot.pendingMessageEntries (by
        intro other _ isKept
        exact Option.guard_eq_some_iff.mpr ⟨rfl, (cases other).1 isKept⟩)
    rw [List.filterMap_eq_filter, lengths] at others
    by_contra notReduced
    have dropped := others (le_refl _) entry isListed (by simpa using notReduced)
    rw [Option.guard_eq_none_iff] at dropped
    simp [isRebuilt] at dropped
  · intro unsettled
    have sameFilter : snapshot.pendingMessageEntries.filter
          (keepsLive (buildTransportQueueReducerBaseline views.shown scopeKey) snapshot) =
        snapshot.pendingMessageEntries.filter (keepsLive views.reduced snapshot) := by
      apply List.filter_congr
      intro entry isListed
      apply Bool.eq_iff_iff.mpr
      exact ⟨(cases entry).2.mpr (unsettled entry isListed), (cases entry).1⟩
    rw [sameFilter]

theorem Agree.snapshot_iff (agree : views.Agree) (complete : views.Complete)
    (snapshot : QueueSnapshot) (isOf : snapshot.sessionName = scopeKey) :
    (step scopeKey views ⟨.event (.snapshot snapshot), isOf⟩).Agree ↔
      Carries views.reduced (.event (.snapshot snapshot)) := by
  by_cases accepted : views.reduced.Accepts snapshot.announcement
  · have taken : ∀ state : TransportQueueReducerState, state.Accepts snapshot.announcement →
        reduceTransportQueueEvent state (.snapshot snapshot) = _ :=
      fun _ isAccepted => applySnapshot_of_accepted isAccepted
    have named := (accepts_iff.mp accepted).1
    have rebuilt :=
      (@Agree.canApplySnapshot views scopeKey agree snapshot.announcement).trans accepted
    rw [@agree_event_iff views scopeKey _ (.snapshot snapshot) isOf rfl _ _ (taken _ rebuilt)
      (taken _ accepted) rfl
      ⟨snapshot.queueEpoch, snapshot.queueAuthorityId, snapshot.pendingMessageVersion⟩
      (baseline?_of_fields rfl named.1 rfl named.2.1 rfl)
      (baseline?_of_fields rfl named.1 rfl named.2.1 rfl)]
    dsimp only
    rw [agree.snapshot_entries_iff complete]
    simp only [Carries, accepted, true_implies]
    constructor
    · intro ⟨unsettled, _⟩
      exact unsettled
    · intro unsettled
      refine ⟨unsettled, trivial, ?_⟩
      intro id isNamed
      have isEpoch : truthy (some snapshot.queueEpoch) = some snapshot.queueEpoch :=
        truthy_some named.1
      have settles := @Agree.tombstonesFor_iff views scopeKey agree complete snapshot.queueEpoch id
        isNamed
      split
      · rename_i nothing
        have sameEpoch : views.reduced.queueEpoch = some snapshot.queueEpoch :=
          agree.epoch.symm.trans nothing.2.symm
        have held := agree.settled id isNamed
        rw [sameEpoch] at held
        simp only [Option.some.injEq, exists_eq_left'] at held
        refine held.trans ?_
        unfold tombstonesFor
        rw [if_neg (by simp [sameEpoch])]
      · rw [mem_settledMessageIds]
        dsimp only
        rw [isEpoch, ← settles]
        simp [isNamed]
  · have stays := agree.refused (.snapshot snapshot) isOf accepted (by
      intro state reason decided
      change applySnapshot state snapshot = _
      unfold applySnapshot
      rw [decided])
    simp only [stays, Carries, accepted, false_implies]

/-! ## Every input -/

theorem Agree.step_iff (agree : views.Agree) (complete : views.Complete)
    (input : Input scopeKey) :
    (step scopeKey views input).Agree ↔ Carries views.reduced input.val := by
  obtain ⟨input, isOf⟩ := input
  cases input with
  | sync value => exact agree.sync_iff complete value isOf
  | event fact =>
    cases fact with
    | snapshot snapshot => exact agree.snapshot_iff complete snapshot isOf
    | delivery delivery => exact agree.delivery_iff delivery isOf
    | failure failure => exact agree.failure_iff failure isOf
    | reset reset => exact agree.reset_iff reset isOf
    | receipt receipt =>
      have shown : webStep scopeKey views.shown (.event (.receipt receipt)) = views.shown := by
        unfold webStep buildTransportQueueEventPatch
        dsimp only
        split
        · rfl
        · rfl
      have isStep : step scopeKey views ⟨.event (.receipt receipt), isOf⟩ =
          ⟨applyReceipt views.reduced receipt,
            webStep scopeKey views.shown (.event (.receipt receipt))⟩ := rfl
      rw [isStep, shown]
      constructor
      · intro _
        trivial
      · intro _
        exact ⟨agree.epoch, agree.authority, agree.version, agree.messages, agree.pending,
          agree.failed, agree.settled⟩

theorem Complete.step (complete : views.Complete) (input : Input scopeKey) :
    (step scopeKey views input).Complete := by
  obtain ⟨input, isOf⟩ := input
  have afterSnapshot : ∀ (snapshot : QueueSnapshot) (shown : TransportPendingQueueSyncState),
      Complete ⟨applySnapshot views.reduced snapshot, shown⟩ := by
    intro snapshot shown
    cases decided : Queue.canApplySnapshot views.reduced snapshot.announcement with
    | ok accepted => exact .inr ⟨_, baseline?_applySnapshot decided⟩
    | error reason =>
      unfold applySnapshot
      rw [decided]
      exact complete.of_unchanged rfl rfl rfl
  cases input with
  | sync value => exact afterSnapshot value _
  | event fact =>
    cases fact with
    | snapshot snapshot => exact afterSnapshot snapshot _
    | delivery delivery =>
      change Complete ⟨applyDelivery views.reduced delivery, _⟩
      unfold applyDelivery
      cases found : views.reduced.baseline? with
      | none => exact complete.of_unchanged rfl rfl rfl
      | some baseline =>
        have isBaseline := baseline?_eq_some found
        dsimp only
        split
        · exact complete.of_unchanged rfl rfl rfl
        · exact .inr ⟨_, baseline?_of_fields isBaseline.1 isBaseline.2.1 isBaseline.2.2.1
            isBaseline.2.2.2.1 rfl⟩
    | failure failure =>
      change Complete ⟨applyFailure views.reduced failure, _⟩
      unfold applyFailure
      cases found : views.reduced.baseline? with
      | none => exact complete.of_unchanged rfl rfl rfl
      | some baseline =>
        have isBaseline := baseline?_eq_some found
        dsimp only
        split
        · exact complete.of_unchanged rfl rfl rfl
        · exact .inr ⟨_, baseline?_of_fields isBaseline.1 isBaseline.2.1 isBaseline.2.2.1
            isBaseline.2.2.2.1 rfl⟩
    | reset reset =>
      change Complete ⟨applyReset views.reduced reset, _⟩
      unfold applyReset
      cases decided : Queue.canApplySnapshot views.reduced reset.announcement with
      | ok accepted =>
        have named := (accepts_iff.mp decided).1
        exact .inr ⟨_, baseline?_of_fields rfl named.1 rfl named.2.1 rfl⟩
      | error reason => exact complete.of_unchanged rfl rfl rfl
    | receipt receipt => exact complete.of_unchanged rfl rfl rfl

/-- The browser shows what the shared reducer has throughout a run of inputs of one session
exactly if each of them is carried through the browser's fields. -/
theorem web_refines_reducer_iff (scopeKey : String) (inputs : List (Input scopeKey)) :
    Always (step scopeKey) Agree (initial scopeKey) inputs ↔
      Meets (step scopeKey) (fun views input => Carries views.reduced input.val)
        (initial scopeKey) inputs := by
  refine @always_iff_meets _ _ (step scopeKey) _ Complete Agree ?_ ?_ _ (complete_initial scopeKey)
    (agree_initial scopeKey) inputs
  · intro views input complete _
    exact complete.step input
  · intro views input complete agree
    exact agree.step_iff complete input

end Host

section FixedRuns

open Library.FixedRuns

/-- A message is delivered, the queue is reset in its epoch, and a snapshot lists the message
again. -/
def listedAfterReset : List (Input "deck") :=
  [⟨.sync (snapshotOf "e1" "a1" 1 none ["sent"]), rfl⟩,
    ⟨.event (.delivery ⟨"deck", "sent", "e1", "a1", .finite 2, "frame", .finite 2⟩), rfl⟩,
    ⟨.event (.reset ⟨"deck", "e1", "a1", .finite 3, .userClear⟩), rfl⟩,
    ⟨.sync (snapshotOf "e1" "a1" 4 none ["sent"]), rfl⟩]

/-- The reducer shows the message again; the browser still holds it settled. -/
theorem browser_hides_message_after_reset :
    ¬ Always (step "deck") Agree (initial "deck") listedAfterReset := by
  intro always
  have after := always listedAfterReset [] rfl
  have shown : (run (step "deck") (initial "deck")
      listedAfterReset).shown.transportPendingMessageEntries = [] := by
    decide +kernel
  have listed : fromQueueProjectionEntries (run (step "deck") (initial "deck")
      listedAfterReset).reduced.pendingMessageEntries = [(queuedEntry "sent").toPending] := by
    decide +kernel
  have same := after.pending
  rw [shown, listed] at same
  cases same

end FixedRuns

end QueueViews

end ImCodes.Queue
