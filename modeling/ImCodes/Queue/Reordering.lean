import ImCodes.Library.Sorting
import ImCodes.Queue.EpochAgreement

/-!
# Reordered snapshots

The snapshots of a session are delivered in any order and any number of times. A
snapshot of a replaced epoch takes the projection back exactly when it announces a
reset: acceptance across epochs does not ask which of the two is the newer.
-/

set_option autoImplicit false

namespace ImCodes.Queue

open Library

def Replaced (history : List QueueSnapshot) (older newer : String) : Prop :=
  older ≠ newer ∧ ∃ first second, first.queueEpoch = older ∧ second.queueEpoch = newer ∧
    [first, second].Sublist history

def RollsBack (before after : TransportQueueReducerState) (epoch : String) : Prop :=
  (before.queueEpoch ≠ some epoch ∧ after.queueEpoch = some epoch) ∨
    ∃ entry ∈ after.pendingMessageEntries, entry ∉ before.pendingMessageEntries

section Host

variable [Host]

def deliver (state : TransportQueueReducerState) (deliveries : List QueueSnapshot) :
    TransportQueueReducerState :=
  run reduceTransportQueueEvent state (deliveries.map QueueEvent.snapshot)

/-- The deliveries that the reducer applies. -/
def applied (state : TransportQueueReducerState) : List QueueSnapshot → List QueueSnapshot
  | [] => []
  | snapshot :: rest =>
    (if state.Accepts snapshot.announcement then [snapshot] else []) ++
      applied (applySnapshot state snapshot) rest

def IsStale (history : List QueueSnapshot) (state : TransportQueueReducerState)
    (earlier : List QueueSnapshot) (snapshot : QueueSnapshot) : Prop :=
  ∃ newer ∈ applied state earlier, Replaced history snapshot.queueEpoch newer.queueEpoch

/-- The epoch and authority of the snapshot were minted together. -/
structure QueueSnapshot.MintedAt (snapshot : QueueSnapshot) (index : Nat) : Prop where
  queueEpoch : snapshot.queueEpoch = Host.randomUUID index
  queueAuthorityId : snapshot.queueAuthorityId = Host.randomUUID (index + 1)
  version : snapshot.pendingMessageVersion.isFinite = true

def MintedInOrder (earlier later : QueueSnapshot) : Prop :=
  ∃ index laterIndex, earlier.MintedAt index ∧ later.MintedAt laterIndex ∧ index ≤ laterIndex

theorem QueueSnapshot.MintedAt.unique {left right : QueueSnapshot} {index other : Nat}
    (mintedAt : left.MintedAt index) (otherMintedAt : right.MintedAt other)
    (same : left.queueEpoch = right.queueEpoch) : index = other :=
  Host.randomUUID_injective
    (mintedAt.queueEpoch.symm.trans (same.trans otherMintedAt.queueEpoch))

theorem QueueSnapshot.MintedAt.complete {snapshot : QueueSnapshot} {index : Nat}
    (mintedAt : snapshot.MintedAt index) :
    snapshot.announcement.queueEpoch ≠ "" ∧ snapshot.announcement.queueAuthorityId ≠ "" ∧
      snapshot.announcement.pendingMessageVersion.isFinite = true := by
  change snapshot.queueEpoch ≠ "" ∧ snapshot.queueAuthorityId ≠ "" ∧
    snapshot.pendingMessageVersion.isFinite = true
  rw [mintedAt.queueEpoch, mintedAt.queueAuthorityId]
  exact ⟨Host.randomUUID_ne_empty _, Host.randomUUID_ne_empty _, mintedAt.version⟩

/-! ## What a run produces -/

namespace TransportQueueStore

/-- The snapshots of a session that the calls of a run returned, in order. -/
def produced (session : String) : TransportQueueStore → List Operation → List QueueSnapshot
  | _, [] => []
  | store, operation :: rest =>
    (store.returned operation).filter (fun snapshot => snapshot.sessionName = session) ++
      produced session (store.next operation) rest

theorem Describes.mintedAt {store : TransportQueueStore} {session : String}
    {reset : Option QueueResetReason} {snapshot : QueueSnapshot} {held : QueueMetaRow}
    (describes : Describes store session reset snapshot held) {index : Nat}
    (mintedAt : held.MintedAt index) : snapshot.MintedAt index where
  queueEpoch := describes.queueEpoch.trans mintedAt.queueEpoch
  queueAuthorityId := describes.queueAuthorityId.trans mintedAt.queueAuthorityId
  version := by rw [describes.version]; rfl

theorem Describes.mintedInOrder {before after : TransportQueueStore} {session : String}
    {reset laterReset : Option QueueResetReason} {snapshot laterSnapshot : QueueSnapshot}
    {held later : QueueMetaRow} (minted : Minted before) (advances : Advances session before after)
    (describes : Describes before session reset snapshot held)
    (describesLater : Describes after session laterReset laterSnapshot later) :
    MintedInOrder snapshot laterSnapshot := by
  obtain ⟨index, used, mintedAt⟩ := minted held (Table.lookup_eq_some_iff.mp describes.found).1
  rcases advances.epoch with ⟨known, reached, goesOn⟩ | isNew
  · cases goesOn.found.symm.trans describes.found
    cases goesOn.laterFound.symm.trans describesLater.found
    exact ⟨index, index, describes.mintedAt mintedAt, describesLater.mintedAt
      ⟨goesOn.queueEpoch.trans mintedAt.queueEpoch,
        goesOn.queueAuthorityId.trans mintedAt.queueAuthorityId⟩, Nat.le_refl _⟩
  · obtain ⟨laterIndex, fresh, laterMintedAt⟩ := isNew later describesLater.found
    exact ⟨index, laterIndex, describes.mintedAt mintedAt, describesLater.mintedAt laterMintedAt,
      by omega⟩

theorem Minted.next {store : TransportQueueStore} (minted : Minted store)
    (operation : Operation) : Minted (store.next operation) :=
  (next_changes store operation).preserves (fun _ _ => Change.minted) minted

theorem produced_describes {session : String} {store : TransportQueueStore}
    {operations : List Operation} (minted : Minted store) {snapshot : QueueSnapshot}
    (listed : snapshot ∈ produced session store operations) :
    ∃ after reset held, Advances session store after ∧ Minted after ∧
      Describes after session reset snapshot held := by
  induction operations generalizing store with
  | nil => cases listed
  | cons operation rest ih =>
    have advances := next_advances store operation session
    rcases List.mem_append.mp listed with here | later
    · obtain ⟨returned, ofSession⟩ := List.mem_filter.mp here
      obtain ⟨held, describes⟩ := returned_describes returned
      rw [of_decide_eq_true ofSession] at describes
      exact ⟨_, _, held, advances, minted.next operation, describes⟩
    · obtain ⟨after, reset, held, reached, afterMinted, describes⟩ :=
        ih (minted.next operation) later
      exact ⟨after, reset, held, advances.trans reached, afterMinted, describes⟩

theorem produced_mintedInOrder {session : String} {store : TransportQueueStore}
    (operations : List Operation) (minted : Minted store) :
    (produced session store operations).Pairwise MintedInOrder := by
  induction operations generalizing store with
  | nil => exact .nil
  | cons operation rest ih =>
    have nextMinted := minted.next operation
    have shown : ∀ snapshot ∈ (store.returned operation).filter
        (fun snapshot => snapshot.sessionName = session), ∃ reset held,
        Describes (store.next operation) session reset snapshot held := by
      intro snapshot listed
      obtain ⟨returned, ofSession⟩ := List.mem_filter.mp listed
      obtain ⟨held, describes⟩ := returned_describes returned
      rw [of_decide_eq_true ofSession] at describes
      exact ⟨_, held, describes⟩
    refine List.pairwise_append.mpr ⟨?_, ih nextMinted, ?_⟩
    · refine List.pairwise_iff_forall_sublist.mpr fun {first second} both => ?_
      obtain ⟨_, _, describes⟩ := shown first (both.subset List.mem_cons_self)
      obtain ⟨_, _, describesSecond⟩ :=
        shown second (both.subset (List.mem_cons_of_mem _ List.mem_cons_self))
      exact describes.mintedInOrder nextMinted (.refl session _) describesSecond
    · intro first here second later
      obtain ⟨_, _, describes⟩ := shown first here
      obtain ⟨_, _, _, reached, _, describesSecond⟩ := produced_describes nextMinted later
      exact describes.mintedInOrder nextMinted reached describesSecond

theorem produced_minted {session : String} {store : TransportQueueStore}
    {operations : List Operation} (minted : Minted store) {snapshot : QueueSnapshot}
    (listed : snapshot ∈ produced session store operations) : ∃ index, snapshot.MintedAt index := by
  obtain ⟨after, _, held, _, afterMinted, describes⟩ := produced_describes minted listed
  obtain ⟨index, _, mintedAt⟩ := afterMinted held (Table.lookup_eq_some_iff.mp describes.found).1
  exact ⟨index, describes.mintedAt mintedAt⟩

end TransportQueueStore

/-! ## Deliveries -/

theorem deliver_concat (state : TransportQueueReducerState) (deliveries : List QueueSnapshot)
    (last : QueueSnapshot) :
    deliver state (deliveries ++ [last]) = applySnapshot (deliver state deliveries) last := by
  rw [deliver, List.map_append, run_append]
  rfl

theorem applied_concat (state : TransportQueueReducerState) (deliveries : List QueueSnapshot)
    (last : QueueSnapshot) :
    applied state (deliveries ++ [last]) = applied state deliveries ++
      if (deliver state deliveries).Accepts last.announcement then [last] else [] := by
  induction deliveries generalizing state with
  | nil => exact List.append_nil _
  | cons snapshot rest ih =>
    rw [List.cons_append, applied, ih, applied, List.append_assoc]
    rfl

theorem applySnapshot_of_rejected {state : TransportQueueReducerState} {snapshot : QueueSnapshot}
    (rejected : ¬ state.Accepts snapshot.announcement) :
    ∃ reason, applySnapshot state snapshot = withDegraded state reason := by
  unfold applySnapshot
  cases decision : canApplySnapshot state snapshot.announcement with
  | error reason => exact ⟨reason, rfl⟩
  | ok admitted => exact False.elim (rejected decision)

theorem replaced_iff {history : List QueueSnapshot} (ordered : history.Pairwise MintedInOrder)
    {older newer : QueueSnapshot} (olderListed : older ∈ history) (newerListed : newer ∈ history)
    {index newerIndex : Nat} (mintedAt : older.MintedAt index)
    (newerMintedAt : newer.MintedAt newerIndex) :
    Replaced history older.queueEpoch newer.queueEpoch ↔ index < newerIndex := by
  have inOrder : ∀ {first second : QueueSnapshot}, [first, second].Sublist history →
      MintedInOrder first second := List.pairwise_iff_forall_sublist.mp ordered
  constructor
  · rintro ⟨different, first, second, ofOlder, ofNewer, both⟩
    obtain ⟨i, j, firstMintedAt, secondMintedAt, le⟩ := inOrder both
    cases firstMintedAt.unique mintedAt ofOlder
    cases secondMintedAt.unique newerMintedAt ofNewer
    refine lt_of_le_of_ne le ?_
    rintro rfl
    exact different (mintedAt.queueEpoch.trans newerMintedAt.queueEpoch.symm)
  · intro less
    have different : older.queueEpoch ≠ newer.queueEpoch := by
      intro same
      exact less.ne (mintedAt.unique newerMintedAt same)
    refine ⟨different, older, newer, rfl, rfl, ?_⟩
    apply pair_sublist_of_pairwise ordered olderListed newerListed
    · intro same
      exact different (congrArg QueueSnapshot.queueEpoch same)
    · rintro ⟨j, i, secondMintedAt, firstMintedAt, le⟩
      cases firstMintedAt.unique mintedAt rfl
      cases secondMintedAt.unique newerMintedAt rfl
      omega

theorem mem_of_applied {state : TransportQueueReducerState} {deliveries : List QueueSnapshot}
    {snapshot : QueueSnapshot} (listed : snapshot ∈ applied state deliveries) :
    snapshot ∈ deliveries := by
  induction deliveries generalizing state with
  | nil => cases listed
  | cons first rest ih =>
    rcases List.mem_append.mp listed with here | later
    · split at here
      · cases List.mem_singleton.mp here
        exact List.mem_cons_self
      · cases here
    · exact List.mem_cons_of_mem _ (ih later)

/-- The projection is on the newest epoch applied so far. -/
structure IsNewest (state : TransportQueueReducerState) (deliveries : List QueueSnapshot)
    (newest : QueueSnapshot) : Prop where
  listed : newest ∈ applied state deliveries
  baseline : (deliver state deliveries).baseline? =
    some ⟨newest.queueEpoch, newest.queueAuthorityId, newest.pendingMessageVersion⟩
  others : ∀ other ∈ applied state deliveries, MintedInOrder other newest

theorem isNewest_concat {state : TransportQueueReducerState} {deliveries : List QueueSnapshot}
    {last : QueueSnapshot} (accepted : (deliver state deliveries).Accepts last.announcement)
    (others : ∀ other ∈ applied state (deliveries ++ [last]), MintedInOrder other last) :
    IsNewest state (deliveries ++ [last]) last where
  listed := by
    rw [applied_concat, if_pos accepted]
    exact List.mem_append_right _ (List.mem_singleton.mpr rfl)
  baseline := by
    rw [deliver_concat]
    exact baseline?_applySnapshot accepted
  others

section Deliveries

variable {history : List QueueSnapshot} {state : TransportQueueReducerState}

theorem IsNewest.accepts_stale_iff (ordered : history.Pairwise MintedInOrder)
    (minted : ∀ snapshot ∈ history, ∃ index, snapshot.MintedAt index)
    {deliveries : List QueueSnapshot} (known : ∀ snapshot ∈ deliveries, snapshot ∈ history)
    {newest stale : QueueSnapshot} (isNewest : IsNewest state deliveries newest)
    (staleKnown : stale ∈ history) (isStale : IsStale history state deliveries stale) :
    stale.queueEpoch ≠ newest.queueEpoch ∧
      ((deliver state deliveries).Accepts stale.announcement ↔
        stale.announcement.resets = true) := by
  obtain ⟨newer, newerApplied, replaced⟩ := isStale
  obtain ⟨index, mintedAt⟩ := minted stale staleKnown
  obtain ⟨newerIndex, newestIndex, newerMintedAt, newestMintedAt, le⟩ :=
    isNewest.others newer newerApplied
  have less : index < newerIndex := (replaced_iff ordered staleKnown
    (known _ (mem_of_applied newerApplied)) mintedAt newerMintedAt).mp replaced
  have otherEpoch : stale.queueEpoch ≠ newest.queueEpoch := by
    intro same
    have := mintedAt.unique newestMintedAt same
    omega
  have otherAuthority : stale.queueAuthorityId ≠ newest.queueAuthorityId := by
    rw [mintedAt.queueAuthorityId, newestMintedAt.queueAuthorityId]
    intro same
    have := Host.randomUUID_injective same
    omega
  refine ⟨otherEpoch, ?_⟩
  rw [accepts_iff, isNewest.baseline]
  constructor
  · rintro ⟨_, decides⟩
    rcases decides _ rfl with ⟨same, _⟩ | ⟨_, _, resets⟩
    · exact False.elim (otherEpoch same)
    · exact resets
  · intro resets
    refine ⟨mintedAt.complete, ?_⟩
    rintro baseline found
    cases found
    exact .inr ⟨otherEpoch, otherAuthority, resets⟩

theorem IsNewest.rollsBack_iff (ordered : history.Pairwise MintedInOrder)
    (minted : ∀ snapshot ∈ history, ∃ index, snapshot.MintedAt index)
    {deliveries : List QueueSnapshot} (known : ∀ snapshot ∈ deliveries, snapshot ∈ history)
    {newest stale : QueueSnapshot} (isNewest : IsNewest state deliveries newest)
    (staleKnown : stale ∈ history) (isStale : IsStale history state deliveries stale) :
    RollsBack (deliver state deliveries) (deliver state (deliveries ++ [stale]))
      stale.queueEpoch ↔ stale.announcement.resets = true := by
  obtain ⟨otherEpoch, accepts⟩ :=
    isNewest.accepts_stale_iff ordered minted known staleKnown isStale
  rw [← accepts, deliver_concat]
  constructor
  · intro rollsBack
    by_contra rejected
    obtain ⟨reason, same⟩ := applySnapshot_of_rejected rejected
    rw [same] at rollsBack
    rcases rollsBack with ⟨left, back⟩ | ⟨entry, shown, absent⟩
    · exact left back
    · exact absent shown
  · intro accepted
    left
    have current := (baseline?_eq_some isNewest.baseline).1
    have entered := (baseline?_eq_some (baseline?_applySnapshot accepted)).1
    refine ⟨?_, entered⟩
    rw [current]
    intro same
    exact otherEpoch (Option.some.inj same).symm

theorem mintedInOrder_self {snapshot : QueueSnapshot}
    (mintedAt : ∃ index, snapshot.MintedAt index) : MintedInOrder snapshot snapshot := by
  obtain ⟨index, mintedAt⟩ := mintedAt
  exact ⟨index, index, mintedAt, mintedAt, Nat.le_refl _⟩

theorem MintedInOrder.trans {first second third : QueueSnapshot}
    (left : MintedInOrder first second) (right : MintedInOrder second third) :
    MintedInOrder first third := by
  obtain ⟨i, j, firstMintedAt, secondMintedAt, le⟩ := left
  obtain ⟨j', k, secondMintedAt', thirdMintedAt, le'⟩ := right
  cases secondMintedAt.unique secondMintedAt' rfl
  exact ⟨i, k, firstMintedAt, thirdMintedAt, le.trans le'⟩

theorem exists_isNewest (ordered : history.Pairwise MintedInOrder)
    (minted : ∀ snapshot ∈ history, ∃ index, snapshot.MintedAt index)
    (initial : state.baseline? = none) {deliveries : List QueueSnapshot}
    (known : ∀ snapshot ∈ deliveries, snapshot ∈ history)
    (quiet : AtEach (fun earlier snapshot => IsStale history state earlier snapshot →
      snapshot.announcement.resets = false) deliveries) :
    deliveries = [] ∨ ∃ newest, IsNewest state deliveries newest := by
  induction deliveries using List.reverseRecOn with
  | nil => exact .inl rfl
  | append_singleton deliveries last ih =>
    right
    obtain ⟨quiet, quietLast⟩ := atEach_concat.mp quiet
    have lastKnown := known last (List.mem_append_right _ (List.mem_singleton.mpr rfl))
    have known : ∀ snapshot ∈ deliveries, snapshot ∈ history :=
      fun snapshot listed => known snapshot (List.mem_append_left _ listed)
    have lastMinted := minted last lastKnown
    rcases ih known quiet with rfl | ⟨newest, isNewest⟩
    · obtain ⟨index, mintedAt⟩ := lastMinted
      have accepted : (deliver state []).Accepts last.announcement := by
        refine accepts_iff.mpr ⟨mintedAt.complete, ?_⟩
        intro baseline found
        cases initial.symm.trans found
      refine ⟨last, isNewest_concat accepted fun other listed => ?_⟩
      cases List.mem_singleton.mp (mem_of_applied listed)
      exact mintedInOrder_self ⟨index, mintedAt⟩
    · by_cases accepted : (deliver state deliveries).Accepts last.announcement
      · refine ⟨last, isNewest_concat accepted fun other listed => ?_⟩
        have newestInOrder : MintedInOrder newest last := by
          obtain ⟨index, newestMintedAt⟩ :=
            minted newest (known newest (mem_of_applied isNewest.listed))
          obtain ⟨lastIndex, mintedAt⟩ := lastMinted
          refine ⟨index, lastIndex, newestMintedAt, mintedAt, ?_⟩
          by_contra older
          have isStale : IsStale history state deliveries last :=
            ⟨newest, isNewest.listed, (replaced_iff ordered lastKnown
              (known newest (mem_of_applied isNewest.listed)) mintedAt newestMintedAt).mpr
                (by omega)⟩
          have resets := (isNewest.accepts_stale_iff ordered minted known lastKnown
            isStale).2.mp accepted
          rw [quietLast isStale] at resets
          cases resets
        rw [applied_concat, if_pos accepted] at listed
        rcases List.mem_append.mp listed with earlier | isLast
        · exact (isNewest.others other earlier).trans newestInOrder
        · cases List.mem_singleton.mp isLast
          exact mintedInOrder_self lastMinted
      · obtain ⟨reason, same⟩ := applySnapshot_of_rejected accepted
        have sameApplied : applied state (deliveries ++ [last]) = applied state deliveries := by
          rw [applied_concat, if_neg accepted, List.append_nil]
        refine ⟨newest, sameApplied ▸ isNewest.listed, ?_, sameApplied ▸ isNewest.others⟩
        rw [deliver_concat, same]
        exact isNewest.baseline

theorem never_rollsBack_iff (ordered : history.Pairwise MintedInOrder)
    (minted : ∀ snapshot ∈ history, ∃ index, snapshot.MintedAt index)
    (initial : state.baseline? = none) {deliveries : List QueueSnapshot}
    (known : ∀ snapshot ∈ deliveries, snapshot ∈ history) :
    AtEach (fun earlier snapshot => IsStale history state earlier snapshot →
      ¬ RollsBack (deliver state earlier) (deliver state (earlier ++ [snapshot]))
        snapshot.queueEpoch) deliveries ↔
    AtEach (fun earlier snapshot => IsStale history state earlier snapshot →
      snapshot.announcement.resets = false) deliveries := by
  induction deliveries using List.reverseRecOn with
  | nil => exact iff_of_true atEach_nil atEach_nil
  | append_singleton deliveries last ih =>
    have lastKnown := known last (List.mem_append_right _ (List.mem_singleton.mpr rfl))
    have known : ∀ snapshot ∈ deliveries, snapshot ∈ history :=
      fun snapshot listed => known snapshot (List.mem_append_left _ listed)
    rw [atEach_concat, atEach_concat, ih known]
    refine and_congr_right fun quiet => imp_congr_right fun isStale => ?_
    rcases exists_isNewest ordered minted initial known quiet with rfl | ⟨newest, isNewest⟩
    · obtain ⟨newer, impossible, _⟩ := isStale
      cases impossible
    · rw [isNewest.rollsBack_iff ordered minted known lastKnown isStale, Bool.not_eq_true]

end Deliveries

/-- The snapshots one session's calls returned, delivered in any order and any number of
times: none of a replaced epoch brings that epoch or a live entry back exactly when none
delivered after a newer epoch was applied announces a reset. -/
theorem reordering_never_rollsBack_iff (session : String) (operations : List Operation)
    (sessionName : Option String) (deliveries : List QueueSnapshot)
    (known : ∀ snapshot ∈ deliveries,
      snapshot ∈ TransportQueueStore.produced session .empty operations) :
    AtEach (fun earlier snapshot =>
      IsStale (TransportQueueStore.produced session .empty operations)
        (createTransportQueueReducerState sessionName) earlier snapshot →
      ¬ RollsBack (deliver (createTransportQueueReducerState sessionName) earlier)
        (deliver (createTransportQueueReducerState sessionName) (earlier ++ [snapshot]))
        snapshot.queueEpoch) deliveries ↔
    AtEach (fun earlier snapshot =>
      IsStale (TransportQueueStore.produced session .empty operations)
        (createTransportQueueReducerState sessionName) earlier snapshot →
      snapshot.announcement.resets = false) deliveries := by
  have minted : TransportQueueStore.Minted .empty := TransportQueueStore.run_minted []
  exact never_rollsBack_iff (TransportQueueStore.produced_mintedInOrder operations minted)
    (fun _ listed => TransportQueueStore.produced_minted minted listed) rfl known

end Host

section FixedRuns

open Library.FixedRuns

def twoResets : List Operation :=
  [.readSnapshot "deck" "read", .reset "deck" .userClear none,
    .enqueue 0 (plainMessage (some ⟨"A", "e"⟩) "m1" 1), .reset "deck" .userClear none]

def firstReset : QueueSnapshot :=
  { snapshotOf "uuu" "uuuu" 1 (some .userClear) [] with source := "reset" }

def queuedBetween : QueueSnapshot :=
  { snapshotOf "uuu" "uuuu" 2 none ["m1"] with source := "enqueue" }

def secondReset : QueueSnapshot :=
  { snapshotOf "uuuuu" "uuuuuu" 3 (some .userClear) [] with source := "reset" }

/-- The reset that was replaced comes after the one that replaced it, and takes the
projection back; the message of its epoch is live again with the snapshot that follows. -/
theorem late_reset_rolls_back :
    (∀ snapshot ∈ [secondReset, firstReset, queuedBetween],
      snapshot ∈ TransportQueueStore.produced "deck" .empty twoResets) ∧
    ¬ AtEach (fun earlier snapshot =>
      IsStale (TransportQueueStore.produced "deck" .empty twoResets)
        (createTransportQueueReducerState none) earlier snapshot →
      ¬ RollsBack (deliver (createTransportQueueReducerState none) earlier)
        (deliver (createTransportQueueReducerState none) (earlier ++ [snapshot]))
        snapshot.queueEpoch) [secondReset, firstReset, queuedBetween] ∧
    (deliver (createTransportQueueReducerState none)
      [secondReset, firstReset, queuedBetween]).pendingMessageEntries = [queuedEntry "m1"] := by
  refine ⟨by decide, ?_, by decide⟩
  intro never
  have isStale : IsStale (TransportQueueStore.produced "deck" .empty twoResets)
      (createTransportQueueReducerState none) [secondReset] firstReset :=
    ⟨secondReset, by decide, by decide, firstReset, secondReset, rfl, rfl, by decide⟩
  exact never [secondReset] firstReset [queuedBetween] rfl isStale (.inl (by decide))

theorem reordering_never_rollsBack_iff_run :
    AtEach (fun earlier snapshot =>
      IsStale (TransportQueueStore.produced "deck" .empty twoResets)
        (createTransportQueueReducerState none) earlier snapshot →
      ¬ RollsBack (deliver (createTransportQueueReducerState none) earlier)
        (deliver (createTransportQueueReducerState none) (earlier ++ [snapshot]))
        snapshot.queueEpoch) [secondReset, queuedBetween] ↔
    AtEach (fun earlier snapshot =>
      IsStale (TransportQueueStore.produced "deck" .empty twoResets)
        (createTransportQueueReducerState none) earlier snapshot →
      snapshot.announcement.resets = false) [secondReset, queuedBetween] :=
  reordering_never_rollsBack_iff "deck" twoResets none [secondReset, queuedBetween] (by decide)

end FixedRuns

end ImCodes.Queue
