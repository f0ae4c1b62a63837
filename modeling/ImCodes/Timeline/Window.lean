import ImCodes.Timeline.Buffer
import ImCodes.Library.MergeWindow
import Mathlib.Data.List.Dedup

/-!
# Merges of timeline windows

`mergeTimelineEvents` merges incoming events into a cached window: revisions of a cached event
take its place, the others are merged by time, and the newest events are kept. Which object an
array holds decides whether the cached array is returned as it is; `sameObject` tells whether
two equal events are one object.
-/

set_option autoImplicit false

namespace ImCodes.Timeline

open Library TimelineEvent

def timeKey (event : TimelineEvent) : Int ×ₗ Int := toLex (event.ts, event.seq)

/-- `sort((a, b) => a.ts - b.ts || a.seq - b.seq)`. -/
def sortByTime (events : List TimelineEvent) : List TimelineEvent :=
  events.insertionSort fun left right => timeKey left ≤ timeKey right

def inOrder : List TimelineEvent → Bool
  | previous :: current :: rest => timeKey previous ≤ timeKey current && inOrder (current :: rest)
  | _ => true

/-- The incoming revisions of each event, folded in their order. -/
def foldIncoming (incoming : List TimelineEvent) : Dictionary String TimelineEvent :=
  incoming.foldl
    (fun byId event => byId.put event.eventId <|
      match byId.get? event.eventId with
      | none => event
      | some previous => preferTimelineEvent previous event)
    Table.empty

section Merge

variable (sameObject : TimelineEvent → TimelineEvent → Bool)

/-- `preferTimelineEvent(existing, incoming) === existing`. -/
def keepsObject (existing incoming : TimelineEvent) : Bool :=
  (choosePreferredTimelineEvent existing incoming ≠ incoming || sameObject existing incoming) &&
    preferTimelineEvent existing incoming = existing

/-- The cached events in their new revisions, whether one of them changed, and the incoming
events that are no revision of a cached one. -/
def replaceEvents : Dictionary String TimelineEvent → List TimelineEvent →
    List TimelineEvent × Bool × Dictionary String TimelineEvent
  | byId, [] => ([], false, byId)
  | byId, event :: rest =>
    match byId.get? event.eventId with
    | none =>
      let (replaced, changed, left) := replaceEvents byId rest
      (event :: replaced, changed, left)
    | some next =>
      let (replaced, changed, left) := replaceEvents (byId.erase event.eventId) rest
      (preferTimelineEvent event next :: replaced,
        !keepsObject sameObject event next || changed, left)

/-- Whether `mergeTimelineEvents` returns the cached array. -/
def leavesUnchanged (existing incoming : List TimelineEvent) : Bool :=
  let (_, changed, left) := replaceEvents sameObject (foldIncoming incoming) existing
  !changed && left.rows.isEmpty

/-- `mergeTimelineEvents`. -/
def mergeTimelineEvents (existing incoming : List TimelineEvent) (maxEvents : Nat) :
    List TimelineEvent :=
  if leavesUnchanged sameObject existing incoming then existing
  else
    let (replaced, _, left) := replaceEvents sameObject (foldIncoming incoming) existing
    let newEvents := sortByTime (left.rows.map Prod.snd)
    let merged := mergeByRank timeKey replaced newEvents
    let bounded :=
      if maxEvents < merged.length then merged.drop (merged.length - maxEvents) else merged
    -- Arrays cached by older builds can be out of order; only those are sorted again.
    if inOrder bounded then bounded else sortByTime bounded

end Merge

/-! ## Order -/

theorem pairwise_sortByTime (events : List TimelineEvent) :
    (sortByTime events).Pairwise fun before after => timeKey before ≤ timeKey after :=
  pairwise_insertionSort_of_rank timeKey (List.pairwise_of_forall fun _ _ => Iff.rfl)

theorem sortByTime_perm (events : List TimelineEvent) : (sortByTime events).Perm events :=
  List.perm_insertionSort _ events

theorem pairwise_of_inOrder {events : List TimelineEvent} (ordered : inOrder events = true) :
    events.Pairwise fun before after => timeKey before ≤ timeKey after := by
  induction events with
  | nil => exact .nil
  | cons first rest ih =>
    cases rest with
    | nil => exact List.pairwise_singleton _ _
    | cons second rest =>
      simp only [inOrder, Bool.and_eq_true, decide_eq_true_eq] at ordered
      have behind := ih ordered.2
      refine List.pairwise_cons.mpr ⟨?_, behind⟩
      intro event member
      rcases List.mem_cons.mp member with rfl | later
      · exact ordered.1
      · exact ordered.1.trans ((List.pairwise_cons.mp behind).1 event later)

theorem pairwise_healed (events : List TimelineEvent) :
    (if inOrder events then events else sortByTime events).Pairwise
      fun before after => timeKey before ≤ timeKey after := by
  split
  · next ordered => exact pairwise_of_inOrder ordered
  · exact pairwise_sortByTime events

/-! ## The revisions of each event -/

def foldRevisions : List TimelineEvent → Option TimelineEvent
  | [] => none
  | event :: rest => some (rest.foldl preferTimelineEvent event)

def revisionsOf (id : String) (events : List TimelineEvent) : List TimelineEvent :=
  events.filter fun event => event.eventId = id

/-- The cached revisions of an event, folded with the incoming ones. -/
def revisionOf (existing incoming : List TimelineEvent) (id : String) : Option TimelineEvent :=
  match foldRevisions (revisionsOf id existing), foldRevisions (revisionsOf id incoming) with
  | some held, some arrived => some (preferTimelineEvent held arrived)
  | some held, none => some held
  | none, arrived => arrived

def revisedEvents (existing incoming : List TimelineEvent) : List TimelineEvent :=
  ((existing ++ incoming).map TimelineEvent.eventId).dedup.filterMap (revisionOf existing incoming)

def revisedBase (existing incoming : List TimelineEvent) : List TimelineEvent :=
  existing.filterMap fun event => revisionOf existing incoming event.eventId

def arrivals (existing incoming : List TimelineEvent) : List TimelineEvent :=
  sortByTime (((foldIncoming incoming).rows.map Prod.snd).filter fun event =>
    event.eventId ∉ existing.map TimelineEvent.eventId)

theorem preferTimelineEvent_eventId {existing incoming : TimelineEvent}
    (same : existing.eventId = incoming.eventId) :
    (preferTimelineEvent existing incoming).eventId = incoming.eventId := by
  rcases preferTimelineEvent_revises existing incoming with held | arrived
  · rw [held.eventId, same]
  · exact arrived.eventId

theorem foldRevisions_concat (events : List TimelineEvent) (event : TimelineEvent) :
    foldRevisions (events ++ [event]) = some (match foldRevisions events with
      | none => event
      | some previous => preferTimelineEvent previous event) := by
  cases events with
  | nil => rfl
  | cons first rest => simp [foldRevisions]

theorem get?_foldIncoming (incoming : List TimelineEvent) (id : String) :
    (foldIncoming incoming).get? id = foldRevisions (revisionsOf id incoming) := by
  induction incoming using List.reverseRecOn with
  | nil => rfl
  | append_singleton before event ih =>
    have folded : foldIncoming (before ++ [event]) =
        (foldIncoming before).put event.eventId (match (foldIncoming before).get? event.eventId with
          | none => event
          | some previous => preferTimelineEvent previous event) := by
      simp [foldIncoming]
    rw [folded, Dictionary.get?_put]
    by_cases same : event.eventId = id
    · subst same
      have listed : revisionsOf event.eventId (before ++ [event]) =
          revisionsOf event.eventId before ++ [event] := by
        simp [revisionsOf]
      rw [if_pos rfl, listed, foldRevisions_concat, ih]
    · have listed : revisionsOf id (before ++ [event]) = revisionsOf id before := by
        simp [revisionsOf, same]
      rw [if_neg same, listed, ih]

theorem eventId_of_foldRevisions {id : String} {events : List TimelineEvent}
    {event : TimelineEvent} (found : foldRevisions (revisionsOf id events) = some event) :
    event.eventId = id := by
  have listed : ∀ other ∈ revisionsOf id events, other.eventId = id := by
    intro other member
    simpa using (List.mem_filter.mp member).2
  cases isList : revisionsOf id events with
  | nil => simp [isList, foldRevisions] at found
  | cons first rest =>
    rw [isList] at found listed
    obtain rfl : rest.foldl preferTimelineEvent first = event := Option.some.inj found
    have first_ := listed first List.mem_cons_self
    have rest_ : ∀ other ∈ rest, other.eventId = id := fun other member =>
      listed other (List.mem_cons_of_mem _ member)
    clear found listed isList
    induction rest generalizing first with
    | nil => exact first_
    | cons second rest ih =>
      have second_ := rest_ second List.mem_cons_self
      apply ih
      · rw [preferTimelineEvent_eventId (first_.trans second_.symm), second_]
      · exact fun other member => rest_ other (List.mem_cons_of_mem _ member)

theorem foldRevisions_isSome {id : String} {events : List TimelineEvent} :
    (foldRevisions (revisionsOf id events)).isSome ↔ id ∈ events.map TimelineEvent.eventId := by
  cases isList : revisionsOf id events with
  | nil =>
    have none_ := List.filter_eq_nil_iff.mp isList
    simpa [foldRevisions] using none_
  | cons first rest =>
    have member : first ∈ revisionsOf id events := isList ▸ List.mem_cons_self
    obtain ⟨inside, same⟩ := List.mem_filter.mp member
    simp only [foldRevisions, Option.isSome_some, true_iff]
    exact List.mem_map.mpr ⟨first, inside, by simpa using same⟩

theorem revisionOf_eventId {existing incoming : List TimelineEvent} {id : String}
    {event : TimelineEvent} (found : revisionOf existing incoming id = some event) :
    event.eventId = id := by
  unfold revisionOf at found
  cases isHeld : foldRevisions (revisionsOf id existing) with
  | none =>
    rw [isHeld] at found
    exact eventId_of_foldRevisions found
  | some held =>
    cases isArrived : foldRevisions (revisionsOf id incoming) with
    | none =>
      obtain rfl : held = event := by simpa [isHeld, isArrived] using found
      exact eventId_of_foldRevisions isHeld
    | some arrived =>
      obtain rfl : preferTimelineEvent held arrived = event := by
        simpa [isHeld, isArrived] using found
      have arrivedId := eventId_of_foldRevisions isArrived
      rw [preferTimelineEvent_eventId ((eventId_of_foldRevisions isHeld).trans arrivedId.symm),
        arrivedId]

/-! ## What a merge puts together -/

section Replaced

variable {sameObject : TimelineEvent → TimelineEvent → Bool}
  {existing incoming : List TimelineEvent}

theorem replaceEvents_eq (byId : Dictionary String TimelineEvent)
    (distinct : (existing.map TimelineEvent.eventId).Nodup) :
    (replaceEvents sameObject byId existing).1 = existing.map (fun event =>
      match byId.get? event.eventId with
      | none => event
      | some next => preferTimelineEvent event next) ∧
    (replaceEvents sameObject byId existing).2.2.rows =
      byId.rows.filter fun entry => entry.1 ∉ existing.map TimelineEvent.eventId := by
  induction existing generalizing byId with
  | nil => simp [replaceEvents]
  | cons event rest ih =>
    obtain ⟨fresh, distinctRest⟩ := List.nodup_cons.mp distinct
    cases found : byId.get? event.eventId with
    | none =>
      obtain ⟨replaced, left⟩ := ih byId distinctRest
      have absent : ∀ entry ∈ byId.rows, entry.1 ≠ event.eventId := by
        intro entry member same
        have present := Dictionary.get?_eq_some_iff.mpr (show (entry.1, entry.2) ∈ byId from member)
        rw [same, found] at present
        cases present
      constructor
      · simp [replaceEvents, found, replaced]
      · simp only [replaceEvents, found, left]
        apply List.filter_congr
        intro entry member
        simp [absent entry member]
    | some next =>
      obtain ⟨replaced, left⟩ := ih (byId.erase event.eventId) distinctRest
      constructor
      · simp only [replaceEvents, found, replaced, List.map_cons, List.cons.injEq, true_and]
        apply List.map_congr_left
        intro other member
        have apart : other.eventId ≠ event.eventId := fun same =>
          fresh (same ▸ List.mem_map_of_mem member)
        simp [apart]
      · simp only [replaceEvents, found, left]
        simp only [Dictionary.erase, Table.deleteWhere, List.filter_filter]
        apply List.filter_congr
        intro entry _
        by_cases same : entry.1 = event.eventId <;> simp [same]

theorem revisionsOf_cached (distinct : (existing.map TimelineEvent.eventId).Nodup)
    {event : TimelineEvent} (member : event ∈ existing) :
    revisionsOf event.eventId existing = [event] := by
  induction existing with
  | nil => cases member
  | cons first rest ih =>
    obtain ⟨fresh, distinctRest⟩ := List.nodup_cons.mp distinct
    rcases List.mem_cons.mp member with rfl | later
    · have none_ : rest.filter (fun other => decide (other.eventId = event.eventId)) = [] := by
        apply List.filter_eq_nil_iff.mpr
        intro other listed
        have apart : other.eventId ≠ event.eventId := fun same =>
          fresh (same ▸ List.mem_map_of_mem listed)
        simpa using apart
      simp [revisionsOf, none_]
    · have apart : first.eventId ≠ event.eventId := fun same =>
        fresh (same ▸ List.mem_map_of_mem later)
      simp only [revisionsOf, List.filter_cons, apart, decide_false, Bool.false_eq_true,
        ↓reduceIte]
      exact ih distinctRest later

theorem replaced_eq (distinct : (existing.map TimelineEvent.eventId).Nodup) :
    (replaceEvents sameObject (foldIncoming incoming) existing).1 =
      revisedBase existing incoming := by
  rw [(replaceEvents_eq _ distinct).1, revisedBase]
  have each : ∀ event ∈ existing, revisionOf existing incoming event.eventId =
      some (match (foldIncoming incoming).get? event.eventId with
        | none => event
        | some next => preferTimelineEvent event next) := by
    intro event member
    rw [get?_foldIncoming, revisionOf, revisionsOf_cached distinct member]
    cases foldRevisions (revisionsOf event.eventId incoming) <;> rfl
  rw [List.filterMap_congr each, List.filterMap_eq_map']

theorem key_of_foldIncoming {entry : String × TimelineEvent}
    (member : entry ∈ (foldIncoming incoming).rows) : entry.2.eventId = entry.1 := by
  have found := Dictionary.get?_eq_some_iff.mpr
    (show (entry.1, entry.2) ∈ foldIncoming incoming from member)
  rw [get?_foldIncoming] at found
  exact eventId_of_foldRevisions found

theorem unmatched_eq (existing incoming : List TimelineEvent) :
    ((foldIncoming incoming).rows.filter fun entry =>
      entry.1 ∉ existing.map TimelineEvent.eventId).map Prod.snd =
      ((foldIncoming incoming).rows.map Prod.snd).filter fun event =>
        event.eventId ∉ existing.map TimelineEvent.eventId := by
  rw [List.filter_map]
  congr 1
  apply List.filter_congr
  intro entry member
  simp only [Function.comp_apply, key_of_foldIncoming member]

theorem newEvents_eq (distinct : (existing.map TimelineEvent.eventId).Nodup) :
    sortByTime ((replaceEvents sameObject (foldIncoming incoming) existing).2.2.rows.map
      Prod.snd) = arrivals existing incoming := by
  rw [(replaceEvents_eq _ distinct).2, unmatched_eq, arrivals]

theorem revisedEvents_perm (distinct : (existing.map TimelineEvent.eventId).Nodup) :
    (revisedEvents existing incoming).Perm
      (revisedBase existing incoming ++ arrivals existing incoming) := by
  have kept : ∀ entry ∈ (foldIncoming incoming).rows.filter (fun entry =>
      decide (entry.1 ∉ existing.map TimelineEvent.eventId)),
      revisionOf existing incoming entry.1 = some entry.2 := by
    intro entry member
    obtain ⟨inside, outside⟩ := List.mem_filter.mp member
    have found := Dictionary.get?_eq_some_iff.mpr
      (show (entry.1, entry.2) ∈ foldIncoming incoming from inside)
    rw [get?_foldIncoming] at found
    have absent : foldRevisions (revisionsOf entry.1 existing) = none := by
      rw [← Option.not_isSome_iff_eq_none, foldRevisions_isSome]
      simpa using outside
    rw [revisionOf, absent, found]
  have arrived : ((foldIncoming incoming).rows.filter (fun entry =>
      decide (entry.1 ∉ existing.map TimelineEvent.eventId))).map Prod.snd =
      (((foldIncoming incoming).rows.filter (fun entry =>
        decide (entry.1 ∉ existing.map TimelineEvent.eventId))).map Prod.fst).filterMap
          (revisionOf existing incoming) := by
    rw [List.filterMap_map, @List.filterMap_congr _ _ (revisionOf existing incoming ∘ Prod.fst) _ _
      kept, List.filterMap_eq_map']
  have ids : ((existing ++ incoming).map TimelineEvent.eventId).dedup.Perm
      (existing.map TimelineEvent.eventId ++ ((foldIncoming incoming).rows.filter (fun entry =>
        decide (entry.1 ∉ existing.map TimelineEvent.eventId))).map Prod.fst) := by
    apply (List.perm_ext_iff_of_nodup (List.nodup_dedup _) ?_).mpr
    · intro id
      have listed : id ∈ (foldIncoming incoming).rows.map Prod.fst ↔
          id ∈ incoming.map TimelineEvent.eventId := by
        rw [← foldRevisions_isSome, ← get?_foldIncoming]
        exact Dictionary.mem_keys_iff.trans Option.isSome_iff_exists.symm
      have filtered : id ∈ ((foldIncoming incoming).rows.filter (fun entry =>
          decide (entry.1 ∉ existing.map TimelineEvent.eventId))).map Prod.fst ↔
          id ∈ (foldIncoming incoming).rows.map Prod.fst ∧
            id ∉ existing.map TimelineEvent.eventId := by
        simp only [List.mem_map, List.mem_filter, decide_eq_true_eq]
        constructor
        · rintro ⟨entry, ⟨inside, outside⟩, rfl⟩
          exact ⟨⟨entry, inside, rfl⟩, outside⟩
        · rintro ⟨⟨entry, inside, rfl⟩, outside⟩
          exact ⟨entry, ⟨inside, outside⟩, rfl⟩
      rw [List.mem_dedup, List.map_append, List.mem_append, List.mem_append, filtered, listed]
      by_cases held : id ∈ existing.map TimelineEvent.eventId <;> simp [held]
    · apply List.nodup_append.mpr
      refine ⟨distinct, ?_, ?_⟩
      · exact (List.filter_sublist.map Prod.fst).nodup (foldIncoming incoming).keys_nodup
      · intro id held other arrivedId same
        subst same
        obtain ⟨entry, member, rfl⟩ := List.mem_map.mp arrivedId
        exact absurd held (by simpa using (List.mem_filter.mp member).2)
  have parts := ids.filterMap (revisionOf existing incoming)
  rw [List.filterMap_append, List.filterMap_map, ← arrived] at parts
  rw [unmatched_eq] at parts
  exact parts.trans ((sortByTime_perm _).symm.append_left _)

end Replaced

/-! ## The newest events -/

/-- The window holds the newest events of the inputs in order, each in its folded revision. -/
structure KeepsNewestEvents (existing incoming : List TimelineEvent) (maxEvents : Nat)
    (result : List TimelineEvent) : Prop where
  distinct : (result.map TimelineEvent.eventId).Nodup
  sorted : result.Pairwise fun before after => timeKey before ≤ timeKey after
  newest : Library.Newest timeKey maxEvents (revisedEvents existing incoming) result

section Window

variable {sameObject : TimelineEvent → TimelineEvent → Bool}
  {existing incoming : List TimelineEvent}

theorem revisedEvents_distinct (existing incoming : List TimelineEvent) :
    ((revisedEvents existing incoming).map TimelineEvent.eventId).Nodup := by
  have named : ∀ ids : List String, ((ids.filterMap (revisionOf existing incoming)).map
      TimelineEvent.eventId).Sublist ids := by
    intro ids
    induction ids with
    | nil => exact .slnil
    | cons id rest ih =>
      cases found : revisionOf existing incoming id with
      | none =>
        rw [List.filterMap_cons_none found]
        exact ih.cons id
      | some event =>
        rw [List.filterMap_cons_some found, List.map_cons, revisionOf_eventId found]
        exact ih.cons_cons id
  exact (named _).nodup (List.nodup_dedup _)

theorem mergeTimelineEvents_sorted
    (changes : leavesUnchanged sameObject existing incoming = false) (maxEvents : Nat) :
    (mergeTimelineEvents sameObject existing incoming maxEvents).Pairwise
      fun before after => timeKey before ≤ timeKey after := by
  simp only [mergeTimelineEvents, changes, Bool.false_eq_true, ↓reduceIte]
  exact pairwise_healed _

theorem mergeTimelineEvents_perm (distinct : (existing.map TimelineEvent.eventId).Nodup)
    (changes : leavesUnchanged sameObject existing incoming = false) (maxEvents : Nat) :
    (mergeTimelineEvents sameObject existing incoming maxEvents).Perm
      ((mergeByRank timeKey (revisedBase existing incoming) (arrivals existing incoming)).drop
        ((mergeByRank timeKey (revisedBase existing incoming) (arrivals existing incoming)).length -
          maxEvents)) := by
  simp only [mergeTimelineEvents, changes, Bool.false_eq_true, ↓reduceIte, replaced_eq distinct,
    newEvents_eq distinct]
  generalize mergeByRank timeKey (revisedBase existing incoming) (arrivals existing incoming) =
    merged
  have bounded : (if maxEvents < merged.length then merged.drop (merged.length - maxEvents)
      else merged) = merged.drop (merged.length - maxEvents) := by
    split
    · rfl
    · next fits => rw [Nat.sub_eq_zero_of_le (not_lt.mp fits), List.drop_zero]
  rw [bounded]
  split
  · exact .refl _
  · exact sortByTime_perm _

/-- A merge keeps the newest events exactly if the trim, which comes before the sort, cuts no
event off in favour of an older cached one that stands behind it. -/
theorem mergeTimelineEvents_keeps_newest_iff
    (distinct : (existing.map TimelineEvent.eventId).Nodup)
    (changes : leavesUnchanged sameObject existing incoming = false) (maxEvents : Nat) :
    KeepsNewestEvents existing incoming maxEvents
        (mergeTimelineEvents sameObject existing incoming maxEvents) ↔
      KeepsBehind timeKey (revisedBase existing incoming) (arrivals existing incoming)
        ((revisedBase existing incoming).length + (arrivals existing incoming).length -
          maxEvents) := by
  have sorted := mergeTimelineEvents_sorted changes maxEvents
  have kept := mergeTimelineEvents_perm distinct changes maxEvents
  have whole := mergeByRank_perm timeKey (revisedBase existing incoming)
    (arrivals existing incoming)
  have parts : (revisedEvents existing incoming).Perm
      (revisedBase existing incoming ++ arrivals existing incoming) := revisedEvents_perm distinct
  have size := whole.length_eq
  rw [List.length_append] at size
  have ordered : (arrivals existing incoming).Pairwise fun before after =>
      timeKey before ≤ timeKey after := pairwise_sortByTime _
  rw [← size, ← mergeByRank_cutsByRank_iff ordered, ← newest_drop_iff kept]
  constructor
  · intro keeps
    exact keeps.newest.perm (parts.trans whole.symm)
  · intro newest
    refine ⟨?_, sorted, newest.perm (whole.trans parts.symm)⟩
    have same := (parts.trans whole.symm).map TimelineEvent.eventId
    have unique := same.nodup_iff.mp (revisedEvents_distinct existing incoming)
    exact (kept.map _).nodup_iff.mpr (((List.drop_sublist _ _).map _).nodup unique)

end Window

/-! ## Batch after batch -/

section Batches

variable (sameObject : TimelineEvent → TimelineEvent → Bool) (maxEvents : Nat)
  {window incoming : List TimelineEvent}

theorem foldIncoming_rows (distinct : (incoming.map TimelineEvent.eventId).Nodup) :
    (foldIncoming incoming).rows.map Prod.snd = incoming := by
  induction incoming using List.reverseRecOn with
  | nil => rfl
  | append_singleton before event ih =>
    rw [List.map_append, List.nodup_append] at distinct
    obtain ⟨earlier, -, apart⟩ := distinct
    have isNew : (foldIncoming before).get? event.eventId = none := by
      rw [get?_foldIncoming, revisionsOf, List.filter_eq_nil_iff.mpr]
      · rfl
      · intro other member
        simpa using apart _ (List.mem_map_of_mem member) event.eventId (by simp)
    have added : foldIncoming (before ++ [event]) =
        (foldIncoming before).put event.eventId event := by
      rw [foldIncoming, List.foldl_append]
      change (foldIncoming before).put event.eventId
        (match (foldIncoming before).get? event.eventId with
          | none => event
          | some previous => preferTimelineEvent previous event) = _
      rw [isNew]
    rw [added, Dictionary.rows_put_new isNew, List.map_append, ih earlier]
    rfl

theorem revisedBase_fresh (distinct : (window.map TimelineEvent.eventId).Nodup)
    (fresh : ∀ event ∈ incoming, event.eventId ∉ window.map TimelineEvent.eventId) :
    revisedBase window incoming = window := by
  have each : ∀ event ∈ window, revisionOf window incoming event.eventId = some event := by
    intro event member
    have nothing : revisionsOf event.eventId incoming = [] := by
      apply List.filter_eq_nil_iff.mpr
      intro other arrived
      have apart : other.eventId ≠ event.eventId := fun same =>
        fresh other arrived (same ▸ List.mem_map_of_mem member)
      simpa using apart
    simp only [revisionOf, revisionsOf_cached distinct member, nothing, foldRevisions,
      List.foldl_nil]
  rw [revisedBase, List.filterMap_congr each, List.filterMap_some]

theorem arrivals_fresh (distinct : (incoming.map TimelineEvent.eventId).Nodup)
    (fresh : ∀ event ∈ incoming, event.eventId ∉ window.map TimelineEvent.eventId) :
    (arrivals window incoming).Perm incoming := by
  have all : (incoming.filter fun event =>
      decide (event.eventId ∉ window.map TimelineEvent.eventId)) = incoming :=
    List.filter_eq_self.mpr fun event member => decide_eq_true (fresh event member)
  rw [arrivals, foldIncoming_rows distinct, all]
  exact sortByTime_perm incoming

/-- A merge of new events into an ordered window. -/
theorem mergeTimelineEvents_fresh
    (sorted : window.Pairwise fun before after => timeKey before ≤ timeKey after)
    (short : window.length ≤ maxEvents)
    (distinct : ((window ++ incoming).map TimelineEvent.eventId).Nodup) :
    Library.Newest timeKey maxEvents (window ++ incoming)
        (mergeTimelineEvents sameObject window incoming maxEvents) ∧
      (mergeTimelineEvents sameObject window incoming maxEvents).Pairwise
        fun before after => timeKey before ≤ timeKey after := by
  rw [List.map_append, List.nodup_append] at distinct
  obtain ⟨distinctWindow, distinctIncoming, apart⟩ := distinct
  have fresh : ∀ event ∈ incoming, event.eventId ∉ window.map TimelineEvent.eventId :=
    fun event member held => apart _ held _ (List.mem_map_of_mem member) rfl
  have arrived := arrivals_fresh distinctIncoming fresh
  have base := revisedBase_fresh distinctWindow fresh
  cases changes : leavesUnchanged sameObject window incoming with
  | true =>
    have nothing : arrivals window incoming = [] := by
      have empty := (Bool.and_eq_true_iff.mp changes).2
      rw [← @newEvents_eq sameObject _ _ distinctWindow, List.isEmpty_iff.mp empty]
      rfl
    rw [nothing] at arrived
    rw [mergeTimelineEvents, if_pos changes, List.nil_perm.mp arrived, List.append_nil]
    refine ⟨⟨(Nat.min_eq_right short).symm, [], .refl _, ?_⟩, sorted⟩
    intro before impossible
    cases impossible
  | false =>
    refine ⟨?_, mergeTimelineEvents_sorted changes maxEvents⟩
    have kept := mergeTimelineEvents_perm distinctWindow changes maxEvents
    have whole := mergeByRank_perm timeKey window (arrivals window incoming)
    have ordered : (arrivals window incoming).Pairwise fun before after =>
        timeKey before ≤ timeKey after := pairwise_sortByTime _
    rw [base] at kept
    have newest := (newest_drop_iff kept).mpr
      ((mergeByRank_cutsByRank_iff ordered _).mpr (keepsBehind_of_sorted sorted _))
    exact newest.perm (whole.trans (arrived.append_left window))

/-- The window after batches of events have been merged into it one after the other. -/
def mergeBatches (window : List TimelineEvent) (batches : List (List TimelineEvent)) :
    List TimelineEvent :=
  run (fun window batch => mergeTimelineEvents sameObject window batch maxEvents) window batches

theorem mergeBatches_newest {batches : List (List TimelineEvent)}
    (distinct : (batches.flatten.map TimelineEvent.eventId).Nodup) :
    Library.Newest timeKey maxEvents batches.flatten
        (mergeBatches sameObject maxEvents [] batches) ∧
      (mergeBatches sameObject maxEvents [] batches).Pairwise
        fun before after => timeKey before ≤ timeKey after := by
  induction batches using List.reverseRecOn with
  | nil => exact ⟨⟨(Nat.min_zero _).symm, [], .refl _, by simp⟩, .nil⟩
  | append_singleton before batch ih =>
    rw [List.flatten_append, List.flatten_cons, List.flatten_nil, List.append_nil] at distinct ⊢
    have earlier := distinct
    rw [List.map_append] at earlier
    obtain ⟨newest, sorted⟩ := ih (List.nodup_append.mp earlier).1
    obtain ⟨size, older, parts, -⟩ := id newest
    have apart : ((mergeBatches sameObject maxEvents [] before ++ batch).map
        TimelineEvent.eventId).Nodup := by
      have whole := ((parts.append_right batch).map TimelineEvent.eventId).nodup_iff.mp distinct
      rw [List.append_assoc, List.map_append] at whole
      exact (List.nodup_append.mp whole).2.1
    obtain ⟨merged, mergedSorted⟩ := mergeTimelineEvents_fresh sameObject maxEvents sorted
      (size.trans_le (Nat.min_le_left _ _)) apart
    rw [mergeBatches, run_append]
    exact ⟨newest.merge merged, mergedSorted⟩

/-- However new events are cut into batches, the window they are merged into holds the newest of
all of them in order; and if no two have one time, every order of arrival gives one window. -/
theorem windows_hold_newest {batches : List (List TimelineEvent)}
    (distinct : (batches.flatten.map TimelineEvent.eventId).Nodup) :
    Library.Newest timeKey maxEvents batches.flatten
      (mergeBatches sameObject maxEvents [] batches) ∧
    (mergeBatches sameObject maxEvents [] batches).Pairwise
      (fun before after => timeKey before ≤ timeKey after) ∧
    ∀ others, others.flatten.Perm batches.flatten → (batches.flatten.map timeKey).Nodup →
      mergeBatches sameObject maxEvents [] others = mergeBatches sameObject maxEvents [] batches := by
  obtain ⟨newest, sorted⟩ := mergeBatches_newest sameObject maxEvents distinct
  refine ⟨newest, sorted, ?_⟩
  intro others same timed
  obtain ⟨otherNewest, otherSorted⟩ := mergeBatches_newest sameObject maxEvents
    ((same.map _).nodup_iff.mpr distinct)
  exact (newest.unique same.symm timed otherNewest sorted otherSorted).symm

end Batches

/-- A text of a session as its browser has it. -/
def windowText (id : String) (ts : Int) : TimelineEvent where
  eventId := id
  sessionId := "deck_a_brain"
  ts := ts
  seq := 1
  epoch := 1
  source := .daemon
  confidence := .high
  type := .assistantText
  payload := [("text", .str id)]
  hidden := false
  completeness := none
  timelineCompleteness := none
  detailRefs := none

/-- A cache in order keeps its newest events beside the one that arrives. -/
theorem ordered_window_keeps_newest :
    KeepsNewestEvents [windowText "first" 100, windowText "second" 200] [windowText "third" 300] 2
      (mergeTimelineEvents (fun _ _ => false) [windowText "first" 100, windowText "second" 200]
        [windowText "third" 300] 2) := by
  apply (mergeTimelineEvents_keeps_newest_iff (by decide +kernel) (by decide +kernel) 2).mpr
  have base : revisedBase [windowText "first" 100, windowText "second" 200]
      [windowText "third" 300] = [windowText "first" 100, windowText "second" 200] := by
    decide +kernel
  rw [base]
  apply keepsBehind_of_sorted
  decide +kernel

/-- In a full window the trim drops a newer event and keeps an older one that was cached behind
it. -/
theorem full_window_drops_newer :
    ([windowText "second" 200, windowText "first" 100].map TimelineEvent.eventId).Nodup ∧
    leavesUnchanged (fun _ _ => false) [windowText "second" 200, windowText "first" 100]
      [windowText "third" 300] = false ∧
    mergeTimelineEvents (fun _ _ => false) [windowText "second" 200, windowText "first" 100]
      [windowText "third" 300] 2 = [windowText "first" 100, windowText "third" 300] ∧
    ¬ KeepsNewestEvents [windowText "second" 200, windowText "first" 100]
      [windowText "third" 300] 2
      (mergeTimelineEvents (fun _ _ => false) [windowText "second" 200, windowText "first" 100]
        [windowText "third" 300] 2) := by
  have kept : mergeTimelineEvents (fun _ _ => false)
      [windowText "second" 200, windowText "first" 100] [windowText "third" 300] 2 =
      [windowText "first" 100, windowText "third" 300] := by decide +kernel
  refine ⟨by decide +kernel, by decide +kernel, kept, ?_⟩
  rw [kept]
  intro keeps
  obtain ⟨_, older, parts, apart⟩ := keeps.newest
  have listed : windowText "second" 200 ∈
      revisedEvents [windowText "second" 200, windowText "first" 100]
        [windowText "third" 300] := by decide +kernel
  rcases List.mem_append.mp (parts.mem_iff.mp listed) with dropped | window
  · have below := apart _ dropped (windowText "first" 100) (by decide +kernel)
    exact absurd below (by decide +kernel)
  · exact absurd window (by decide +kernel)

/-- Events that arrive in three pages, the newest first. -/
theorem windows_hold_newest_paged :
    Library.Newest timeKey 2 [windowText "third" 300, windowText "first" 100,
        windowText "second" 200]
      (mergeBatches (fun _ _ => false) 2 [] [[windowText "third" 300], [windowText "first" 100],
        [windowText "second" 200]]) :=
  (windows_hold_newest (fun _ _ => false) 2 (by decide)).1

end ImCodes.Timeline
