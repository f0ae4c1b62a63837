import ImCodes.Timeline.Merging
import Mathlib.Data.Set.Finite.Lemmas
import Mathlib.Data.Set.Finite.List

/-!
# When merges agree

Merging revisions of an event in another order or grouping never changes which revision
wins. It changes what the winner carries exactly when a revision between the giver of a
field and the newest one can keep the field back, or two givers disagree.
-/

set_option autoImplicit false

namespace ImCodes.Timeline

open Library TimelineEvent Grouping

/-- Revisions of one event that differ in epoch, sequence number or time. -/
structure Revisions (collection : List TimelineEvent) : Prop where
  shared : ∀ left ∈ collection, ∀ right ∈ collection, left.eventId = right.eventId
  apart : collection.Pairwise fun left right =>
    (left.epoch, left.seq, left.ts) ≠ (right.epoch, right.seq, right.ts)

structure Newest (collection : List TimelineEvent) (newest : TimelineEvent) : Prop where
  member : newest ∈ collection
  le : ∀ event ∈ collection, revisionRank event ≤ revisionRank newest

/-- The usage snapshots agree on a field, and one that has it stands above every revision
of another type. -/
structure FieldSettled (collection : List TimelineEvent) (field : String) : Prop where
  agreed : ∀ left ∈ collection, ∀ right ∈ collection, left.isUsage → right.isUsage →
    ∀ leftValue rightValue, left.payload.own? field = some leftValue →
      right.payload.own? field = some rightValue → leftValue = rightValue
  arrives : ∀ event ∈ collection, event.isUsage → (event.payload.own? field).isSome →
    ∃ giver ∈ collection, (giver.payload.own? field).isSome ∧
      ∀ other ∈ collection, ¬ other.isUsage → revisionRank other < revisionRank giver

/-- Among the windows that can be handed to the newest revision, those with the strongest
source are equal, and one as strong cannot be kept back. -/
def ContextSettled (collection : List TimelineEvent) (newest : TimelineEvent) : Prop :=
  ∀ giver, Hands collection newest giver →
    (∀ other, Hands collection newest other → other.contextRank ≤ giver.contextRank) →
    (∀ other, Hands collection newest other → other.contextRank = giver.contextRank →
      other.payload.own? "contextWindow" = giver.payload.own? "contextWindow") ∧
    ∃ sure, Unhidden collection sure ∧ sure.contextRank = giver.contextRank

/-- What a newest usage snapshot lacks comes to it in every merge. -/
def CarriesAlike (collection : List TimelineEvent) : Prop :=
  ∀ newest, Newest collection newest → newest.isUsage →
    (∀ field ∈ usageSnapshotPayloadKeys, newest.payload.own? field = none →
      FieldSettled collection field) ∧
    ContextSettled collection newest

variable {collection items : List TimelineEvent} {newest top result : TimelineEvent}

abbrev Ranked (collection : List TimelineEvent) : Prop :=
  collection.Pairwise fun left right => revisionRank left ≠ revisionRank right

theorem Revisions.ranked (revisions : Revisions collection) : Ranked collection := by
  refine revisions.apart.imp fun {left right} apart same => apart ?_
  simp only [revisionRank, EmbeddingLike.apply_eq_iff_eq, Prod.mk.injEq] at same
  simp [same]

theorem Ranked.inj (ranked : Ranked collection) {left right : TimelineEvent}
    (leftMember : left ∈ collection) (rightMember : right ∈ collection)
    (same : revisionRank left = revisionRank right) : left = right :=
  List.inj_on_of_nodup_map (List.pairwise_map.mpr ranked) leftMember rightMember same

theorem Ranked.nodup (ranked : Ranked collection) : collection.Nodup :=
  ranked.imp fun apart same => apart (congrArg revisionRank same)

theorem exists_highest {Kind : TimelineEvent → Prop} {event : TimelineEvent}
    (member : event ∈ collection) (kind : Kind event) :
    ∃ highest ∈ collection, Kind highest ∧
      ∀ other ∈ collection, Kind other → revisionRank other ≤ revisionRank highest := by
  have finite : {other | other ∈ collection ∧ Kind other}.Finite :=
    (List.finite_toSet collection).subset fun _ held => held.1
  obtain ⟨highest, held, le⟩ := Set.exists_max_image _ revisionRank finite ⟨event, member, kind⟩
  exact ⟨highest, held.1, held.2, fun other otherMember otherKind =>
    le other ⟨otherMember, otherKind⟩⟩

theorem Newest.lt (newestOf : Newest collection newest) (ranked : Ranked collection)
    {event : TimelineEvent} (member : event ∈ collection) (other : event ≠ newest) :
    revisionRank event < revisionRank newest :=
  lt_of_le_of_ne (newestOf.le event member) fun same =>
    other (ranked.inj member newestOf.member same)

theorem Merged.perm (merged : Merged items top result) (same : items.Perm collection) :
    Merged collection top result := by
  cases merged with
  | single =>
    rw [← List.singleton_perm.mp same]
    exact .single top
  | join winner loser below parts => exact .join winner loser below (same.symm.trans parts)

theorem Merged.newest_top (merged : Merged collection top result) : Newest collection top :=
  ⟨merged.top_mem, fun _ => merged.le_top⟩

/-! ## Settled fields arrive in every merge -/

theorem FieldSettled.result_iff {field : String} (settled : FieldSettled collection field)
    (merged : Merged collection top result) (listed : field ∈ usageSnapshotPayloadKeys)
    (usage : top.isUsage) (value : Json) :
    result.payload.own? field = some value ↔
      ∃ event ∈ collection, event.isUsage ∧ event.payload.own? field = some value := by
  constructor
  · exact merged.field_origin listed usage
  · intro offered
    obtain ⟨event, member, eventUsage, held⟩ := offered
    obtain ⟨giver, giverMember, has, free⟩ :=
      settled.arrives event member eventUsage (Option.isSome_iff_exists.mpr ⟨value, held⟩)
    obtain ⟨carried, found⟩ :=
      Option.isSome_iff_exists.mp (merged.field_arrives listed giverMember has free)
    obtain ⟨origin, originMember, originUsage, originHeld⟩ :=
      merged.field_origin listed usage found
    rw [found, settled.agreed origin originMember event member originUsage eventUsage carried value
      originHeld held]

theorem contextRank_le (event : TimelineEvent) : event.contextRank ≤ 2 := by
  unfold contextRank usageContextWindowSourceRank
  split <;> decide

theorem exists_strongest {giver : TimelineEvent} (hands : Hands collection newest giver) :
    ∃ strongest, Hands collection newest strongest ∧
      ∀ other, Hands collection newest other → other.contextRank ≤ strongest.contextRank := by
  by_cases provider : ∃ other, Hands collection newest other ∧ other.contextRank = 2
  · obtain ⟨other, otherHands, atTop⟩ := provider
    exact ⟨other, otherHands, fun third _ => atTop ▸ contextRank_le third⟩
  · refine ⟨giver, hands, fun other otherHands => ?_⟩
    have notTop : other.contextRank ≠ 2 := fun atTop => provider ⟨other, otherHands, atTop⟩
    have bound := contextRank_le other
    have stronger := hands.stronger
    omega

theorem source_of_contextRank {left right : TimelineEvent}
    (same : left.contextRank = right.contextRank) (ranked : 0 < left.contextRank) :
    left.payload.own? "contextWindowSource" = right.payload.own? "contextWindowSource" := by
  unfold contextRank usageContextWindowSourceRank at same ranked
  split at same <;> split at same <;> simp_all

theorem context_of_window {left right : TimelineEvent}
    (same : left.contextRank = right.contextRank) (ranked : 0 < left.contextRank)
    (window : left.payload.own? "contextWindow" = right.payload.own? "contextWindow") :
    left.context = right.context :=
  Prod.ext window (source_of_contextRank same ranked)

theorem ContextSettled.result_context (settled : ContextSettled collection top)
    (merged : Merged collection top result) (usage : top.isUsage) {giver : TimelineEvent}
    (hands : Hands collection top giver)
    (strongest : ∀ other, Hands collection top other → other.contextRank ≤ giver.contextRank) :
    result.context = giver.context := by
  obtain ⟨agreed, sure, unhidden, asStrong⟩ := settled giver hands strongest
  obtain ⟨_, reached, _⟩ := merged.context_arrives unhidden
  rcases merged.context_origin usage with own | ⟨source, sourceHands, carried⟩
  · rw [asStrong, contextRank_of_context own] at reached
    exact absurd hands.stronger (not_lt.mpr reached)
  · rw [asStrong, contextRank_of_context carried] at reached
    have level := (strongest source sourceHands).antisymm reached
    rw [carried]
    exact context_of_window level (Nat.zero_lt_of_lt sourceHands.stronger)
      (agreed source sourceHands level)

theorem context_of_no_hands (merged : Merged collection top result) (usage : top.isUsage)
    (none : ∀ giver, ¬ Hands collection top giver) : result.context = top.context := by
  rcases merged.context_origin usage with own | ⟨giver, hands, _⟩
  · exact own
  · exact absurd hands (none giver)

theorem CarriesAlike.same_results (alike : CarriesAlike collection) {left right : TimelineEvent}
    (leftMerged : Merged collection top left) (rightMerged : Merged collection top right) :
    Same left right := by
  have revises := leftMerged.revises
  have otherRevises := rightMerged.revises
  refine ⟨revises.envelope.trans otherRevises.envelope.symm, fun key => ?_⟩
  by_cases usage : top.isUsage
  · obtain ⟨fields, contexts⟩ := alike top leftMerged.newest_top usage
    have sameContext : left.context = right.context := by
      by_cases some : ∃ giver, Hands collection top giver
      · obtain ⟨giver, hands⟩ := some
        obtain ⟨strongest, strongestHands, highest⟩ := exists_strongest hands
        rw [contexts.result_context leftMerged usage strongestHands highest,
          contexts.result_context rightMerged usage strongestHands highest]
      · rw [context_of_no_hands leftMerged usage (not_exists.mp some),
          context_of_no_hands rightMerged usage (not_exists.mp some)]
    by_cases carried : key ∈ carriedKeys
    · simp only [carriedKeys, List.mem_append, List.mem_cons, List.not_mem_nil, or_false] at carried
      rcases carried with listed | rfl | rfl
      · cases own : top.payload.own? key with
        | some value =>
          rw [leftMerged.field_kept listed own, rightMerged.field_kept listed own]
        | none =>
          have settled := fields key listed own
          refine Option.ext fun value => ?_
          rw [settled.result_iff leftMerged listed usage value,
            settled.result_iff rightMerged listed usage value]
      · exact congrArg Prod.fst sameContext
      · exact congrArg Prod.snd sameContext
    · rw [revises.payload key carried, otherRevises.payload key carried]
  · rw [leftMerged.of_foreign usage, rightMerged.of_foreign usage]

/-! ## Merges chosen to tell the revisions apart -/

/-- A grouping of some of the revisions, won by one of them. -/
structure Gathered (collection : List TimelineEvent) (grouping : Grouping TimelineEvent)
    (top : TimelineEvent) : Prop where
  nodup : grouping.items.Nodup
  included : ∀ event ∈ grouping.items, event ∈ collection
  le : ∀ event ∈ grouping.items, revisionRank event ≤ revisionRank top
  revises : Revises (grouping.result preferTimelineEvent) top

theorem Gathered.single {event : TimelineEvent} (member : event ∈ collection) :
    Gathered collection (.single event) event where
  nodup := List.nodup_singleton event
  included := by simpa [items] using member
  le := by simp [items]
  revises := .refl event

theorem Gathered.result_under {grouping : Grouping TimelineEvent} {beyond : TimelineEvent}
    (gathered : Gathered collection grouping top) (below : revisionRank top < revisionRank beyond) :
    (Grouping.join (.single beyond) grouping).result preferTimelineEvent =
      supplementUsageSnapshot beyond (grouping.result preferTimelineEvent) :=
  preferTimelineEvent_of_gt (by rwa [gathered.revises.rank])

theorem Gathered.under {grouping : Grouping TimelineEvent} {beyond : TimelineEvent}
    (gathered : Gathered collection grouping top) (member : beyond ∈ collection)
    (below : revisionRank top < revisionRank beyond) :
    Gathered collection (.join (.single beyond) grouping) beyond where
  nodup := by
    refine List.nodup_cons.mpr ⟨fun within => ?_, gathered.nodup⟩
    exact absurd (gathered.le beyond within) (not_le.mpr below)
  included := by
    intro event within
    rcases List.mem_cons.mp within with rfl | within
    · exact member
    · exact gathered.included event within
  le := by
    intro event within
    rcases List.mem_cons.mp within with rfl | within
    · exact le_rfl
    · exact (gathered.le event within).trans below.le
  revises := by
    rw [gathered.result_under below]
    exact supplementUsageSnapshot_revises

theorem foldl_preferTimelineEvent (state : TimelineEvent) (rest : List TimelineEvent)
    (below : ∀ event ∈ rest, revisionRank event < revisionRank state) :
    rest.foldl preferTimelineEvent state = rest.foldl supplementUsageSnapshot state := by
  induction rest generalizing state with
  | nil => rfl
  | cons event rest ih =>
    have first := below event (List.mem_cons_self ..)
    rw [List.foldl_cons, List.foldl_cons, preferTimelineEvent_of_gt first]
    refine ih _ fun other member => ?_
    rw [supplementUsageSnapshot_revises.rank]
    exact below other (List.mem_cons_of_mem _ member)

theorem foldl_supplement {origin : TimelineEvent} {Holds : TimelineEvent → Prop}
    (state : TimelineEvent) (rest : List TimelineEvent) (start : Holds state)
    (revises : Revises state origin)
    (kept : ∀ before, Revises before origin → Holds before → ∀ event ∈ rest,
      Holds (supplementUsageSnapshot before event)) :
    Holds (rest.foldl supplementUsageSnapshot state) ∧
      Revises (rest.foldl supplementUsageSnapshot state) origin := by
  induction rest generalizing state with
  | nil => exact ⟨start, revises⟩
  | cons event rest ih =>
    refine ih _ (kept state revises start event (List.mem_cons_self ..))
      (supplementUsageSnapshot_revises.trans revises) ?_
    exact fun before revised holds other member =>
      kept before revised holds other (List.mem_cons_of_mem _ member)

theorem Gathered.complete {grouping : Grouping TimelineEvent} (Holds : TimelineEvent → Prop)
    (gathered : Gathered collection grouping newest) (ranked : Ranked collection)
    (newestOf : Newest collection newest) (held : newest ∈ grouping.items)
    (start : Holds (grouping.result preferTimelineEvent))
    (kept : ∀ before, Revises before newest → Holds before → ∀ event ∈ collection,
      event ∉ grouping.items → Holds (supplementUsageSnapshot before event)) :
    ∃ whole : Grouping TimelineEvent, whole.items.Perm collection ∧
      Holds (whole.result preferTimelineEvent) := by
  refine ⟨grouping.extend (collection.filter (· ∉ grouping.items)), ?_, ?_⟩
  · rw [items_extend]
    refine (List.perm_ext_iff_of_nodup ?_ ranked.nodup).mpr fun event => ?_
    · refine List.Nodup.append gathered.nodup (ranked.nodup.filter _) fun event inside rest => ?_
      simp [inside] at rest
    · by_cases inside : event ∈ grouping.items
      · simp [inside, gathered.included event inside]
      · simp [inside]
  · rw [result_extend, foldl_preferTimelineEvent]
    · refine (foldl_supplement _ _ start gathered.revises fun before revises holds event rest => ?_).1
      simp only [List.mem_filter, decide_eq_true_eq] at rest
      exact kept before revises holds event rest.1 rest.2
    · intro event rest
      simp only [List.mem_filter, decide_eq_true_eq] at rest
      rw [gathered.revises.rank]
      refine newestOf.lt ranked rest.1 ?_
      rintro rfl
      exact rest.2 held

def gather (collection : List TimelineEvent) (top : TimelineEvent) : Grouping TimelineEvent :=
  (Grouping.single top).extend
    (collection.filter fun event => revisionRank event < revisionRank top)

theorem items_gather (top : TimelineEvent) :
    (gather collection top).items =
      top :: collection.filter fun event => revisionRank event < revisionRank top :=
  items_extend _ _

theorem mem_gather (ranked : Ranked collection) {event : TimelineEvent}
    (topMember : top ∈ collection) (member : event ∈ collection)
    (low : revisionRank event ≤ revisionRank top) : event ∈ (gather collection top).items := by
  rw [items_gather]
  rcases low.lt_or_eq with below | level
  · simp [member, below]
  · simp [ranked.inj member topMember level]

theorem gather_result {Holds : TimelineEvent → Prop} (start : Holds top)
    (kept : ∀ before, Revises before top → Holds before → ∀ event ∈ collection,
      revisionRank event < revisionRank top → Holds (supplementUsageSnapshot before event)) :
    Holds ((gather collection top).result preferTimelineEvent) ∧
      Revises ((gather collection top).result preferTimelineEvent) top := by
  unfold gather
  rw [result_extend, foldl_preferTimelineEvent]
  · refine foldl_supplement _ _ start (.refl top) fun before revises holds event within => ?_
    simp only [List.mem_filter, decide_eq_true_eq] at within
    exact kept before revises holds event within.1 within.2
  · intro event within
    simp only [List.mem_filter, decide_eq_true_eq] at within
    exact within.2

theorem gathered_gather (ranked : Ranked collection) (member : top ∈ collection) :
    Gathered collection (gather collection top) top where
  nodup := by
    rw [items_gather]
    refine List.nodup_cons.mpr ⟨fun within => ?_, ranked.nodup.filter _⟩
    simp at within
  included := by
    intro event within
    rw [items_gather] at within
    rcases List.mem_cons.mp within with rfl | rest
    · exact member
    · exact (List.mem_filter.mp rest).1
  le := by
    intro event within
    rw [items_gather] at within
    rcases List.mem_cons.mp within with rfl | rest
    · exact le_rfl
    · exact (of_decide_eq_true (List.mem_filter.mp rest).2).le
  revises :=
    (@gather_result collection top (fun _ => True) trivial fun _ _ _ _ _ _ => trivial).2

section Fields

variable {field : String}

theorem exists_delivering (ranked : Ranked collection) (newestOf : Newest collection newest)
    (usage : newest.isUsage) (listed : field ∈ usageSnapshotPayloadKeys)
    (lacks : newest.payload.own? field = none) {giver : TimelineEvent}
    (member : giver ∈ collection) (giverUsage : giver.isUsage) {value : Json}
    (held : giver.payload.own? field = some value) :
    ∃ whole : Grouping TimelineEvent, whole.items.Perm collection ∧
      (whole.result preferTimelineEvent).payload.own? field = some value := by
  have below : revisionRank giver < revisionRank newest := by
    refine newestOf.lt ranked member ?_
    rintro rfl
    simp [lacks] at held
  have gathered := (Gathered.single member).under newestOf.member below
  refine gathered.complete (fun state => state.payload.own? field = some value) ranked newestOf
    (List.mem_cons_self ..) ?_ ?_
  · rw [(Gathered.single member).result_under below]
    exact (supplementUsageSnapshot_field listed usage giverUsage).trans (by simp [lacks, held])
  · intro before _ carried event _ _
    by_cases both : before.isUsage ∧ event.isUsage
    · rw [supplementUsageSnapshot_field listed both.1 both.2, carried, Option.some_or]
    · rwa [supplementUsageSnapshot_foreign (not_and_or.mp both)]

theorem exists_withholding (ranked : Ranked collection) (newestOf : Newest collection newest)
    (usage : newest.isUsage) (listed : field ∈ usageSnapshotPayloadKeys)
    (lacks : newest.payload.own? field = none) {blocker : TimelineEvent}
    (member : blocker ∈ collection) (foreign : ¬ blocker.isUsage)
    (beyond : ∀ giver ∈ collection, giver.isUsage → (giver.payload.own? field).isSome →
      revisionRank giver ≤ revisionRank blocker) :
    ∃ whole : Grouping TimelineEvent, whole.items.Perm collection ∧
      (whole.result preferTimelineEvent).payload.own? field = none := by
  have below : revisionRank blocker < revisionRank newest := by
    refine newestOf.lt ranked member ?_
    rintro rfl
    exact foreign usage
  have hidden := gathered_gather ranked member
  have gathered := hidden.under newestOf.member below
  refine gathered.complete (fun state => state.payload.own? field = none) ranked newestOf
    (List.mem_cons_self ..) ?_ ?_
  · rw [hidden.result_under below,
      supplementUsageSnapshot_foreign (.inr (hidden.revises.isUsage.not.mpr foreign))]
    exact lacks
  · intro before _ lacking event eventMember outside
    by_cases both : before.isUsage ∧ event.isUsage
    · have without : event.payload.own? field = none := by
        by_contra some
        have low := beyond event eventMember both.2 (Option.isSome_iff_ne_none.mpr some)
        exact outside (List.mem_cons_of_mem _ (mem_gather ranked member eventMember low))
      rw [supplementUsageSnapshot_field listed both.1 both.2, lacking, without, Option.none_or]
    · rwa [supplementUsageSnapshot_foreign (not_and_or.mp both)]

theorem fieldSettled_of_independent (ranked : Ranked collection)
    (newestOf : Newest collection newest) (usage : newest.isUsage)
    (listed : field ∈ usageSnapshotPayloadKeys) (lacks : newest.payload.own? field = none)
    (independent : OrderIndependent preferTimelineEvent Same collection) :
    FieldSettled collection field where
  agreed := by
    intro left leftMember right rightMember leftUsage rightUsage leftValue rightValue leftHeld
      rightHeld
    obtain ⟨first, firstParts, firstResult⟩ :=
      exists_delivering ranked newestOf usage listed lacks leftMember leftUsage leftHeld
    obtain ⟨second, secondParts, secondResult⟩ :=
      exists_delivering ranked newestOf usage listed lacks rightMember rightUsage rightHeld
    have same := (independent first second firstParts secondParts).payload field
    rw [firstResult, secondResult] at same
    exact Option.some_inj.mp same
  arrives := by
    intro event member eventUsage has
    by_contra hidden
    push Not at hidden
    obtain ⟨value, held⟩ := Option.isSome_iff_exists.mp has
    obtain ⟨first, firstParts, firstResult⟩ :=
      exists_delivering ranked newestOf usage listed lacks member eventUsage held
    obtain ⟨some, someMember, someForeign, _⟩ := hidden event member has
    obtain ⟨highest, highestMember, foreign, le⟩ :=
      @exists_highest collection (fun other => ¬ other.isUsage) some someMember someForeign
    obtain ⟨second, secondParts, secondResult⟩ :=
      exists_withholding ranked newestOf usage listed lacks highestMember foreign
        fun giver giverMember _ giverHas => by
          obtain ⟨other, otherMember, otherForeign, above⟩ := hidden giver giverMember giverHas
          exact above.trans (le other otherMember otherForeign)
    have same := (independent first second firstParts secondParts).payload field
    rw [firstResult, secondResult] at same
    cases same

end Fields

section Windows

variable {giver : TimelineEvent}

theorem le_supplement (preferred alternate : TimelineEvent) :
    preferred.contextRank ≤ (supplementUsageSnapshot preferred alternate).contextRank := by
  by_cases takes : TakesWindow preferred alternate ∧ preferred.isUsage ∧ alternate.isUsage
  · obtain ⟨takes, usage, otherUsage⟩ := takes
    rw [contextRank_of_context (supplementUsageSnapshot_taken usage otherUsage takes)]
    exact takes.rank.le
  · rcases not_and_or.mp takes with keeps | foreign
    · rw [contextRank_of_context (supplementUsageSnapshot_kept keeps)]
    · rw [supplementUsageSnapshot_foreign (not_and_or.mp foreign)]

theorem supplement_lt {preferred alternate : TimelineEvent} {level : Nat}
    (below : preferred.contextRank < level)
    (weak : TakesWindow preferred alternate → alternate.isUsage → alternate.contextRank < level) :
    (supplementUsageSnapshot preferred alternate).contextRank < level := by
  by_cases takes : TakesWindow preferred alternate ∧ preferred.isUsage ∧ alternate.isUsage
  · obtain ⟨takes, usage, otherUsage⟩ := takes
    rw [contextRank_of_context (supplementUsageSnapshot_taken usage otherUsage takes)]
    exact weak takes otherUsage
  · rcases not_and_or.mp takes with keeps | foreign
    · rwa [contextRank_of_context (supplementUsageSnapshot_kept keeps)]
    · rwa [supplementUsageSnapshot_foreign (not_and_or.mp foreign)]

theorem hands_of_takes (ranked : Ranked collection) (newestOf : Newest collection newest)
    {before event : TimelineEvent} (revises : Revises before newest)
    (floor : newest.contextRank ≤ before.contextRank) (member : event ∈ collection)
    (usage : event.isUsage) (takes : TakesWindow before event) :
    Hands collection newest event := by
  have stronger := floor.trans_lt takes.rank
  refine ⟨member, usage, takes.usable, newestOf.lt ranked member ?_, stronger,
    .inl (revises.sharesContext.mp takes.shares)⟩
  rintro rfl
  exact lt_irrefl _ stronger

theorem Hands.exists_handing (hands : Hands collection newest giver) (ranked : Ranked collection)
    (newestOf : Newest collection newest) (usage : newest.isUsage)
    (strongest : ∀ other, Hands collection newest other →
      other.contextRank ≤ giver.contextRank) :
    ∃ whole : Grouping TimelineEvent, whole.items.Perm collection ∧
      (whole.result preferTimelineEvent).context = giver.context := by
  have keeps : ∀ before, Revises before newest → before.context = giver.context →
      ∀ event ∈ collection, (supplementUsageSnapshot before event).context = giver.context := by
    intro before revises carried event member
    by_cases taken : TakesWindow before event ∧ event.isUsage
    · have level := contextRank_of_context carried
      have floor := level ▸ hands.stronger.le
      have handed := hands_of_takes ranked newestOf revises floor member taken.2 taken.1
      have stronger := taken.1.rank
      rw [level] at stronger
      exact absurd (strongest event handed) (not_le.mpr stronger)
    · rcases not_and_or.mp taken with keeps | foreign
      · rwa [supplementUsageSnapshot_kept keeps]
      · rwa [supplementUsageSnapshot_foreign (.inr foreign)]
  have alone := Gathered.single hands.member
  rcases hands.route with direct | ⟨between, member, betweenUsage, beyond, under, near, far, weaker⟩
  · refine (alone.under newestOf.member hands.below).complete
      (fun state => state.context = giver.context) ranked newestOf (List.mem_cons_self ..) ?_
      fun before revises carried event member _ => keeps before revises carried event member
    rw [alone.result_under hands.below]
    exact supplementUsageSnapshot_taken usage hands.usage ⟨hands.stronger, hands.usable, direct⟩
  · have pair := alone.under member beyond
    have handed : ((Grouping.join (.single between) (.single giver)).result
        preferTimelineEvent).context = giver.context := by
      rw [alone.result_under beyond]
      exact supplementUsageSnapshot_taken betweenUsage hands.usage ⟨weaker, hands.usable, far⟩
    refine (pair.under newestOf.member under).complete
      (fun state => state.context = giver.context) ranked newestOf (List.mem_cons_self ..) ?_
      fun before revises carried event member _ => keeps before revises carried event member
    rw [pair.result_under under, supplementUsageSnapshot_taken usage
      (pair.revises.isUsage.mpr betweenUsage), handed]
    refine ⟨?_, (hasUsableWindow_of_context handed).mpr hands.usable,
      (pair.revises.sharesContext.mpr near.symm).symm⟩
    rw [contextRank_of_context handed]
    exact hands.stronger

/-- A giver of the strongest source whose window the newest revision takes directly. -/
structure Direct (collection : List TimelineEvent) (newest : TimelineEvent) (level : Nat)
    (event : TimelineEvent) : Prop where
  member : event ∈ collection
  usage : event.isUsage
  usable : event.hasUsableWindow
  rank : event.contextRank = level
  shares : SharesContext newest event

theorem Gathered.exists_starving {grouping : Grouping TimelineEvent} {level : Nat}
    (gathered : Gathered collection grouping newest) (ranked : Ranked collection)
    (newestOf : Newest collection newest) (held : newest ∈ grouping.items)
    (strongest : ∀ other, Hands collection newest other → other.contextRank ≤ level)
    (inside : ∀ event, Direct collection newest level event → event ∈ grouping.items)
    (floor : newest.contextRank ≤ (grouping.result preferTimelineEvent).contextRank)
    (start : (grouping.result preferTimelineEvent).contextRank < level) :
    ∃ whole : Grouping TimelineEvent, whole.items.Perm collection ∧
      (whole.result preferTimelineEvent).contextRank < level := by
  obtain ⟨whole, parts, _, weak⟩ := gathered.complete
    (fun state => newest.contextRank ≤ state.contextRank ∧ state.contextRank < level) ranked
    newestOf held ⟨floor, start⟩ fun before revises holds event member outside => by
      refine ⟨holds.1.trans (le_supplement before event), supplement_lt holds.2 fun takes usage => ?_⟩
      have handed := hands_of_takes ranked newestOf revises holds.1 member usage takes
      refine lt_of_le_of_ne (strongest event handed) fun level => outside (inside event ?_)
      exact ⟨member, usage, takes.usable, level, revises.sharesContext.mp takes.shares⟩
  exact ⟨whole, parts, weak⟩

theorem Gathered.exists_starving_under {grouping : Grouping TimelineEvent} {level : Nat}
    (gathered : Gathered collection grouping top) (ranked : Ranked collection)
    (newestOf : Newest collection newest) (below : revisionRank top < revisionRank newest)
    (strongest : ∀ other, Hands collection newest other → other.contextRank ≤ level)
    (weak : newest.contextRank < level)
    (inside : ∀ event, Direct collection newest level event → event ∈ grouping.items)
    (blocked : TakesWindow newest (grouping.result preferTimelineEvent) →
      (grouping.result preferTimelineEvent).isUsage →
      (grouping.result preferTimelineEvent).contextRank < level) :
    ∃ whole : Grouping TimelineEvent, whole.items.Perm collection ∧
      (whole.result preferTimelineEvent).contextRank < level := by
  refine (gathered.under newestOf.member below).exists_starving ranked newestOf
    (List.mem_cons_self ..) strongest
    (fun event direct => List.mem_cons_of_mem _ (inside event direct)) ?_ ?_
  · rw [gathered.result_under below]
    exact le_supplement newest _
  · rw [gathered.result_under below]
    exact supplement_lt weak blocked

theorem exists_starving_of_blocker (ranked : Ranked collection)
    (newestOf : Newest collection newest) {level : Nat}
    (strongest : ∀ other, Hands collection newest other → other.contextRank ≤ level)
    (weak : newest.contextRank < level) {blocker : TimelineEvent} (member : blocker ∈ collection)
    (other : blocker ≠ newest)
    (beyond : ∀ event, Direct collection newest level event →
      revisionRank event < revisionRank blocker)
    (blocks : ¬ (blocker.isUsage ∧ blocker.contextRank < level ∧ SharesContext newest blocker)) :
    ∃ whole : Grouping TimelineEvent, whole.items.Perm collection ∧
      (whole.result preferTimelineEvent).contextRank < level := by
  have below := newestOf.lt ranked member other
  have gathered := gathered_gather ranked member
  refine gathered.exists_starving_under ranked newestOf below strongest weak
    (fun event direct => mem_gather ranked member direct.member (beyond event direct).le) ?_
  intro takes usage
  have blockerUsage := gathered.revises.isUsage.mp usage
  have shares : SharesContext newest blocker :=
    (gathered.revises.sharesContext.mp takes.shares.symm).symm
  have strong : level ≤ blocker.contextRank := by
    by_contra weaker
    exact blocks ⟨blockerUsage, not_le.mp weaker, shares⟩
  -- The blocker has no usable window, or it would be a direct giver itself.
  have unusable : ¬ blocker.hasUsableWindow := by
    intro usable
    have handed : Hands collection newest blocker :=
      ⟨member, blockerUsage, usable, below, weak.trans_le strong, .inl shares⟩
    have level := (strongest blocker handed).antisymm strong
    exact lt_irrefl _ (beyond blocker ⟨member, blockerUsage, usable, level, shares⟩)
  have kept : ((gather collection blocker).result preferTimelineEvent).context =
      blocker.context := by
    refine (@gather_result collection blocker (fun state => state.context = blocker.context) rfl
      fun before revises carried event eventMember low => ?_).1
    by_cases taken : TakesWindow before event ∧ event.isUsage
    · have stronger := taken.1.rank
      rw [contextRank_of_context carried] at stronger
      have handed : Hands collection newest event :=
        ⟨eventMember, taken.2, taken.1.usable, low.trans below,
          weak.trans_le (strong.trans stronger.le), .inr ⟨blocker, member, blockerUsage, low,
            below, shares, revises.sharesContext.mp taken.1.shares, stronger⟩⟩
      exact absurd (strongest event handed) (not_le.mpr (strong.trans_lt stronger))
    · rcases not_and_or.mp taken with keeps | foreign
      · rwa [supplementUsageSnapshot_kept keeps]
      · rwa [supplementUsageSnapshot_foreign (.inr foreign)]
  exact absurd ((hasUsableWindow_of_context kept).mp takes.usable) unusable

theorem Gathered.exists_starving_over {grouping : Grouping TimelineEvent} {level : Nat}
    (gathered : Gathered collection grouping top) (ranked : Ranked collection)
    (newestOf : Newest collection newest)
    (strongest : ∀ other, Hands collection newest other → other.contextRank ≤ level)
    (weak : newest.contextRank < level)
    (inside : ∀ event, Direct collection newest level event → event ∈ grouping.items)
    {parting : TimelineEvent} (member : parting ∈ collection) (other : parting ≠ newest)
    (beyond : revisionRank top < revisionRank parting) (weaker : parting.contextRank < level)
    (apart : ¬ SharesContext parting top) :
    ∃ whole : Grouping TimelineEvent, whole.items.Perm collection ∧
      (whole.result preferTimelineEvent).contextRank < level := by
  refine (gathered.under member beyond).exists_starving_under ranked newestOf
    (newestOf.lt ranked member other) strongest weak
    (fun event direct => List.mem_cons_of_mem _ (inside event direct)) fun _ _ => ?_
  rw [gathered.result_under beyond]
  refine supplement_lt weaker fun takes _ => ?_
  exact absurd (gathered.revises.sharesContext.mp takes.shares.symm).symm apart

theorem exists_starving_of_not_unhidden (ranked : Ranked collection)
    (newestOf : Newest collection newest) (usage : newest.isUsage) {level : Nat}
    (strongest : ∀ other, Hands collection newest other → other.contextRank ≤ level)
    (weak : newest.contextRank < level)
    (hidden : ¬ ∃ sure, Unhidden collection sure ∧ sure.contextRank = level) :
    ∃ whole : Grouping TimelineEvent, whole.items.Perm collection ∧
      (whole.result preferTimelineEvent).contextRank < level := by
  by_cases some : ∃ event, Direct collection newest level event
  · obtain ⟨event, held⟩ := some
    obtain ⟨highest, member, direct, le⟩ :=
      @exists_highest collection (Direct collection newest level) event held.member held
    have beyond : ∀ {above : TimelineEvent}, revisionRank highest < revisionRank above →
        ∀ other, Direct collection newest level other →
          revisionRank other < revisionRank above :=
      fun higher other direct => (le other direct.member direct).trans_lt higher
    by_cases block : ∃ blocker ∈ collection, revisionRank highest < revisionRank blocker ∧
        ¬ (blocker.isUsage ∧ blocker.contextRank < level ∧ SharesContext newest blocker)
    · obtain ⟨blocker, blockerMember, above, blocks⟩ := block
      refine exists_starving_of_blocker ranked newestOf strongest weak blockerMember ?_
        (beyond above) blocks
      rintro rfl
      exact blocks ⟨usage, weak, .refl blocker⟩
    · -- All above the highest direct giver share the newest context; two of them part.
      push Not at block
      have parts : ∃ left ∈ collection, revisionRank highest < revisionRank left ∧
          ∃ right ∈ collection, revisionRank highest ≤ revisionRank right ∧
            ¬ SharesContext left right := by
        by_contra together
        push Not at together
        exact hidden ⟨highest, ⟨member, direct.usage, direct.usable, fun left leftMember above =>
          ⟨(block left leftMember above).1, direct.rank.symm ▸ (block left leftMember above).2.1,
            together left leftMember above⟩⟩, direct.rank⟩
      obtain ⟨left, leftMember, leftAbove, right, rightMember, rightAbove, apart⟩ := parts
      have shares : ∀ other ∈ collection, revisionRank highest ≤ revisionRank other →
          SharesContext newest other := by
        intro other otherMember above
        rcases above.lt_or_eq with higher | same
        · exact (block other otherMember higher).2.2
        · rw [← ranked.inj member otherMember same]
          exact direct.shares
      have leftOther : left ≠ newest := by
        rintro rfl
        exact apart (shares right rightMember rightAbove)
      have rightOther : right ≠ newest := by
        rintro rfl
        exact apart (shares left leftMember leftAbove.le).symm
      have gathered := gathered_gather ranked member
      have inside : ∀ other, Direct collection newest level other →
          other ∈ (gather collection highest).items := fun other otherDirect =>
        mem_gather ranked member otherDirect.member (le other otherDirect.member otherDirect)
      have leftWeak := (block left leftMember leftAbove).2.1
      rcases rightAbove.eq_or_lt with same | rightHigher
      · rw [← ranked.inj member rightMember same] at apart
        exact gathered.exists_starving_over ranked newestOf strongest weak inside leftMember
          leftOther leftAbove leftWeak apart
      · have rightWeak := (block right rightMember rightHigher).2.1
        rcases lt_trichotomy (revisionRank right) (revisionRank left) with below | same | above
        · exact (gathered.under rightMember rightHigher).exists_starving_over ranked newestOf
            strongest weak (fun other direct => List.mem_cons_of_mem _ (inside other direct))
            leftMember leftOther below leftWeak apart
        · exact absurd (ranked.inj rightMember leftMember same ▸ SharesContext.refl left) apart
        · exact (gathered.under leftMember leftAbove).exists_starving_over ranked newestOf
            strongest weak (fun other direct => List.mem_cons_of_mem _ (inside other direct))
            rightMember rightOther above rightWeak fun shared => apart shared.symm
  · exact (Gathered.single newestOf.member).exists_starving ranked newestOf
      (List.mem_singleton_self newest) strongest
      (fun event direct => absurd ⟨event, direct⟩ some) le_rfl weak

theorem contextSettled_of_independent (ranked : Ranked collection)
    (newestOf : Newest collection newest) (usage : newest.isUsage)
    (independent : OrderIndependent preferTimelineEvent Same collection) :
    ContextSettled collection newest := by
  intro giver hands strongest
  obtain ⟨first, firstParts, firstResult⟩ :=
    hands.exists_handing ranked newestOf usage strongest
  have sameContext : ∀ whole : Grouping TimelineEvent, whole.items.Perm collection →
      (whole.result preferTimelineEvent).context = giver.context := by
    intro whole parts
    have same := independent whole first parts firstParts
    rw [← firstResult]
    exact Prod.ext (same.payload "contextWindow") (same.payload "contextWindowSource")
  constructor
  · intro other otherHands level
    obtain ⟨second, secondParts, secondResult⟩ :=
      otherHands.exists_handing ranked newestOf usage fun third thirdHands =>
        level ▸ strongest third thirdHands
    exact congrArg Prod.fst (secondResult.symm.trans (sameContext second secondParts))
  · by_contra hidden
    obtain ⟨second, secondParts, weak⟩ :=
      exists_starving_of_not_unhidden ranked newestOf usage strongest hands.stronger hidden
    rw [contextRank_of_context (sameContext second secondParts)] at weak
    exact lt_irrefl _ weak

end Windows

/-- Merging revisions of one event gives the same event in every order and grouping if and
only if a newest usage snapshot is carried alike. -/
theorem merge_order_independent_iff (revisions : Revisions collection) :
    OrderIndependent preferTimelineEvent Same collection ↔ CarriesAlike collection := by
  have ranked := revisions.ranked
  constructor
  · intro independent newest newestOf usage
    exact ⟨fun field listed lacks =>
      fieldSettled_of_independent ranked newestOf usage listed lacks independent,
      contextSettled_of_independent ranked newestOf usage independent⟩
  · intro alike left right leftParts rightParts
    have merges : ∀ whole : Grouping TimelineEvent, whole.items.Perm collection →
        ∃ top, Merged collection top (whole.result preferTimelineEvent) := by
      intro whole parts
      obtain ⟨top, merged⟩ := Merged.of_grouping
        (parts.symm.pairwise ranked fun apart => Ne.symm apart)
      exact ⟨top, merged.perm parts⟩
    obtain ⟨top, leftMerged⟩ := merges left leftParts
    obtain ⟨other, rightMerged⟩ := merges right rightParts
    have same : other = top := ranked.inj rightMerged.top_mem leftMerged.top_mem
      ((leftMerged.le_top rightMerged.top_mem).antisymm
        (rightMerged.le_top leftMerged.top_mem))
    subst same
    exact alike.same_results leftMerged rightMerged

section FixedMerges

/-- A usage snapshot as a provider reports it once more for the same event. -/
private def usageRevision (seq : Int) (payload : TimelinePayload) : TimelineEvent where
  eventId := "transport-usage:deck_api_brain:7"
  sessionId := "deck_api_brain"
  ts := 1700000000000 + seq
  seq := seq
  epoch := 1700000000000
  source := .daemon
  confidence := .high
  type := .usageUpdate
  payload := payload
  hidden := false
  completeness := none
  timelineCompleteness := none
  detailRefs := none

private def firstTokens : TimelineEvent := usageRevision 1 [("inputTokens", .num 100)]

private def moreTokens : TimelineEvent := usageRevision 2 [("inputTokens", .num 250)]

private def terminalWindow : TimelineEvent :=
  usageRevision 3 [("model", .str "opus"), ("contextWindow", .num 200000)]

/-- The tokens of the first snapshot come to the last one in every merge. -/
theorem merge_order_independent_iff_texts :
    OrderIndependent preferTimelineEvent Same [firstTokens, terminalWindow] := by
  refine (merge_order_independent_iff ⟨by decide, by decide⟩).mpr fun newest _ _ => ⟨?_, ?_⟩
  · intro field listed _
    have lacks : ∀ key ∈ usageSnapshotPayloadKeys, terminalWindow.payload.own? key = none := by
      decide
    have onlyFirst : ∀ event ∈ [firstTokens, terminalWindow], ∀ value,
        event.payload.own? field = some value → event = firstTokens := by
      intro event member value held
      simp only [List.mem_cons, List.not_mem_nil, or_false] at member
      rcases member with isFirst | rfl
      · exact isFirst
      · cases (lacks field listed).symm.trans held
    constructor
    · intro left isLeft right isRight _ _ leftValue rightValue held other
      rw [onlyFirst left isLeft _ held] at held
      rw [onlyFirst right isRight _ other] at other
      exact Option.some.inj (held.symm.trans other)
    · intro event member _ has
      have allUsage : ∀ other ∈ [firstTokens, terminalWindow], other.isUsage := by
        simp [isUsage, firstTokens, terminalWindow, usageRevision]
      exact ⟨event, member, has, fun other isOther foreign => absurd (allUsage other isOther) foreign⟩
  · intro giver hands _
    have member := hands.member
    simp only [List.mem_cons, List.not_mem_nil, or_false] at member
    rcases member with rfl | rfl
    · cases hands.usable
    · exact absurd hands.stronger (Nat.not_lt_zero _)

/-- The last snapshot lacks the tokens and takes them from whichever comes to it first. -/
theorem disagreeing_tokens_merge_by_order :
    Revisions [firstTokens, moreTokens, terminalWindow] ∧
      ¬ OrderIndependent preferTimelineEvent Same [firstTokens, moreTokens, terminalWindow] := by
  refine ⟨⟨by decide, by decide⟩, fun independent => ?_⟩
  have same := (independent
    (.join (.join (.single firstTokens) (.single moreTokens)) (.single terminalWindow))
    (.join (.join (.single firstTokens) (.single terminalWindow)) (.single moreTokens))
    (.refl _) (by decide)).payload "inputTokens"
  exact absurd same (by decide)

end FixedMerges

end ImCodes.Timeline
