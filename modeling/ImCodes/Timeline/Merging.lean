import ImCodes.Timeline.Carry

/-!
# Merges of many revisions

However revisions of distinct ranks are merged, the result is the highest one with
carried fields. What it carries depends on the merge; these lemmas say within which
bounds.
-/

set_option autoImplicit false

namespace ImCodes.Timeline

open Library TimelineEvent

variable {items others whole : List TimelineEvent} {top result key : TimelineEvent}

/-- Revisions merged in some order and grouping, the highest of them, and the result. -/
inductive Merged : List TimelineEvent → TimelineEvent → TimelineEvent → Prop
  | single (event : TimelineEvent) : Merged [event] event event
  | join {items others whole : List TimelineEvent} {top result low lower : TimelineEvent}
      (winner : Merged items top result) (loser : Merged others low lower)
      (below : revisionRank low < revisionRank top) (parts : whole.Perm (items ++ others)) :
      Merged whole top (supplementUsageSnapshot result lower)

theorem Merged.revises (merged : Merged items top result) : Revises result top := by
  induction merged with
  | single event => exact .refl event
  | join _ _ _ _ ihWinner _ => exact supplementUsageSnapshot_revises.trans ihWinner

theorem Merged.top_mem (merged : Merged items top result) : top ∈ items := by
  induction merged with
  | single event => exact List.mem_singleton_self event
  | join _ _ _ parts ihWinner _ => exact parts.mem_iff.mpr (List.mem_append_left _ ihWinner)

theorem Merged.le_top (merged : Merged items top result) {event : TimelineEvent}
    (member : event ∈ items) : revisionRank event ≤ revisionRank top := by
  induction merged with
  | single held => rw [List.mem_singleton.mp member]
  | join _ _ below parts ihWinner ihLoser =>
    rcases List.mem_append.mp (parts.mem_iff.mp member) with won | lost
    · exact ihWinner won
    · exact (ihLoser lost).trans below.le

theorem Merged.of_grouping {grouping : Grouping TimelineEvent}
    (apart : grouping.items.Pairwise fun left right => revisionRank left ≠ revisionRank right) :
    ∃ top, Merged grouping.items top (grouping.result preferTimelineEvent) := by
  induction grouping with
  | single event => exact ⟨event, .single event⟩
  | join left right ihLeft ihRight =>
    obtain ⟨apartLeft, apartRight, across⟩ := List.pairwise_append.mp apart
    obtain ⟨top, mergedLeft⟩ := ihLeft apartLeft
    obtain ⟨low, mergedRight⟩ := ihRight apartRight
    have sameLeft := mergedLeft.revises.rank
    have sameRight := mergedRight.revises.rank
    dsimp only [Grouping.result, Grouping.items]
    rcases lt_or_gt_of_ne (across top mergedLeft.top_mem low mergedRight.top_mem) with
      below | above
    · rw [preferTimelineEvent_of_lt (by rwa [sameLeft, sameRight])]
      exact ⟨low, .join mergedRight mergedLeft below List.perm_append_comm⟩
    · rw [preferTimelineEvent_of_gt (by rwa [sameLeft, sameRight])]
      exact ⟨top, .join mergedLeft mergedRight above (.refl _)⟩

theorem Merged.of_foreign (merged : Merged items top result) (foreign : ¬ top.isUsage) :
    result = top := by
  induction merged with
  | single event => rfl
  | join winner _ _ _ ihWinner _ =>
    rw [supplementUsageSnapshot_foreign (.inl _), ihWinner foreign]
    rwa [winner.revises.isUsage]

/-! ## Carried fields -/

section Fields

variable {field : String} {value : Json}

theorem Merged.field_kept (merged : Merged items top result)
    (listed : field ∈ usageSnapshotPayloadKeys) (held : top.payload.own? field = some value) :
    result.payload.own? field = some value := by
  induction merged with
  | single event => exact held
  | @join _ _ _ _ result _ lower winner loser below parts ihWinner ihLoser =>
    by_cases usage : result.isUsage ∧ lower.isUsage
    · rw [supplementUsageSnapshot_field listed usage.1 usage.2, ihWinner held, Option.some_or]
    · rw [supplementUsageSnapshot_foreign (not_and_or.mp usage), ihWinner held]

theorem Merged.field_origin (merged : Merged items top result)
    (listed : field ∈ usageSnapshotPayloadKeys) (usage : top.isUsage)
    (held : result.payload.own? field = some value) :
    ∃ event ∈ items, event.isUsage ∧ event.payload.own? field = some value := by
  induction merged with
  | single event => exact ⟨event, List.mem_singleton_self event, usage, held⟩
  | @join items others whole top result low lower winner loser below parts ihWinner ihLoser =>
    by_cases lowUsage : low.isUsage
    · rw [supplementUsageSnapshot_field listed (winner.revises.isUsage.mpr usage)
        (loser.revises.isUsage.mpr lowUsage), Option.or_eq_some_iff] at held
      rcases held with own | ⟨_, carried⟩
      · obtain ⟨event, member, found⟩ := ihWinner usage own
        exact ⟨event, parts.mem_iff.mpr (List.mem_append_left _ member), found⟩
      · obtain ⟨event, member, found⟩ := ihLoser lowUsage carried
        exact ⟨event, parts.mem_iff.mpr (List.mem_append_right _ member), found⟩
    · rw [supplementUsageSnapshot_foreign
        (.inr (loser.revises.isUsage.not.mpr lowUsage))] at held
      obtain ⟨event, member, found⟩ := ihWinner usage held
      exact ⟨event, parts.mem_iff.mpr (List.mem_append_left _ member), found⟩

theorem Merged.field_arrives (merged : Merged items top result)
    (listed : field ∈ usageSnapshotPayloadKeys) {event : TimelineEvent} (member : event ∈ items)
    (held : (event.payload.own? field).isSome)
    (free : ∀ other ∈ items, ¬ other.isUsage → revisionRank other < revisionRank event) :
    (result.payload.own? field).isSome := by
  induction merged with
  | single only =>
    rw [← List.mem_singleton.mp member]
    exact held
  | @join items others whole top result low lower winner loser below parts ihWinner ihLoser =>
    have reachesTop : ∀ {other : TimelineEvent}, other ∈ whole →
        revisionRank event ≤ revisionRank other → other.isUsage := by
      intro other otherMember above
      by_contra foreign
      exact absurd (free other otherMember foreign) (not_lt.mpr above)
    have inWinner : ∀ other ∈ items, other ∈ whole := fun other kept =>
      parts.mem_iff.mpr (List.mem_append_left _ kept)
    have inLoser : ∀ other ∈ others, other ∈ whole := fun other kept =>
      parts.mem_iff.mpr (List.mem_append_right _ kept)
    rcases List.mem_append.mp (parts.mem_iff.mp member) with won | lost
    · have own := ihWinner won fun other kept => free other (inWinner other kept)
      by_cases both : result.isUsage ∧ lower.isUsage
      · rw [supplementUsageSnapshot_field listed both.1 both.2, Option.isSome_or, own]
        rfl
      · rwa [supplementUsageSnapshot_foreign (not_and_or.mp both)]
    · have carried := ihLoser lost fun other kept => free other (inLoser other kept)
      have atLow := loser.le_top lost
      have lowUsage := reachesTop (inLoser low loser.top_mem) atLow
      have topUsage := reachesTop (inWinner top winner.top_mem) (atLow.trans below.le)
      rw [supplementUsageSnapshot_field listed (winner.revises.isUsage.mpr topUsage)
        (loser.revises.isUsage.mpr lowUsage), Option.isSome_or, carried, Bool.or_true]

end Fields

/-! ## The context window -/

/-- A revision below the newest one whose window some merge hands to it, directly or
through one revision between them. -/
structure Hands (collection : List TimelineEvent) (newest giver : TimelineEvent) : Prop where
  member : giver ∈ collection
  usage : giver.isUsage
  usable : giver.hasUsableWindow
  below : revisionRank giver < revisionRank newest
  stronger : newest.contextRank < giver.contextRank
  route : SharesContext newest giver ∨ ∃ between ∈ collection, between.isUsage ∧
    revisionRank giver < revisionRank between ∧ revisionRank between < revisionRank newest ∧
    SharesContext newest between ∧ SharesContext between giver ∧
    between.contextRank < giver.contextRank

theorem Hands.mono {newest giver : TimelineEvent} (hands : Hands items newest giver)
    (included : ∀ event ∈ items, event ∈ whole) : Hands whole newest giver where
  member := included giver hands.member
  usage := hands.usage
  usable := hands.usable
  below := hands.below
  stronger := hands.stronger
  route := by
    rcases hands.route with direct | ⟨between, member, rest⟩
    · exact .inl direct
    · exact .inr ⟨between, included between member, rest⟩

theorem contextRank_of_context {left right : TimelineEvent} (same : left.context = right.context) :
    left.contextRank = right.contextRank := by
  have source : left.payload.own? "contextWindowSource" =
      right.payload.own? "contextWindowSource" := congrArg Prod.snd same
  unfold contextRank
  rw [source]

theorem hasUsableWindow_of_context {left right : TimelineEvent}
    (same : left.context = right.context) : left.hasUsableWindow ↔ right.hasUsableWindow := by
  have window : left.payload.own? "contextWindow" = right.payload.own? "contextWindow" :=
    congrArg Prod.fst same
  unfold hasUsableWindow
  rw [window]

theorem SharesContext.shorten {first second third fourth : TimelineEvent}
    (start : SharesContext first second) (middle : SharesContext second third)
    (finish : SharesContext third fourth) :
    SharesContext first third ∨ SharesContext second fourth := by
  unfold SharesContext canShareUsageContext at *
  cases firstModel : first.payload.string? "model" <;>
    cases secondModel : second.payload.string? "model" <;>
    cases thirdModel : third.payload.string? "model" <;>
    cases fourthModel : fourth.payload.string? "model" <;> simp_all

theorem Merged.context_origin (merged : Merged items top result) (usage : top.isUsage) :
    result.context = top.context ∨
      ∃ giver, Hands items top giver ∧ result.context = giver.context := by
  induction merged with
  | single event => exact .inl rfl
  | @join items others whole top result low lower winner loser below parts ihWinner ihLoser =>
    have inWinner : ∀ other ∈ items, other ∈ whole := fun other kept =>
      parts.mem_iff.mpr (List.mem_append_left _ kept)
    have inLoser : ∀ other ∈ others, other ∈ whole := fun other kept =>
      parts.mem_iff.mpr (List.mem_append_right _ kept)
    have own : result.context = top.context ∨
        ∃ giver, Hands whole top giver ∧ result.context = giver.context := by
      rcases ihWinner usage with same | ⟨giver, hands, same⟩
      · exact .inl same
      · exact .inr ⟨giver, hands.mono inWinner, same⟩
    by_cases takes : TakesWindow result lower ∧ low.isUsage
    · obtain ⟨⟨stronger, usable, shares⟩, lowUsage⟩ := takes
      have floor : top.contextRank ≤ result.contextRank := by
        rcases own with same | ⟨giver, hands, same⟩
        · rw [contextRank_of_context same]
        · rw [contextRank_of_context same]
          exact hands.stronger.le
      have shared : SharesContext top low :=
        (loser.revises.sharesContext.mp (winner.revises.sharesContext.mp shares).symm).symm
      rw [supplementUsageSnapshot_taken (winner.revises.isUsage.mpr usage)
        (loser.revises.isUsage.mpr lowUsage) ⟨stronger, usable, shares⟩]
      refine .inr ?_
      rcases ihLoser lowUsage with same | ⟨giver, hands, same⟩
      · refine ⟨low, ⟨inLoser low loser.top_mem, lowUsage, ?_, below, ?_, .inl shared⟩, same⟩
        · exact (hasUsableWindow_of_context same).mp usable
        · rw [← contextRank_of_context same]
          exact floor.trans_lt stronger
      · have outranks : top.contextRank < giver.contextRank := by
          rw [← contextRank_of_context same]
          exact floor.trans_lt stronger
        refine ⟨giver, ⟨inLoser giver hands.member, hands.usage, hands.usable,
          hands.below.trans below, outranks, .inr ?_⟩, same⟩
        rcases hands.route with direct | ⟨between, member, betweenUsage, beyond, under, near, far,
          weaker⟩
        · exact ⟨low, inLoser low loser.top_mem, lowUsage, hands.below, below, shared, direct,
            hands.stronger⟩
        · rcases SharesContext.shorten shared near far with reach | reach
          · exact ⟨between, inLoser between member, betweenUsage, beyond, under.trans below,
              reach, far, weaker⟩
          · exact ⟨low, inLoser low loser.top_mem, lowUsage, hands.below, below, shared, reach,
              hands.stronger⟩
    · rcases not_and_or.mp takes with keeps | foreign
      · rwa [supplementUsageSnapshot_kept keeps]
      · rwa [supplementUsageSnapshot_foreign
          (.inr (loser.revises.isUsage.not.mpr foreign))]

/-- A window that every merge hands upwards: above it stand only usage snapshots with a
weaker source, all of them sharing their context with each other and with it. -/
structure Unhidden (collection : List TimelineEvent) (giver : TimelineEvent) : Prop where
  member : giver ∈ collection
  usage : giver.isUsage
  usable : giver.hasUsableWindow
  above : ∀ event ∈ collection, revisionRank giver < revisionRank event →
    event.isUsage ∧ event.contextRank < giver.contextRank ∧
      ∀ other ∈ collection, revisionRank giver ≤ revisionRank other → SharesContext event other

theorem Merged.context_arrives (merged : Merged items top result) {giver : TimelineEvent}
    (unhidden : Unhidden items giver) :
    top.isUsage ∧ giver.contextRank ≤ result.contextRank ∧ result.hasUsableWindow := by
  induction merged with
  | single only =>
    obtain ⟨member, usage, usable, _⟩ := unhidden
    rw [List.mem_singleton] at member
    subst member
    exact ⟨usage, le_rfl, usable⟩
  | @join items others whole top result low lower winner loser below parts ihWinner ihLoser =>
    obtain ⟨member, usage, usable, above⟩ := unhidden
    have inWinner : ∀ other ∈ items, other ∈ whole := fun other kept =>
      parts.mem_iff.mpr (List.mem_append_left _ kept)
    have inLoser : ∀ other ∈ others, other ∈ whole := fun other kept =>
      parts.mem_iff.mpr (List.mem_append_right _ kept)
    have within : ∀ {part : List TimelineEvent}, giver ∈ part →
        (∀ other ∈ part, other ∈ whole) → Unhidden part giver := by
      intro part held included
      refine ⟨held, usage, usable, fun event kept beyond => ?_⟩
      obtain ⟨eventUsage, weaker, shares⟩ := above event (included event kept) beyond
      exact ⟨eventUsage, weaker, fun other otherKept => shares other (included other otherKept)⟩
    rcases List.mem_append.mp (parts.mem_iff.mp member) with won | lost
    · obtain ⟨topUsage, reached, windowed⟩ := ihWinner (within won inWinner)
      refine ⟨topUsage, ?_⟩
      by_cases takes : TakesWindow result lower ∧ lower.isUsage
      · have same := supplementUsageSnapshot_taken (winner.revises.isUsage.mpr topUsage)
          takes.2 takes.1
        rw [contextRank_of_context same, hasUsableWindow_of_context same]
        exact ⟨reached.trans takes.1.rank.le, takes.1.usable⟩
      · rcases not_and_or.mp takes with keeps | foreign
        · have same := supplementUsageSnapshot_kept keeps
          rw [contextRank_of_context same, hasUsableWindow_of_context same]
          exact ⟨reached, windowed⟩
        · rw [supplementUsageSnapshot_foreign (.inr foreign)]
          exact ⟨reached, windowed⟩
    · obtain ⟨lowUsage, reached, windowed⟩ := ihLoser (within lost inLoser)
      have atLow := loser.le_top lost
      obtain ⟨topUsage, weaker, shares⟩ :=
        above top (inWinner top winner.top_mem) (atLow.trans_lt below)
      have shared := shares low (inLoser low loser.top_mem) atLow
      refine ⟨topUsage, ?_⟩
      by_cases stronger : result.contextRank < lower.contextRank
      · have takes : TakesWindow result lower :=
          ⟨stronger, windowed, winner.revises.sharesContext.mpr
            (loser.revises.sharesContext.mpr shared.symm).symm⟩
        have same := supplementUsageSnapshot_taken (winner.revises.isUsage.mpr topUsage)
          (loser.revises.isUsage.mpr lowUsage) takes
        rw [contextRank_of_context same, hasUsableWindow_of_context same]
        exact ⟨reached, windowed⟩
      · have same := supplementUsageSnapshot_kept fun takes : TakesWindow result lower =>
          stronger takes.rank
        have high := reached.trans (not_lt.mp stronger)
        rw [contextRank_of_context same, hasUsableWindow_of_context same]
        refine ⟨high, ?_⟩
        rcases winner.context_origin topUsage with own | ⟨source, hands, carried⟩
        · rw [contextRank_of_context own] at high
          exact absurd weaker (not_lt.mpr high)
        · exact (hasUsableWindow_of_context carried).mpr hands.usable

end ImCodes.Timeline
