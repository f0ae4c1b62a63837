import ImCodes.Library.Gathering
import ImCodes.Timeline.Merge

/-!
# What a merge carries over

A merge of any number of revisions is the one of the highest rank, with fields of the
others. These lemmas say where a carried field can come from, and when it is sure to
arrive.
-/

set_option autoImplicit false

namespace ImCodes.Timeline

open Library

namespace TimelineEvent

def isUsage (event : TimelineEvent) : Prop := event.type = .usageUpdate

def contextRank (event : TimelineEvent) : Nat :=
  usageContextWindowSourceRank (event.payload.own? "contextWindowSource")

def hasUsableWindow (event : TimelineEvent) : Prop :=
  isUsableContextWindow (event.payload.own? "contextWindow") = true

def SharesContext (left right : TimelineEvent) : Prop :=
  canShareUsageContext left right = true

theorem SharesContext.symm {left right : TimelineEvent} (shares : SharesContext left right) :
    SharesContext right left := by
  unfold SharesContext canShareUsageContext at *
  cases leftModel : left.payload.string? "model" <;>
    cases rightModel : right.payload.string? "model" <;> simp_all

theorem SharesContext.refl (event : TimelineEvent) : SharesContext event event := by
  unfold SharesContext canShareUsageContext
  cases event.payload.string? "model" <;> simp

end TimelineEvent

open TimelineEvent

theorem Revises.type {event origin : TimelineEvent} (revises : Revises event origin) :
    event.type = origin.type := by
  have envelope := revises.envelope
  simp only [TimelineEvent.SameEnvelope, TimelineEvent.mk.injEq] at envelope
  simp [envelope]

theorem Revises.isUsage {event origin : TimelineEvent} (revises : Revises event origin) :
    event.isUsage ↔ origin.isUsage := by
  unfold TimelineEvent.isUsage
  rw [revises.type]

theorem Revises.own? {event origin : TimelineEvent} (revises : Revises event origin) {key : String}
    (free : carriedKeys.contains key = false) :
    event.payload.own? key = origin.payload.own? key :=
  revises.payload key fun listed => by simp_all

theorem Revises.completenessRank {event origin : TimelineEvent} (revises : Revises event origin) :
    getCompletenessRank event = getCompletenessRank origin := by
  have own : ∀ key, carriedKeys.contains key = false →
      event.payload.own? key = origin.payload.own? key := fun _ => revises.own?
  have envelope := revises.envelope
  simp only [TimelineEvent.SameEnvelope, TimelineEvent.mk.injEq] at envelope
  obtain ⟨_, _, _, _, _, _, _, _, _, _, completeness, timelineCompleteness, detailRefs⟩ := envelope
  unfold getCompletenessRank TimelinePayload.isTrue
  dsimp only
  rw [completeness, timelineCompleteness, detailRefs, own "completeness" rfl,
    own "timelineCompleteness" rfl, own "historyPayloadTruncated" rfl,
    own "payloadTruncated" rfl, own "timelinePayloadTruncated" rfl, own "detailRefs" rfl,
    own "detail" rfl]

theorem Revises.rank {event origin : TimelineEvent} (revises : Revises event origin) :
    revisionRank event = revisionRank origin := by
  have deleted : event.payload.own? "userDeleted" = origin.payload.own? "userDeleted" :=
    revises.own? rfl
  have streaming : event.payload.own? "streaming" = origin.payload.own? "streaming" :=
    revises.own? rfl
  have verdict : event.payload.own? "verdict" = origin.payload.own? "verdict" :=
    revises.own? rfl
  have envelope := revises.envelope
  simp only [TimelineEvent.SameEnvelope, TimelineEvent.mk.injEq] at envelope
  obtain ⟨_, _, ts, seq, epoch, source, confidence, type, _⟩ := envelope
  unfold revisionRank isUserDeletedTimelineEvent isStreaming
    isAuthoritativeDelegationAuditVerdict TimelinePayload.isTrue
  rw [revises.completenessRank, ts, seq, epoch, source, confidence, type, deleted, streaming,
    verdict]

theorem Revises.sharesContext {event origin other : TimelineEvent}
    (revises : Revises event origin) :
    SharesContext event other ↔ SharesContext origin other := by
  have model : event.payload.own? "model" = origin.payload.own? "model" := revises.own? rfl
  simp only [SharesContext, canShareUsageContext, TimelinePayload.string?, model]

theorem usageContextWindowSourceRank_pos {source : Option Json}
    (ranked : 0 < usageContextWindowSourceRank source) : ∃ value, source = some value := by
  cases source with
  | none => exact absurd ranked (lt_irrefl 0)
  | some value => exact ⟨value, rfl⟩

theorem isUsableContextWindow_some {window : Option Json}
    (usable : isUsableContextWindow window = true) : ∃ value, window = some value := by
  cases window with
  | none => cases usable
  | some value => exact ⟨value, rfl⟩

/-- The winner takes over the window of the other one. -/
structure TakesWindow (preferred alternate : TimelineEvent) : Prop where
  rank : preferred.contextRank < alternate.contextRank
  usable : alternate.hasUsableWindow
  shares : SharesContext preferred alternate

theorem own?_carryContextWindow {preferred alternate : TimelineEvent}
    (payload : TimelinePayload) {key : String} (window : key ≠ "contextWindow")
    (source : key ≠ "contextWindowSource") :
    (carryContextWindow preferred alternate payload).own? key = payload.own? key := by
  unfold carryContextWindow
  dsimp only
  split
  · split
    · simp [Ne.symm window, Ne.symm source]
    · rfl
  · rfl

theorem carryContextWindow_taken {preferred alternate : TimelineEvent}
    (payload : TimelinePayload) (takes : TakesWindow preferred alternate) :
    (carryContextWindow preferred alternate payload).own? "contextWindow" =
        alternate.payload.own? "contextWindow" ∧
      (carryContextWindow preferred alternate payload).own? "contextWindowSource" =
        alternate.payload.own? "contextWindowSource" := by
  obtain ⟨rank, usable, shares⟩ := takes
  obtain ⟨window, windowHeld⟩ := isUsableContextWindow_some usable
  obtain ⟨source, sourceHeld⟩ := usageContextWindowSourceRank_pos (Nat.zero_lt_of_lt rank)
  unfold contextRank at rank
  unfold hasUsableWindow at usable
  unfold SharesContext at shares
  unfold carryContextWindow
  dsimp only
  rw [decide_eq_true rank, usable, shares, windowHeld, sourceHeld]
  simp

theorem carryContextWindow_kept {preferred alternate : TimelineEvent}
    (payload : TimelinePayload) (keeps : ¬ TakesWindow preferred alternate) :
    carryContextWindow preferred alternate payload = payload := by
  unfold carryContextWindow
  dsimp only
  split
  · next taken =>
      simp only [Bool.and_eq_true, decide_eq_true_eq] at taken
      exact absurd ⟨taken.1.1, taken.1.2, taken.2⟩ keeps
  · rfl

/-! ## One merge -/

section Supplement

variable {preferred alternate : TimelineEvent}

theorem supplementUsageSnapshot_revises :
    Revises (supplementUsageSnapshot preferred alternate) preferred := by
  unfold supplementUsageSnapshot
  split
  · exact .refl preferred
  · refine ⟨rfl, fun key free => ?_⟩
    simp only [carriedKeys, List.mem_append, not_or, List.mem_cons, List.not_mem_nil,
      or_false] at free
    dsimp only
    rw [own?_carryContextWindow _ free.2.1 free.2.2, own?_carryFields, if_neg free.1]

theorem supplementUsageSnapshot_foreign (foreign : ¬ preferred.isUsage ∨ ¬ alternate.isUsage) :
    supplementUsageSnapshot preferred alternate = preferred :=
  if_pos foreign

theorem supplementUsageSnapshot_field {key : String} (listed : key ∈ usageSnapshotPayloadKeys)
    (usage : preferred.isUsage) (otherUsage : alternate.isUsage) :
    (supplementUsageSnapshot preferred alternate).payload.own? key =
      (preferred.payload.own? key).or (alternate.payload.own? key) := by
  have window : key ≠ "contextWindow" := by
    rintro rfl
    simp [usageSnapshotPayloadKeys] at listed
  have source : key ≠ "contextWindowSource" := by
    rintro rfl
    simp [usageSnapshotPayloadKeys] at listed
  unfold supplementUsageSnapshot
  rw [if_neg (by simp only [ne_eq, not_or, not_not]; exact ⟨usage, otherUsage⟩)]
  dsimp only
  rw [own?_carryContextWindow _ window source, own?_carryFields, if_pos listed]

def TimelineEvent.context (event : TimelineEvent) : Option Json × Option Json :=
  (event.payload.own? "contextWindow", event.payload.own? "contextWindowSource")

theorem supplementUsageSnapshot_taken (usage : preferred.isUsage) (otherUsage : alternate.isUsage)
    (takes : TakesWindow preferred alternate) :
    (supplementUsageSnapshot preferred alternate).context = alternate.context := by
  unfold supplementUsageSnapshot
  rw [if_neg (by simp only [ne_eq, not_or, not_not]; exact ⟨usage, otherUsage⟩)]
  exact Prod.ext (carryContextWindow_taken _ takes).1 (carryContextWindow_taken _ takes).2

theorem supplementUsageSnapshot_kept (keeps : ¬ TakesWindow preferred alternate) :
    (supplementUsageSnapshot preferred alternate).context = preferred.context := by
  unfold supplementUsageSnapshot
  split
  · rfl
  · unfold TimelineEvent.context
    dsimp only
    rw [carryContextWindow_kept _ keeps, own?_carryFields, own?_carryFields]
    rfl

end Supplement

theorem preferTimelineEvent_of_lt {existing incoming : TimelineEvent}
    (below : revisionRank existing < revisionRank incoming) :
    preferTimelineEvent existing incoming = supplementUsageSnapshot incoming existing := by
  unfold preferTimelineEvent
  dsimp only
  rw [choosePreferredTimelineEvent_eq, if_pos below.le, if_neg]
  rintro rfl
  exact lt_irrefl _ below

theorem preferTimelineEvent_of_gt {existing incoming : TimelineEvent}
    (above : revisionRank incoming < revisionRank existing) :
    preferTimelineEvent existing incoming = supplementUsageSnapshot existing incoming := by
  unfold preferTimelineEvent
  dsimp only
  rw [choosePreferredTimelineEvent_eq, if_neg (not_le.mpr above), if_pos rfl]

end ImCodes.Timeline
