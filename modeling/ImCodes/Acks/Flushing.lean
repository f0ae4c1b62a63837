import ImCodes.Acks.Outbox

/-!
# Flushes that other calls overtake

A flush goes over a snapshot of the entries and waits for the disk after each of them. While
it waits, commands are answered: entries are enqueued and acknowledged, and further flushes
start. An acknowledgement is lost when its entry leaves the map with nothing to account for
it, which happens where the map is written over, and where a flush takes its turn at an
entry whose command has been enqueued again.
-/

set_option autoImplicit false

namespace ImCodes.Acks

open Library AckOutbox

/-- A flush at an `await`: the entries still to come, and how many queued records have to
land before it goes on. -/
structure Suspended where
  remaining : List Nat
  awaited : Nat
deriving DecidableEq

structure FlushingOutbox where
  outbox : AckOutbox
  flushes : List Suspended

inductive FlushAction where
  | enqueue (entry : AckOutboxEntry)
  | markAcked (commandId : String)
  | flush (outcome : SendOutcome)
  | resume (index : Nat) (outcome : SendOutcome)
  | write
deriving DecidableEq

namespace FlushingOutbox

def start : FlushingOutbox := ⟨.fresh, []⟩

def awaited (before after : AckOutbox) : Nat :=
  if before.writing.length < after.writing.length then after.writing.length else 0

/-- The flush runs from one `await` to the next. -/
def advance (outbox : AckOutbox) (remaining : List Nat) (outcome : SendOutcome) :
    AckOutbox × Option Suspended :=
  match remaining with
  | [] => (outbox, none)
  | name :: later =>
    let turn := outbox.flushTurn name outcome
    (turn.1, if turn.2 then some ⟨later, awaited outbox turn.1⟩ else none)

def step (state : FlushingOutbox) : FlushAction → FlushingOutbox
  | .enqueue entry => { state with outbox := state.outbox.enqueue entry }
  | .markAcked commandId =>
    { state with outbox := (state.outbox.note (.acknowledged commandId)).markAcked commandId }
  | .flush outcome =>
    let advanced := advance state.outbox state.outbox.ordered outcome
    { outbox := advanced.1
      flushes := state.flushes ++ advanced.2.toList }
  | .resume index outcome =>
    match state.flushes[index]? with
    | some ⟨remaining, 0⟩ =>
      let advanced := advance state.outbox remaining outcome
      { outbox := advanced.1
        flushes := state.flushes.take index ++ advanced.2.toList ++
          state.flushes.drop (index + 1) }
    | _ => state
  | .write =>
    { outbox := state.outbox.write
      flushes := state.flushes.map fun flush => { flush with awaited := flush.awaited - 1 } }

end FlushingOutbox

open FlushingOutbox

/-! ## What accounts for an entry -/

/-- The entry was sent, or given up for its attempts, or its command was acknowledged after
its enqueue. -/
def AckOutbox.Settled (outbox : AckOutbox) (name : Nat) : Prop :=
  (∃ frame, .handed name frame .sent ∈ outbox.events) ∨
  .dropped name ∈ outbox.events ∨
  ∃ earlier later,
    outbox.events = earlier ++ .acknowledged (outbox.object name).commandId :: later ∧
    .enqueued name ∈ earlier

def Accounted (outbox : AckOutbox) : Prop :=
  ∀ name, name < outbox.made →
    outbox.get (outbox.object name).commandId = some name ∨ outbox.Settled name

def StaleTurn (outbox : AckOutbox) (name : Nat) (outcome : SendOutcome) : Prop :=
  (∃ other, outbox.get (outbox.object name).commandId = some other ∧ other ≠ name) ∧
  ((outbox.object name).exhausted = true ∨ outcome = .sent)

/-- The command is still in the outbox when it is enqueued again, or a suspended flush comes
to an entry that another has replaced. -/
def LosesAck (state : FlushingOutbox) : FlushAction → Prop
  | .enqueue entry => (state.outbox.get entry.commandId).isSome = true
  | .resume index outcome =>
    ∃ name later, state.flushes[index]? = some ⟨name :: later, 0⟩ ∧
      StaleTurn state.outbox name outcome
  | _ => False

/-- What an event does for an entry. -/
def AckOutbox.Settles (outbox : AckOutbox) (name : Nat) : OutboxEvent → Prop
  | .enqueued _ => False
  | .handed other _ outcome => other = name ∧ outcome = .sent
  | .dropped other => other = name
  | .acknowledged commandId =>
    commandId = (outbox.object name).commandId ∧ .enqueued name ∈ outbox.events

theorem settled_note {outbox : AckOutbox} {name : Nat} {event : OutboxEvent} :
    (outbox.note event).Settled name ↔ outbox.Settled name ∨ outbox.Settles name event := by
  constructor
  · intro settled
    rcases settled with ⟨frame, handed⟩ | dropped | ⟨earlier, later, split, queued⟩
    · rcases List.mem_append.mp handed with handed | new
      · exact .inl (.inl ⟨frame, handed⟩)
      · cases List.mem_singleton.mp new
        exact .inr ⟨rfl, rfl⟩
    · rcases List.mem_append.mp dropped with dropped | new
      · exact .inl (.inr (.inl dropped))
      · cases List.mem_singleton.mp new
        exact .inr rfl
    · rcases List.eq_nil_or_concat later with rfl | ⟨rest, last, rfl⟩
      · obtain ⟨rfl, same⟩ := List.append_inj' split rfl
        rw [(List.cons.inj same).1]
        exact .inr ⟨rfl, queued⟩
      · rw [List.concat_eq_append, ← List.cons_append, ← List.append_assoc] at split
        exact .inl (.inr (.inr ⟨earlier, rest, (List.append_inj' split rfl).1, queued⟩))
  · intro settled
    rcases settled with (⟨frame, handed⟩ | dropped | ⟨earlier, later, split, queued⟩) | settles
    · exact .inl ⟨frame, List.mem_append_left _ handed⟩
    · exact .inr (.inl (List.mem_append_left _ dropped))
    · refine .inr (.inr ⟨earlier, later ++ [event], ?_, queued⟩)
      simp only [note, split, List.append_assoc, List.cons_append]
    · cases event with
      | enqueued other => exact False.elim settles
      | handed other frame outcome =>
        obtain ⟨rfl, rfl⟩ := settles
        exact .inl ⟨frame, List.mem_append_right _ (List.mem_singleton.mpr rfl)⟩
      | dropped other =>
        cases settles
        exact .inr (.inl (List.mem_append_right _ (List.mem_singleton.mpr rfl)))
      | acknowledged commandId =>
        obtain ⟨rfl, queued⟩ := settles
        exact .inr (.inr ⟨outbox.events, [], rfl, queued⟩)

theorem settled_congr {outbox other : AckOutbox} {name : Nat} (events : outbox.events = other.events)
    (command : (outbox.object name).commandId = (other.object name).commandId) :
    outbox.Settled name ↔ other.Settled name := by
  unfold AckOutbox.Settled
  rw [events, command]

/-! ## What a step does to the entries -/

/-- What an outbox keeps of the names it gives. -/
structure Tracked (outbox : AckOutbox) : Prop where
  named : ∀ commandId name, outbox.get commandId = some name →
    name < outbox.made ∧ (outbox.object name).commandId = commandId
  queued : ∀ name, .enqueued name ∈ outbox.events ↔ name < outbox.made
  known : ∀ name, outbox.Settled name → name < outbox.made
  pending : ∀ commandId name, outbox.get commandId = some name → ¬ outbox.Settled name

/-- A step that makes no entry: it may remove one command, and it accounts for some. -/
structure Removal (before after : AckOutbox) (removes : Prop) (commandId : String)
    (settles : Nat → Prop) : Prop where
  made : after.made = before.made
  command : ∀ name, (after.object name).commandId = (before.object name).commandId
  queued : ∀ name, .enqueued name ∈ after.events ↔ .enqueued name ∈ before.events
  removed : removes → after.get commandId = none
  kept : ∀ other, (removes → other ≠ commandId) → after.get other = before.get other
  settled : ∀ name, after.Settled name ↔ before.Settled name ∨ settles name

namespace Removal

variable {before after : AckOutbox} {removes : Prop} {commandId : String} {settles : Nat → Prop}

theorem get_some (removal : Removal before after removes commandId settles)
    {other : String} {name : Nat} (found : after.get other = some name) :
    before.get other = some name ∧ (removes → other ≠ commandId) := by
  have stays : removes → other ≠ commandId := by
    intro gone same
    subst same
    rw [removal.removed gone] at found
    cases found
  exact ⟨(removal.kept other stays).symm.trans found, stays⟩

theorem tracked (removal : Removal before after removes commandId settles)
    (tracked : Tracked before) (known : ∀ name, settles name → name < before.made)
    (own : ∀ name, settles name → removes ∧ (before.object name).commandId = commandId) :
    Tracked after := by
  constructor
  · intro other name found
    rw [removal.made, removal.command]
    exact tracked.named other name (removal.get_some found).1
  · intro name
    rw [removal.queued, removal.made]
    exact tracked.queued name
  · intro name settled
    rw [removal.made]
    cases (removal.settled name).mp settled with
    | inl earlier => exact tracked.known name earlier
    | inr now => exact known name now
  · intro other name found settled
    obtain ⟨held, stays⟩ := removal.get_some found
    cases (removal.settled name).mp settled with
    | inl earlier => exact tracked.pending other name held earlier
    | inr now =>
      obtain ⟨gone, same⟩ := own name now
      exact stays gone ((tracked.named other name held).2.symm.trans same)

theorem accounted_iff (removal : Removal before after removes commandId settles)
    (tracked : Tracked before) (accounted : Accounted before) :
    Accounted after ↔
      (removes → ∀ name, before.get commandId = some name → settles name) := by
  constructor
  · intro still gone name held
    obtain ⟨made, command⟩ := tracked.named commandId name held
    cases still name (by rw [removal.made]; exact made) with
    | inl found =>
      rw [removal.command, command, removal.removed gone] at found
      cases found
    | inr settled =>
      cases (removal.settled name).mp settled with
      | inl earlier => exact False.elim (tracked.pending commandId name held earlier)
      | inr now => exact now
  · intro matched name made
    rw [removal.made] at made
    rw [removal.command]
    by_cases gone : removes ∧ (before.object name).commandId = commandId
    · cases accounted name made with
      | inl held =>
        rw [gone.2] at held
        exact .inr ((removal.settled name).mpr (.inr (matched gone.1 name held)))
      | inr settled => exact .inr ((removal.settled name).mpr (.inl settled))
    · have stays : removes → (before.object name).commandId ≠ commandId :=
        fun gone' same => gone ⟨gone', same⟩
      rw [removal.kept _ stays]
      cases accounted name made with
      | inl held => exact .inl held
      | inr settled => exact .inr ((removal.settled name).mpr (.inl settled))

theorem of_true {other : Nat → Prop} (removal : Removal before after True commandId settles)
    (gone : removes) (same : ∀ name, settles name ↔ other name) :
    Removal before after removes commandId other where
  made := removal.made
  command := removal.command
  queued := removal.queued
  removed := fun _ => removal.removed trivial
  kept := fun name stays => removal.kept name fun _ => stays gone
  settled := fun name => by rw [removal.settled, same]

theorem of_false {target : String} (removal : Removal before after False target fun _ => False)
    (stays : ¬ removes) (nothing : ∀ name, ¬ settles name) :
    Removal before after removes commandId settles where
  made := removal.made
  command := removal.command
  queued := removal.queued
  removed := fun gone => absurd gone stays
  kept := fun name _ => removal.kept name False.elim
  settled := fun name => by simp [removal.settled, nothing]

end Removal

/-! ## The steps -/

theorem write_removal (outbox : AckOutbox) :
    Removal outbox outbox.write False "" (fun _ => False) := by
  constructor
  · exact made_write outbox
  · intro name
    rw [object_write]
  · intro name
    rw [events_write]
  · exact False.elim
  · intro other _
    exact get_write outbox other
  · intro name
    rw [or_false]
    exact settled_congr (events_write outbox) (by rw [object_write])

theorem markAcked_removal {noted before : AckOutbox} {event : OutboxEvent} (commandId : String)
    (made : noted.made = before.made)
    (command : ∀ name, (noted.object name).commandId = (before.object name).commandId)
    (get : ∀ other, noted.get other = before.get other)
    (events : noted.events = before.events ++ [event]) (fresh : ∀ name, event ≠ .enqueued name) :
    Removal before (noted.markAcked commandId) True commandId
      (fun name => before.Settles name event) := by
  constructor
  · rw [made_markAcked, made]
  · intro name
    rw [object_markAcked, command]
  · intro name
    rw [events_markAcked, events, List.mem_append, List.mem_singleton]
    constructor
    · intro member
      cases member with
      | inl earlier => exact earlier
      | inr new => exact False.elim (fresh name new.symm)
    · exact Or.inl
  · intro _
    simp
  · intro other different
    rw [get_markAcked, if_neg (different trivial), get]
  · intro name
    rw [← settled_note]
    apply settled_congr
    · rw [events_markAcked, events]
      rfl
    · rw [object_markAcked, command]
      rfl

theorem acknowledge_removal (outbox : AckOutbox) (commandId : String) :
    Removal outbox ((outbox.note (.acknowledged commandId)).markAcked commandId) True commandId
      (fun name => outbox.Settles name (.acknowledged commandId)) :=
  markAcked_removal commandId rfl (fun _ => rfl) (fun _ => rfl) rfl (fun _ => OutboxEvent.noConfusion)

theorem failed_removal (outbox : AckOutbox) (name : Nat) {outcome : SendOutcome}
    (failed : outcome ≠ .sent) :
    Removal outbox ((outbox.hand name outcome).appendRecord (.entry name)) False ""
      (fun _ => False) := by
  constructor
  · rfl
  · exact fun other => commandId_hand outbox name other outcome
  · intro other
    change _ ∈ outbox.events ++ [_] ↔ _
    simp
  · exact False.elim
  · intro other _
    rfl
  · intro other
    have noted : ((outbox.hand name outcome).appendRecord (.entry name)).Settled other ↔
        (outbox.note (.handed name (outbox.object name).message outcome)).Settled other :=
      settled_congr rfl (commandId_hand outbox name other outcome)
    rw [noted, settled_note]
    simp [AckOutbox.Settles, failed]

def Clears (outbox : AckOutbox) (name : Nat) (outcome : SendOutcome) : Prop :=
  (outbox.object name).exhausted = true ∨ outcome = .sent

theorem flushTurn_removal (outbox : AckOutbox) (name : Nat) (outcome : SendOutcome) :
    Removal outbox (outbox.flushTurn name outcome).1 (Clears outbox name outcome)
      (outbox.object name).commandId
      (fun other => Clears outbox name outcome ∧ other = name) := by
  unfold flushTurn
  by_cases exhausted : (outbox.object name).exhausted = true
  · rw [if_pos exhausted]
    have clears : Clears outbox name outcome := .inl exhausted
    have dropped := @markAcked_removal (outbox.note (.dropped name)) outbox (.dropped name)
      (outbox.object name).commandId rfl (fun _ => rfl) (fun _ => rfl) rfl
      (fun _ => OutboxEvent.noConfusion)
    apply dropped.of_true clears
    intro other
    simp [AckOutbox.Settles, clears, eq_comm]
  · rw [if_neg exhausted]
    cases outcome with
    | disconnected =>
      have stays : ¬ Clears outbox name .disconnected := by simp [Clears, exhausted]
      have idle : Removal outbox outbox False "" fun _ => False :=
        ⟨rfl, fun _ => rfl, fun _ => Iff.rfl, False.elim, fun _ _ => rfl, by simp⟩
      exact idle.of_false stays fun _ settles => stays settles.1
    | sent =>
      have clears : Clears outbox name .sent := .inr rfl
      have sent := @markAcked_removal (outbox.hand name .sent) outbox
        (.handed name (outbox.object name).message .sent) (outbox.object name).commandId rfl
        (fun other => commandId_hand outbox name other .sent) (fun _ => rfl) rfl
        (fun _ => OutboxEvent.noConfusion)
      apply sent.of_true clears
      intro other
      simp [AckOutbox.Settles, clears, eq_comm]
    | refused =>
      have stays : ¬ Clears outbox name .refused := by simp [Clears, exhausted]
      have failed : SendOutcome.refused ≠ .sent := by decide
      exact (failed_removal outbox name failed).of_false stays fun _ settles => stays settles.1
    | threw =>
      have stays : ¬ Clears outbox name .threw := by simp [Clears, exhausted]
      have failed : SendOutcome.threw ≠ .sent := by decide
      exact (failed_removal outbox name failed).of_false stays fun _ settles => stays settles.1

/-! ## Enqueueing -/

theorem settled_enqueue {outbox : AckOutbox} {entry : AckOutboxEntry} {name : Nat}
    (other : name ≠ outbox.made) :
    (outbox.enqueue entry).Settled name ↔ outbox.Settled name := by
  have noted : (outbox.enqueue entry).Settled name ↔
      (outbox.note (.enqueued outbox.made)).Settled name :=
    settled_congr rfl (congrArg AckOutboxEntry.commandId (object_enqueue other))
  rw [noted, settled_note]
  simp [AckOutbox.Settles]

theorem not_settled_made {outbox : AckOutbox} (tracked : Tracked outbox) (entry : AckOutboxEntry) :
    ¬ (outbox.enqueue entry).Settled outbox.made := by
  intro settled
  have unknown : ¬ outbox.made < outbox.made := Nat.lt_irrefl _
  rcases settled with ⟨frame, handed⟩ | dropped | ⟨earlier, later, split, queued⟩
  · cases List.mem_append.mp handed with
    | inl before => exact unknown (tracked.known _ (.inl ⟨frame, before⟩))
    | inr new => simp at new
  · cases List.mem_append.mp dropped with
    | inl before => exact unknown (tracked.known _ (.inr (.inl before)))
    | inr new => simp at new
  · change outbox.events ++ [OutboxEvent.enqueued outbox.made] = _ at split
    rcases List.eq_nil_or_concat later with rfl | ⟨rest, last, rfl⟩
    · have same := (List.append_inj' split rfl).2
      cases same
    · rw [List.concat_eq_append, ← List.cons_append, ← List.append_assoc] at split
      have member : OutboxEvent.enqueued outbox.made ∈ outbox.events := by
        rw [(List.append_inj' split rfl).1]
        exact List.mem_append_left _ queued
      exact unknown ((tracked.queued _).mp member)

theorem enqueue_tracked {outbox : AckOutbox} (tracked : Tracked outbox) (entry : AckOutboxEntry) :
    Tracked (outbox.enqueue entry) := by
  have known : ∀ name, (outbox.enqueue entry).Settled name → name < outbox.made + 1 := by
    intro name settled
    by_cases new : name = outbox.made
    · rw [new]
      exact Nat.lt_succ_self _
    · exact Nat.lt_succ_of_lt (tracked.known name ((settled_enqueue new).mp settled))
  constructor
  · intro commandId name found
    rw [get_enqueue] at found
    split at found
    · next same =>
        cases found
        exact ⟨Nat.lt_succ_self _, by simpa using same⟩
    · obtain ⟨made, command⟩ := tracked.named commandId name found
      rw [object_enqueue (Nat.ne_of_lt made)]
      exact ⟨Nat.lt_succ_of_lt made, command⟩
  · intro name
    change _ ∈ outbox.events ++ [_] ↔ name < outbox.made + 1
    rw [List.mem_append, tracked.queued, Nat.lt_succ_iff_lt_or_eq]
    simp
  · exact known
  · intro commandId name found
    rw [get_enqueue] at found
    split at found
    · cases found
      exact not_settled_made tracked entry
    · rw [settled_enqueue (Nat.ne_of_lt (tracked.named commandId name found).1)]
      exact tracked.pending commandId name found

theorem enqueue_accounted_iff {outbox : AckOutbox} (tracked : Tracked outbox)
    (accounted : Accounted outbox) (entry : AckOutboxEntry) :
    Accounted (outbox.enqueue entry) ↔ outbox.get entry.commandId = none := by
  constructor
  · intro still
    cases held : outbox.get entry.commandId with
    | none => rfl
    | some name =>
      obtain ⟨made, command⟩ := tracked.named _ _ held
      have other := Nat.ne_of_lt made
      cases still name (Nat.lt_succ_of_lt made) with
      | inl found =>
        rw [object_enqueue other, command, get_enqueue, if_pos rfl] at found
        exact absurd (Option.some.inj found).symm other
      | inr settled =>
        exact absurd ((settled_enqueue other).mp settled) (tracked.pending _ _ held)
  · intro absent name made
    by_cases new : name = outbox.made
    · subst new
      rw [object_enqueue_made, get_enqueue, if_pos rfl]
      exact .inl rfl
    · rw [object_enqueue new, get_enqueue, settled_enqueue new]
      have earlier : name < outbox.made := Nat.lt_of_le_of_ne (Nat.le_of_lt_succ made) new
      cases accounted name earlier with
      | inl held =>
        have different : entry.commandId ≠ (outbox.object name).commandId := by
          intro same
          rw [← same, absent] at held
          cases held
        rw [if_neg different]
        exact .inl held
      | inr settled => exact .inr settled

/-! ## Runs -/

/-- What every state of a run keeps. -/
structure FlushInvariant (state : FlushingOutbox) : Prop where
  tracked : Tracked state.outbox
  snapshots : ∀ flush ∈ state.flushes, ∀ name ∈ flush.remaining, name < state.outbox.made

theorem flushTurn_tracked {outbox : AckOutbox} {name : Nat} (tracked : Tracked outbox)
    (made : name < outbox.made) (outcome : SendOutcome) :
    Tracked (outbox.flushTurn name outcome).1 := by
  apply (flushTurn_removal outbox name outcome).tracked tracked
  · intro other settles
    rw [settles.2]
    exact made
  · intro other settles
    rw [settles.2]
    exact ⟨settles.1, rfl⟩

theorem flushTurn_accounted_iff {outbox : AckOutbox} {name : Nat} {outcome : SendOutcome}
    (tracked : Tracked outbox) (accounted : Accounted outbox) :
    Accounted (outbox.flushTurn name outcome).1 ↔ ¬ StaleTurn outbox name outcome := by
  rw [(flushTurn_removal outbox name outcome).accounted_iff tracked accounted]
  constructor
  · intro matched stale
    obtain ⟨⟨other, held, different⟩, clears⟩ := stale
    exact different (matched clears other held).2
  · intro fresh clears other held
    refine ⟨clears, ?_⟩
    by_contra different
    exact fresh ⟨⟨other, held, different⟩, clears⟩

theorem not_stale_ordered {outbox : AckOutbox} (tracked : Tracked outbox) {name : Nat}
    (member : name ∈ outbox.ordered) (outcome : SendOutcome) :
    ¬ StaleTurn outbox name outcome := by
  obtain ⟨commandId, found⟩ := mem_ordered.mp member
  rintro ⟨⟨other, held, different⟩, -⟩
  rw [(tracked.named commandId name found).2, found] at held
  exact different (Option.some.inj held).symm

section Advance

variable {outbox : AckOutbox} {remaining : List Nat} {outcome : SendOutcome}

theorem advance_tracked (tracked : Tracked outbox)
    (made : ∀ name ∈ remaining, name < outbox.made) :
    Tracked (advance outbox remaining outcome).1 := by
  cases remaining with
  | nil => exact tracked
  | cons name later => exact flushTurn_tracked tracked (made name List.mem_cons_self) outcome

theorem advance_made : (advance outbox remaining outcome).1.made = outbox.made := by
  cases remaining with
  | nil => rfl
  | cons name later => exact (flushTurn_removal outbox name outcome).made

theorem advance_remaining (made : ∀ name ∈ remaining, name < outbox.made) :
    ∀ flush ∈ (advance outbox remaining outcome).2, ∀ name ∈ flush.remaining,
      name < outbox.made := by
  cases remaining with
  | nil =>
    intro flush impossible
    cases impossible
  | cons first later =>
    intro flush suspended name member
    simp only [advance] at suspended
    split at suspended
    · cases suspended
      exact made name (List.mem_cons_of_mem _ member)
    · cases suspended

theorem advance_accounted_iff (tracked : Tracked outbox) (accounted : Accounted outbox) :
    Accounted (advance outbox remaining outcome).1 ↔
      ¬ ∃ name later, remaining = name :: later ∧ StaleTurn outbox name outcome := by
  cases remaining with
  | nil => simpa [advance] using accounted
  | cons first later =>
    have turn := @flushTurn_accounted_iff _ first outcome tracked accounted
    simpa [advance] using turn

end Advance

theorem start_invariant : FlushInvariant start := by
  constructor
  · have empty : ∀ commandId, start.outbox.get commandId = none := fun _ => rfl
    constructor
    · simp [empty]
    · simp [start, fresh]
    · simp [start, fresh, AckOutbox.Settled]
    · simp [empty]
  · simp [start]

theorem step_invariant (state : FlushingOutbox) (action : FlushAction)
    (holds : FlushInvariant state) : FlushInvariant (step state action) := by
  obtain ⟨tracked, snapshots⟩ := holds
  cases action with
  | enqueue entry =>
    constructor
    · exact enqueue_tracked tracked entry
    · intro flush member name listed
      exact Nat.lt_succ_of_lt (snapshots flush member name listed)
  | markAcked commandId =>
    have removal := acknowledge_removal state.outbox commandId
    constructor
    · apply removal.tracked tracked
      · intro name settles
        exact (tracked.queued name).mp settles.2
      · intro name settles
        exact ⟨trivial, settles.1.symm⟩
    · intro flush member name listed
      exact removal.made ▸ snapshots flush member name listed
  | flush outcome =>
    have made : ∀ name ∈ state.outbox.ordered, name < state.outbox.made := by
      intro name member
      obtain ⟨commandId, found⟩ := mem_ordered.mp member
      exact (tracked.named commandId name found).1
    constructor
    · exact advance_tracked tracked made
    · intro flush member name listed
      change name < (advance _ _ _).1.made
      rw [advance_made]
      cases List.mem_append.mp member with
      | inl earlier => exact snapshots flush earlier name listed
      | inr new => exact advance_remaining made flush (by simpa using new) name listed
  | resume index outcome =>
    simp only [step]
    split
    · next remaining found =>
        have made := snapshots _ (List.mem_of_getElem? found)
        constructor
        · exact advance_tracked tracked made
        · intro flush member name listed
          change name < (advance _ _ _).1.made
          rw [advance_made]
          simp only [List.mem_append] at member
          rcases member with (earlier | new) | later
          · exact snapshots flush (List.mem_of_mem_take earlier) name listed
          · exact advance_remaining made flush (by simpa using new) name listed
          · exact snapshots flush (List.mem_of_mem_drop later) name listed
    · exact ⟨tracked, snapshots⟩
  | write =>
    constructor
    · exact (write_removal state.outbox).tracked tracked (fun _ => False.elim) fun _ => False.elim
    · intro flush member name listed
      change name < state.outbox.write.made
      rw [made_write]
      obtain ⟨earlier, waited, rfl⟩ := List.mem_map.mp member
      exact snapshots earlier waited name listed

theorem step_accounted_iff (state : FlushingOutbox) (action : FlushAction)
    (holds : FlushInvariant state) (accounted : Accounted state.outbox) :
    Accounted (step state action).outbox ↔ ¬ LosesAck state action := by
  obtain ⟨tracked, -⟩ := holds
  cases action with
  | enqueue entry =>
    change Accounted (state.outbox.enqueue entry) ↔ _
    rw [enqueue_accounted_iff tracked accounted entry]
    simp [LosesAck]
  | markAcked commandId =>
    have removal := acknowledge_removal state.outbox commandId
    simp only [LosesAck, not_false_eq_true, iff_true]
    apply (removal.accounted_iff tracked accounted).mpr
    intro _ name held
    obtain ⟨made, command⟩ := tracked.named commandId name held
    exact ⟨command.symm, (tracked.queued name).mpr made⟩
  | flush outcome =>
    simp only [LosesAck, not_false_eq_true, iff_true]
    apply (advance_accounted_iff tracked accounted).mpr
    rintro ⟨name, later, first, stale⟩
    have member : name ∈ state.outbox.ordered := by simp [first]
    exact not_stale_ordered tracked member outcome stale
  | resume index outcome =>
    simp only [step]
    split
    · next remaining found =>
        rw [advance_accounted_iff tracked accounted]
        simp [LosesAck, found]
    · next unready =>
        constructor
        · rintro - ⟨name, later, found, -⟩
          exact unready _ found
        · intro _
          exact accounted
  | write =>
    simp only [LosesAck, not_false_eq_true, iff_true]
    exact ((write_removal state.outbox).accounted_iff tracked accounted).mpr False.elim

/-- Whatever overtakes a flush, no acknowledgement is lost in a run exactly if no command is
enqueued over its own entry and no flush removes an entry in the place of another. -/
theorem acks_kept_while_flushing_iff (actions : List FlushAction) :
    Always step (fun state => Accounted state.outbox) start actions ↔
      Meets step (fun state action => ¬ LosesAck state action) start actions := by
  apply always_iff_meets (fun state action holds _ => step_invariant state action holds)
    step_accounted_iff start_invariant
  intro name made
  exact absurd made (Nat.not_lt_zero name)

def ackOf (commandId status : String) (ts : Int) : AckOutboxEntry :=
  { AckOutbox.blankEntry with commandId := commandId, sessionName := "s", status := status, ts := ts }

theorem reachable_invariant (actions : List FlushAction) :
    FlushInvariant (run step start actions) :=
  Reachable.invariant start_invariant step_invariant ⟨actions, rfl⟩

def overtakenFlush : List FlushAction :=
  [.enqueue (ackOf "a" "accepted" 1), .enqueue (ackOf "b" "accepted" 2), .flush .sent,
    .markAcked "b", .enqueue (ackOf "b" "error" 3), .write, .write, .write]

/-- The flush sends the second command's old status and removes the error with it. -/
theorem overtaken_flush_loses_ack :
    ¬ Always step (fun state => Accounted state.outbox) start
      (overtakenFlush ++ [.resume 0 .sent]) := by
  intro always
  have before := always overtakenFlush _ rfl
  have after := always (overtakenFlush ++ [.resume 0 .sent]) [] (List.append_nil _).symm
  rw [run_append] at after
  have loses : LosesAck (run step start overtakenFlush) (.resume 0 .sent) :=
    ⟨1, [], by decide +kernel, ⟨2, by decide +kernel, by decide⟩, .inr rfl⟩
  have kept := step_accounted_iff _ (.resume 0 .sent) (reachable_invariant overtakenFlush) before
  exact kept.mp after loses

end ImCodes.Acks
