import ImCodes.Acks.Outbox
import Mathlib.Data.List.Induction

/-!
# Recovering the outbox from its file

The file is a log: the last record of a command since its last tombstone is the one a
restart should come back with. But loading skips the records that are past a limit instead
of applying them, so an earlier record of the same command can stay in force. Recovery
agrees with memory exactly where no earlier record outlives the last one.
-/

set_option autoImplicit false

namespace ImCodes.Acks

open Library AckOutbox

/-- The map that `loadFromDisk` builds. -/
abbrev LoadedEntries := Table (Nat × AckOutboxEntry) String fun row => row.2.commandId

def loadRecord (now : Int) (live : LoadedEntries) : DiskRecord → LoadedEntries
  | .entry name entry =>
    if entry.expired now then live
    else if entry.exhausted then live
    else live.upsert (name, entry)
  | .ack commandId => live.deleteWhere fun row => decide (row.2.commandId = commandId)

def loadFromDisk (now : Int) (file : List DiskRecord) : LoadedEntries :=
  file.foldl (loadRecord now) .empty

namespace AckOutbox

/-- The new process comes up with the map it has read, and writes the file anew from it. -/
def init (outbox : AckOutbox) (now : Int) : AckOutbox :=
  let existing := loadFromDisk now outbox.file
  let object := fun name =>
    ((existing.rows.find? fun row => decide (row.1 = name)).map Prod.snd).getD (outbox.object name)
  { outbox with
    object := object
    entries := {
      rows := existing.rows.map fun row => (row.2.commandId, row.1)
      unique := by
        rw [List.map_map]
        exact existing.unique }
    writing := []
    file := existing.rows.map fun row => .entry row.1 (object row.1) }

/-- After an `await` of what a call has appended, if anything. -/
def landed (before after : AckOutbox) : AckOutbox :=
  if before.writing.length < after.writing.length then after.settle else after

/-- The flush loop over the outcomes it meets, one a turn. -/
def flushTurns (outbox : AckOutbox) : List Nat → List SendOutcome → AckOutbox
  | name :: later, outcome :: outcomes =>
    let turn := outbox.flushTurn name outcome
    if turn.2 then (landed outbox turn.1).flushTurns later outcomes
    else landed outbox turn.1
  | _, _ => outbox

def flushOnReconnect (outbox : AckOutbox) (outcomes : List SendOutcome) : AckOutbox :=
  outbox.flushTurns outbox.ordered outcomes

def drop (outbox : AckOutbox) (commandId : String) : AckOutbox :=
  ((outbox.delete commandId).appendRecord (.ack commandId)).settle

def gc (outbox : AckOutbox) (now : Int) : AckOutbox :=
  let dropped := outbox.entries.rows.filter fun row =>
    (outbox.object row.2).expired now || (outbox.object row.2).exhausted
  (dropped.map Prod.fst).foldl drop outbox

/-- How often an entry has been handed to `send`. -/
def handedCount (outbox : AckOutbox) (name : Nat) : Nat :=
  outbox.events.countP fun event =>
    match event with
    | .handed other _ _ => decide (other = name)
    | _ => false

end AckOutbox

inductive OutboxAction where
  | enqueue (entry : AckOutboxEntry)
  | markAcked (commandId : String)
  | gc (now : Int)
  | flushOnReconnect (outcomes : List SendOutcome)
  | write
  | restart (now : Int)
deriving DecidableEq

/-- A restart happens once every record that was appended is on disk. -/
def outboxStep (outbox : AckOutbox) : OutboxAction → AckOutbox
  | .enqueue entry => outbox.enqueue entry
  | .markAcked commandId => outbox.markAcked commandId
  | .gc now => outbox.gc now
  | .flushOnReconnect outcomes => outbox.flushOnReconnect outcomes
  | .write => outbox.write
  | .restart now => outbox.settle.init now

def RecoversMemory (outbox : AckOutbox) : Prop :=
  ∀ now commandId,
    ((loadFromDisk now outbox.settledFile).lookup commandId).map Prod.snd =
      ((outbox.get commandId).map outbox.object).filter fun entry => entry.live now

def HandedWithinCap (outbox : AckOutbox) : Prop :=
  ∀ name, outbox.handedCount name ≤ ACK_OUTBOX_MAX_ATTEMPTS

/-! ## Records in force -/

def addRecord (commandId : String) (records : List (Nat × AckOutboxEntry)) :
    DiskRecord → List (Nat × AckOutboxEntry)
  | .entry name entry => if entry.commandId = commandId then records ++ [(name, entry)] else records
  | .ack acked => if acked = commandId then [] else records

def recordsOf (commandId : String) (file : List DiskRecord) : List (Nat × AckOutboxEntry) :=
  file.foldl (addRecord commandId) []

def Outlives (earlier later : AckOutboxEntry) : Prop :=
  earlier.exhausted = false ∧ (later.exhausted = true ∨ later.ts < earlier.ts)

theorem outlives_iff {earlier later : AckOutboxEntry} :
    Outlives earlier later ↔ ∃ now, earlier.live now = true ∧ later.live now = false := by
  simp only [Outlives, AckOutboxEntry.live, AckOutboxEntry.expired, Bool.and_eq_true,
    Bool.not_eq_true', decide_eq_false_iff_not, Bool.and_eq_false_iff, Bool.not_eq_false',
    decide_eq_true_eq]
  constructor
  · intro ⟨within, ends⟩
    refine ⟨earlier.ts + ACK_OUTBOX_TTL_MS, ⟨by omega, within⟩, ?_⟩
    cases ends with
    | inl exhausted => exact .inr exhausted
    | inr older => exact .inl (by omega)
  · intro ⟨now, ⟨young, within⟩, ends⟩
    refine ⟨within, ?_⟩
    cases ends with
    | inl old => exact .inr (by omega)
    | inr exhausted => exact .inl exhausted

@[simp] theorem recordsOf_concat (commandId : String) (file : List DiskRecord)
    (record : DiskRecord) :
    recordsOf commandId (file ++ [record]) =
      addRecord commandId (recordsOf commandId file) record := by
  simp [recordsOf]

theorem commandId_of_mem_recordsOf {commandId : String} {file : List DiskRecord}
    {row : Nat × AckOutboxEntry} (member : row ∈ recordsOf commandId file) :
    row.2.commandId = commandId := by
  induction file using List.reverseRecOn with
  | nil => cases member
  | append_singleton file record ih =>
    rw [recordsOf_concat] at member
    cases record with
    | entry name entry =>
      simp only [addRecord] at member
      split at member
      · next same =>
          cases List.mem_append.mp member with
          | inl earlier => exact ih earlier
          | inr last =>
            cases List.mem_singleton.mp last
            exact same
      · exact ih member
    | ack acked =>
      simp only [addRecord] at member
      split at member
      · cases member
      · exact ih member

theorem lookup_loadFromDisk (now : Int) (commandId : String) (file : List DiskRecord) :
    (loadFromDisk now file).lookup commandId =
      ((recordsOf commandId file).filter fun row => row.2.live now).getLast? := by
  induction file using List.reverseRecOn with
  | nil => rfl
  | append_singleton file record ih =>
    rw [recordsOf_concat]
    simp only [loadFromDisk, List.foldl_append, List.foldl_cons, List.foldl_nil] at ih ⊢
    cases record with
    | entry name entry =>
      have loaded : loadRecord now (file.foldl (loadRecord now) .empty) (.entry name entry) =
          if entry.live now then (file.foldl (loadRecord now) .empty).upsert (name, entry)
          else file.foldl (loadRecord now) .empty := by
        unfold loadRecord AckOutboxEntry.live
        by_cases old : entry.expired now = true
        · simp [old]
        · by_cases spent : entry.exhausted = true <;> simp [old, spent]
      rw [loaded]
      simp only [addRecord]
      by_cases own : entry.commandId = commandId
      · cases within : entry.live now with
        | true => simp [own, within, Table.lookup_upsert]
        | false => simp [own, within, ih]
      · cases within : entry.live now with
        | true => simp [own, Table.lookup_upsert, ih]
        | false => simp [own, ih]
    | ack acked =>
      simp only [loadRecord, addRecord, Table.lookup_deleteWhere, ih]
      cases found : ((recordsOf commandId file).filter fun row => row.2.live now).getLast? with
      | none => split <;> simp [found]
      | some row =>
        have member := (List.mem_filter.mp (List.mem_of_getLast? found)).1
        have own := commandId_of_mem_recordsOf member
        by_cases same : acked = commandId
        · simp [own, same]
        · simp [own, same, found, Ne.symm same]

/-! ## What every state keeps -/

/-- The file and the queue of writes end, for each command, in what memory holds of it. -/
structure Recorded (outbox : AckOutbox) : Prop where
  named : ∀ commandId name, outbox.get commandId = some name →
    name < outbox.made ∧ (outbox.object name).commandId = commandId
  queued : ∀ name, .entry name ∈ outbox.writing → name < outbox.made
  last : ∀ commandId name, outbox.get commandId = some name →
    (recordsOf commandId outbox.settledFile).getLast? = some (name, outbox.object name)
  absent : ∀ commandId, outbox.get commandId = none → recordsOf commandId outbox.settledFile = []
  capped : HandedWithinCap outbox
  spent : ∀ commandId name, outbox.get commandId = some name →
    outbox.handedCount name ≤ (outbox.object name).attempts
  unhanded : ∀ name, outbox.made ≤ name → outbox.handedCount name = 0

def NoneOutlives (outbox : AckOutbox) : Prop :=
  ∀ commandId name, outbox.get commandId = some name →
    ∀ row ∈ recordsOf commandId outbox.settledFile, ¬ Outlives row.2 (outbox.object name)

theorem lookup_settledFile {outbox : AckOutbox} (recorded : Recorded outbox)
    (clean : NoneOutlives outbox) (now : Int) (commandId : String) :
    (loadFromDisk now outbox.settledFile).lookup commandId =
      ((outbox.get commandId).map fun name => (name, outbox.object name)).filter
        fun row => row.2.live now := by
  rw [lookup_loadFromDisk]
  cases found : outbox.get commandId with
  | none => rw [recorded.absent commandId found]; rfl
  | some name =>
    have last := recorded.last commandId name found
    simp only [Option.map_some, Option.filter_some]
    cases within : (outbox.object name).live now with
    | true =>
      obtain ⟨earlier, split⟩ := List.getLast?_eq_some_iff.mp last
      simp [split, within]
    | false =>
      have nothing : (recordsOf commandId outbox.settledFile).filter
          (fun row => row.2.live now) = [] := by
        apply List.filter_eq_nil_iff.mpr
        intro row member live
        exact clean commandId name found row member (outlives_iff.mpr ⟨now, live, within⟩)
      simp [nothing]

theorem recovers_iff {outbox : AckOutbox} (recorded : Recorded outbox) :
    RecoversMemory outbox ↔ NoneOutlives outbox := by
  constructor
  · intro recovers commandId name found row member outlives
    obtain ⟨now, live, past⟩ := outlives_iff.mp outlives
    have read := recovers now commandId
    rw [lookup_loadFromDisk, found, Option.map_some, Option.filter_some, past] at read
    have nothing : (recordsOf commandId outbox.settledFile).filter
        (fun row => row.2.live now) = [] := by simpa using read
    exact List.filter_eq_nil_iff.mp nothing row member live
  · intro clean now commandId
    rw [lookup_settledFile recorded clean]
    cases outbox.get commandId with
    | none => rfl
    | some name =>
      simp only [Option.map_some, Option.filter_some]
      split <;> rfl

/-! ## Steps on one command -/

/-- A step leaves the entries and the records of every other command as they are. -/
structure Touches (before after : AckOutbox) (commandId : String) : Prop where
  get : ∀ other, other ≠ commandId → after.get other = before.get other
  object : ∀ name, name < before.made → (before.object name).commandId ≠ commandId →
    after.object name = before.object name
  made : before.made ≤ after.made
  records : ∀ other, other ≠ commandId →
    recordsOf other after.settledFile = recordsOf other before.settledFile
  handed : ∀ name, name < before.made → (before.object name).commandId ≠ commandId →
    after.handedCount name = before.handedCount name

/-- What `Recorded` says of the entry one command has. -/
structure EntryRecorded (outbox : AckOutbox) (commandId : String) (name : Nat) : Prop where
  made : name < outbox.made
  command : (outbox.object name).commandId = commandId
  last : (recordsOf commandId outbox.settledFile).getLast? = some (name, outbox.object name)
  spent : outbox.handedCount name ≤ (outbox.object name).attempts

namespace Touches

variable {before after : AckOutbox} {commandId : String}

theorem trans {between : AckOutbox} (first : Touches before between commandId)
    (second : Touches between after commandId) : Touches before after commandId where
  get := fun other different => (second.get other different).trans (first.get other different)
  object := fun name made different => by
    have same := first.object name made different
    rw [second.object name (Nat.lt_of_lt_of_le made first.made) (same ▸ different), same]
  made := Nat.le_trans first.made second.made
  records := fun other different =>
    (second.records other different).trans (first.records other different)
  handed := fun name made different => by
    have same := first.object name made different
    rw [second.handed name (Nat.lt_of_lt_of_le made first.made) (same ▸ different),
      first.handed name made different]

theorem recorded (touches : Touches before after commandId) (recorded : Recorded before)
    (queued : ∀ name, .entry name ∈ after.writing → name < after.made)
    (present : ∀ name, after.get commandId = some name → EntryRecorded after commandId name)
    (absent : after.get commandId = none → recordsOf commandId after.settledFile = [])
    (capped : HandedWithinCap after)
    (unhanded : ∀ name, after.made ≤ name → after.handedCount name = 0) : Recorded after := by
  have entry : ∀ other name, after.get other = some name → EntryRecorded after other name := by
    intro other name found
    by_cases same : other = commandId
    · subst same
      exact present name found
    · have held := (touches.get other same).symm.trans found
      obtain ⟨made, command⟩ := recorded.named other name held
      have different : (before.object name).commandId ≠ commandId := command.trans_ne same
      have object := touches.object name made different
      constructor
      · exact Nat.lt_of_lt_of_le made touches.made
      · rw [object, command]
      · rw [touches.records other same, object]
        exact recorded.last other name held
      · rw [touches.handed name made different, object]
        exact recorded.spent other name held
  constructor
  · exact fun other name found => ⟨(entry other name found).made, (entry other name found).command⟩
  · exact queued
  · exact fun other name found => (entry other name found).last
  · intro other missing
    by_cases same : other = commandId
    · subst same
      exact absent missing
    · rw [touches.records other same]
      exact recorded.absent other ((touches.get other same).symm.trans missing)
  · exact capped
  · exact fun other name found => (entry other name found).spent
  · exact unhanded

theorem noneOutlives_iff (touches : Touches before after commandId) (recorded : Recorded before)
    (clean : NoneOutlives before) :
    NoneOutlives after ↔ ∀ name, after.get commandId = some name →
      ∀ row ∈ recordsOf commandId after.settledFile, ¬ Outlives row.2 (after.object name) := by
  constructor
  · intro all
    exact all commandId
  · intro own other name found row member
    by_cases same : other = commandId
    · subst same
      exact own name found row member
    · have held := (touches.get other same).symm.trans found
      obtain ⟨made, command⟩ := recorded.named other name held
      rw [touches.object name made (command.trans_ne same)]
      rw [touches.records other same] at member
      exact clean other name held row member

end Touches

theorem recordsOf_append_ack (file : List DiskRecord) (commandId : String) :
    recordsOf commandId (file ++ [.ack commandId]) = [] := by
  simp [addRecord]

theorem settledFile_appendRecord (outbox : AckOutbox) (rec : QueuedRecord) :
    (outbox.appendRecord rec).settledFile = outbox.settledFile ++ [outbox.serialise rec] := by
  unfold settledFile appendRecord
  rw [List.map_append, ← List.append_assoc]
  rfl

@[simp] theorem settledFile_delete (outbox : AckOutbox) (commandId : String) :
    (outbox.delete commandId).settledFile = outbox.settledFile := rfl

@[simp] theorem settledFile_settle (outbox : AckOutbox) :
    outbox.settle.settledFile = outbox.settledFile := by
  simp [settle, settledFile]

@[simp] theorem settledFile_write (outbox : AckOutbox) :
    outbox.write.settledFile = outbox.settledFile := by
  unfold write
  split
  · rfl
  · next rec later queued =>
      unfold settledFile
      rw [queued, List.map_cons, List.append_assoc]
      rfl

@[simp] theorem handedCount_markAcked (outbox : AckOutbox) (commandId : String) (name : Nat) :
    (outbox.markAcked commandId).handedCount name = outbox.handedCount name := by
  unfold handedCount
  rw [events_markAcked]

theorem touches_appendRecord {outbox : AckOutbox} {commandId : String} {rec : QueuedRecord}
    (about : ∀ other, other ≠ commandId → ∀ records,
      addRecord other records (outbox.serialise rec) = records) :
    Touches outbox (outbox.appendRecord rec) commandId where
  get := fun _ _ => rfl
  object := fun _ _ _ => rfl
  made := Nat.le_refl _
  records := fun other different => by
    rw [settledFile_appendRecord, recordsOf_concat, about other different]
  handed := fun _ _ _ => rfl

theorem addRecord_ack_other {commandId other : String} (different : other ≠ commandId)
    (records : List (Nat × AckOutboxEntry)) :
    addRecord other records (.ack commandId) = records :=
  if_neg different.symm

theorem addRecord_entry_other {other : String} {name : Nat} {entry : AckOutboxEntry}
    (different : other ≠ entry.commandId) (records : List (Nat × AckOutboxEntry)) :
    addRecord other records (.entry name entry) = records :=
  if_neg different.symm

theorem touches_delete (outbox : AckOutbox) (commandId : String) :
    Touches outbox (outbox.delete commandId) commandId where
  get := fun other different => by rw [get_delete, if_neg different]
  object := fun _ _ _ => rfl
  made := Nat.le_refl _
  records := fun _ _ => rfl
  handed := fun _ _ _ => rfl

theorem touches_refl (outbox : AckOutbox) (commandId : String) :
    Touches outbox outbox commandId :=
  ⟨fun _ _ => rfl, fun _ _ _ => rfl, Nat.le_refl _, fun _ _ => rfl, fun _ _ _ => rfl⟩

theorem touches_deleted (outbox : AckOutbox) (commandId : String) :
    Touches outbox ((outbox.delete commandId).appendRecord (.ack commandId)) commandId :=
  (touches_delete outbox commandId).trans
    (touches_appendRecord fun _ different => addRecord_ack_other different)

theorem touches_markAcked (outbox : AckOutbox) (commandId : String) :
    Touches outbox (outbox.markAcked commandId) commandId := by
  unfold markAcked
  split
  · exact touches_refl outbox commandId
  · exact touches_deleted outbox commandId

theorem addRecord_serialise_hand {outbox : AckOutbox} {name : Nat} {other : String}
    (different : other ≠ (outbox.object name).commandId) (outcome : SendOutcome)
    (records : List (Nat × AckOutboxEntry)) (rec : QueuedRecord) :
    addRecord other records ((outbox.hand name outcome).serialise rec) =
      addRecord other records (outbox.serialise rec) := by
  cases rec with
  | ack commandId => rfl
  | entry queued =>
    by_cases same : queued = name
    · subst same
      rw [serialise, serialise, addRecord_entry_other different, addRecord_entry_other]
      rw [commandId_hand]
      exact different
    · have unchanged : (outbox.hand name outcome).object queued = outbox.object queued :=
        Function.update_of_ne same _ _
      rw [serialise, serialise, unchanged]

theorem handedCount_note (outbox : AckOutbox) (event : OutboxEvent) (name : Nat) :
    (outbox.note event).handedCount name = outbox.handedCount name +
      match event with
      | .handed other _ _ => if other = name then 1 else 0
      | _ => 0 := by
  simp only [handedCount, note, List.countP_append, List.countP_singleton]
  cases event <;> simp

theorem handedCount_hand (outbox : AckOutbox) (name other : Nat) (outcome : SendOutcome) :
    (outbox.hand name outcome).handedCount other =
      outbox.handedCount other + if name = other then 1 else 0 :=
  handedCount_note outbox (.handed name (outbox.object name).message outcome) other

theorem touches_hand (outbox : AckOutbox) (name : Nat) (outcome : SendOutcome) :
    Touches outbox (outbox.hand name outcome) (outbox.object name).commandId where
  get := fun _ _ => rfl
  object := fun other _ different =>
    Function.update_of_ne (fun same => different (by rw [same])) _ _
  made := Nat.le_refl _
  records := fun other different => by
    unfold recordsOf settledFile
    rw [List.foldl_append, List.foldl_append, List.foldl_map, List.foldl_map]
    apply List.foldl_ext
    intro records rec _
    exact addRecord_serialise_hand different outcome records rec
  handed := fun other _ different => by
    rw [handedCount_hand, if_neg, Nat.add_zero]
    intro same
    exact different (by rw [same])

/-! ## What each step keeps -/

section Same

variable {before after : AckOutbox}
  (get : ∀ commandId, after.get commandId = before.get commandId)
  (object : after.object = before.object)
  (settled : after.settledFile = before.settledFile)

include get object settled in
theorem Recorded.of_same (recorded : Recorded before) (made : after.made = before.made)
    (queued : ∀ name, .entry name ∈ after.writing → .entry name ∈ before.writing)
    (handed : ∀ name, after.handedCount name = before.handedCount name) : Recorded after := by
  constructor
  · simpa [get, object, made] using recorded.named
  · intro name member
    rw [made]
    exact recorded.queued name (queued name member)
  · simpa [get, object, settled] using recorded.last
  · simpa [get, settled] using recorded.absent
  · simpa [HandedWithinCap, handed] using recorded.capped
  · simpa [get, object, handed] using recorded.spent
  · simpa [made, handed] using recorded.unhanded

include get object settled in
theorem noneOutlives_of_same : NoneOutlives after ↔ NoneOutlives before := by
  unfold NoneOutlives
  simp only [get, object, settled]

end Same

theorem Recorded.settle {outbox : AckOutbox} (recorded : Recorded outbox) :
    Recorded outbox.settle := by
  apply @Recorded.of_same outbox outbox.settle (fun _ => rfl) rfl (settledFile_settle outbox)
    recorded rfl
  · intro name impossible
    cases impossible
  · exact fun _ => rfl

theorem noneOutlives_settle {outbox : AckOutbox} :
    NoneOutlives outbox.settle ↔ NoneOutlives outbox :=
  noneOutlives_of_same (fun _ => rfl) rfl (settledFile_settle outbox)

theorem Recorded.write {outbox : AckOutbox} (recorded : Recorded outbox) :
    Recorded outbox.write := by
  apply recorded.of_same (get_write outbox) (object_write outbox) (settledFile_write outbox)
    (made_write outbox)
  · intro name member
    unfold AckOutbox.write at member
    split at member
    · exact member
    · next queued =>
        rw [queued]
        exact List.mem_cons_of_mem _ member
  · intro name
    unfold handedCount
    rw [events_write]

theorem noneOutlives_write {outbox : AckOutbox} :
    NoneOutlives outbox.write ↔ NoneOutlives outbox :=
  noneOutlives_of_same (get_write outbox) (object_write outbox) (settledFile_write outbox)

theorem Recorded.gone {before after : AckOutbox} {commandId : String} (recorded : Recorded before)
    (touches : Touches before after commandId) (get : after.get commandId = none)
    (records : recordsOf commandId after.settledFile = [])
    (queued : ∀ name, .entry name ∈ after.writing → .entry name ∈ before.writing)
    (capped : HandedWithinCap after)
    (unhanded : ∀ name, after.made ≤ name → after.handedCount name = 0) : Recorded after := by
  apply touches.recorded recorded _ _ (fun _ => records) capped unhanded
  · intro name member
    exact Nat.lt_of_lt_of_le (recorded.queued name (queued name member)) touches.made
  · intro name found
    rw [get] at found
    cases found

theorem noneOutlives_gone {before after : AckOutbox} {commandId : String}
    (recorded : Recorded before) (clean : NoneOutlives before)
    (touches : Touches before after commandId) (get : after.get commandId = none) :
    NoneOutlives after := by
  apply (touches.noneOutlives_iff recorded clean).mpr
  intro name found
  rw [get] at found
  cases found

theorem mem_writing_deleted {outbox : AckOutbox} {commandId : String} {name : Nat}
    (member : .entry name ∈ ((outbox.delete commandId).appendRecord (.ack commandId)).writing) :
    .entry name ∈ outbox.writing := by
  cases List.mem_append.mp member with
  | inl earlier => exact earlier
  | inr last => simp at last

theorem Recorded.deleted {outbox : AckOutbox} (recorded : Recorded outbox) (commandId : String) :
    Recorded ((outbox.delete commandId).appendRecord (.ack commandId)) := by
  apply recorded.gone (touches_deleted outbox commandId)
  · simp
  · rw [settledFile_appendRecord]
    exact recordsOf_append_ack _ commandId
  · intro name
    exact mem_writing_deleted
  · exact recorded.capped
  · exact recorded.unhanded

theorem noneOutlives_deleted {outbox : AckOutbox} (recorded : Recorded outbox)
    (clean : NoneOutlives outbox) (commandId : String) :
    NoneOutlives ((outbox.delete commandId).appendRecord (.ack commandId)) :=
  noneOutlives_gone recorded clean (touches_deleted outbox commandId) (by simp)

theorem Recorded.markAcked {outbox : AckOutbox} (recorded : Recorded outbox) (commandId : String) :
    Recorded (outbox.markAcked commandId) := by
  unfold AckOutbox.markAcked
  split
  · exact recorded
  · exact recorded.deleted commandId

theorem noneOutlives_markAcked {outbox : AckOutbox} (recorded : Recorded outbox)
    (clean : NoneOutlives outbox) (commandId : String) :
    NoneOutlives (outbox.markAcked commandId) := by
  unfold AckOutbox.markAcked
  split
  · exact clean
  · exact noneOutlives_deleted recorded clean commandId

theorem drops_keep {outbox : AckOutbox} (recorded : Recorded outbox) (clean : NoneOutlives outbox)
    (dropped : List String) :
    Recorded (dropped.foldl drop outbox) ∧ NoneOutlives (dropped.foldl drop outbox) := by
  induction dropped generalizing outbox with
  | nil => exact ⟨recorded, clean⟩
  | cons commandId rest ih =>
    apply ih
    · exact (recorded.deleted commandId).settle
    · exact noneOutlives_settle.mpr (noneOutlives_deleted recorded clean commandId)

/-! ## Enqueueing -/

theorem settledFile_enqueue {outbox : AckOutbox} (recorded : Recorded outbox)
    (entry : AckOutboxEntry) :
    (outbox.enqueue entry).settledFile = outbox.settledFile ++ [.entry outbox.made entry] := by
  unfold enqueue
  rw [settledFile_appendRecord]
  congr 1
  · unfold settledFile
    congr 1
    apply List.map_congr_left
    intro rec member
    cases rec with
    | ack commandId => rfl
    | entry name =>
      have earlier := recorded.queued name member
      simp [serialise, note, Function.update_of_ne (Nat.ne_of_lt earlier)]
  · simp [serialise, note]

theorem handedCount_enqueue (outbox : AckOutbox) (entry : AckOutboxEntry) (name : Nat) :
    (outbox.enqueue entry).handedCount name = outbox.handedCount name :=
  handedCount_note outbox (.enqueued outbox.made) name

theorem touches_enqueue {outbox : AckOutbox} (recorded : Recorded outbox)
    (entry : AckOutboxEntry) : Touches outbox (outbox.enqueue entry) entry.commandId where
  get := fun other different => by rw [get_enqueue, if_neg different.symm]
  object := fun name made _ => object_enqueue (Nat.ne_of_lt made)
  made := Nat.le_succ _
  records := fun other different => by
    rw [settledFile_enqueue recorded, recordsOf_concat, addRecord_entry_other different]
  handed := fun name _ _ => handedCount_enqueue outbox entry name

theorem recordsOf_enqueue {outbox : AckOutbox} (recorded : Recorded outbox)
    (entry : AckOutboxEntry) :
    recordsOf entry.commandId (outbox.enqueue entry).settledFile =
      recordsOf entry.commandId outbox.settledFile ++ [(outbox.made, entry)] := by
  rw [settledFile_enqueue recorded, recordsOf_concat]
  simp [addRecord]

theorem Recorded.enqueue {outbox : AckOutbox} (recorded : Recorded outbox)
    (entry : AckOutboxEntry) : Recorded (outbox.enqueue entry) := by
  have got : (outbox.enqueue entry).get entry.commandId = some outbox.made := by simp
  apply (touches_enqueue recorded entry).recorded recorded
  · intro name member
    cases List.mem_append.mp member with
    | inl earlier => exact Nat.lt_succ_of_lt (recorded.queued name earlier)
    | inr last =>
      cases List.mem_singleton.mp last
      exact Nat.lt_succ_self _
  · intro name found
    cases got.symm.trans found
    constructor
    · exact Nat.lt_succ_self _
    · rw [object_enqueue_made]
    · rw [recordsOf_enqueue recorded, object_enqueue_made, List.getLast?_concat]
    · rw [handedCount_enqueue, recorded.unhanded outbox.made (Nat.le_refl _)]
      exact Nat.zero_le _
  · intro missing
    cases got.symm.trans missing
  · intro name
    rw [handedCount_enqueue]
    exact recorded.capped name
  · intro name unmade
    rw [handedCount_enqueue]
    exact recorded.unhanded name (Nat.le_of_succ_le unmade)

theorem not_outlives_self (entry : AckOutboxEntry) : ¬ Outlives entry entry := by
  simp [Outlives]

theorem noneOutlives_enqueue_iff {outbox : AckOutbox} (recorded : Recorded outbox)
    (clean : NoneOutlives outbox) (entry : AckOutboxEntry) :
    NoneOutlives (outbox.enqueue entry) ↔
      ∀ row ∈ recordsOf entry.commandId outbox.settledFile, ¬ Outlives row.2 entry := by
  rw [(touches_enqueue recorded entry).noneOutlives_iff recorded clean, recordsOf_enqueue recorded]
  simp [not_outlives_self, or_imp, forall_and]

/-! ## Flushing -/

def Aged (earlier later : Nat × AckOutboxEntry) : Prop :=
  later.2.ts = earlier.2.ts ∧ earlier.2.attempts ≤ later.2.attempts

theorem aged_of_mem {records later : List (Nat × AckOutboxEntry)}
    (aged : List.Forall₂ Aged records later) {row : Nat × AckOutboxEntry} (member : row ∈ later) :
    ∃ earlier ∈ records, Aged earlier row := by
  induction aged with
  | nil => cases member
  | cons first _ ih =>
    cases List.mem_cons.mp member with
    | inl same => exact ⟨_, List.mem_cons_self, same ▸ first⟩
    | inr rest =>
      obtain ⟨earlier, listed, aged⟩ := ih rest
      exact ⟨earlier, List.mem_cons_of_mem _ listed, aged⟩

theorem addRecord_aged {outbox : AckOutbox} {name : Nat} {commandId : String}
    (outcome : SendOutcome) {records later : List (Nat × AckOutboxEntry)}
    (aged : List.Forall₂ Aged records later) (rec : QueuedRecord) :
    List.Forall₂ Aged (addRecord commandId records (outbox.serialise rec))
      (addRecord commandId later ((outbox.hand name outcome).serialise rec)) := by
  cases rec with
  | ack acked =>
    simp only [serialise, addRecord]
    split
    · exact .nil
    · exact aged
  | entry queued =>
    simp only [serialise, addRecord, commandId_hand]
    split
    · apply List.rel_append aged
      apply List.Forall₂.cons _ .nil
      simp only [Aged, hand, note, Function.update_apply]
      split
      · next same => simp [same]
      · simp
    · exact aged

theorem recordsOf_hand_aged (outbox : AckOutbox) (name : Nat) (outcome : SendOutcome)
    (commandId : String) :
    List.Forall₂ Aged (recordsOf commandId outbox.settledFile)
      (recordsOf commandId (outbox.hand name outcome).settledFile) := by
  have queue : ∀ (writing : List QueuedRecord) (records later : List (Nat × AckOutboxEntry)),
      List.Forall₂ Aged records later →
      List.Forall₂ Aged
        (writing.foldl (fun found rec => addRecord commandId found (outbox.serialise rec)) records)
        (writing.foldl (fun found rec =>
          addRecord commandId found ((outbox.hand name outcome).serialise rec)) later) := by
    intro writing
    induction writing with
    | nil => exact fun _ _ aged => aged
    | cons rec rest ih => exact fun _ _ aged => ih _ _ (addRecord_aged outcome aged rec)
  unfold recordsOf settledFile
  rw [List.foldl_append, List.foldl_append, List.foldl_map, List.foldl_map]
  apply queue
  exact List.forall₂_same.mpr fun _ _ => ⟨rfl, Nat.le_refl _⟩

/-- A failed send uses up the attempts of an entry while a record of its command is in force,
as it will be written, that still has some left. -/
def OutlivedByRecord (outbox : AckOutbox) (name : Nat) (outcome : SendOutcome) : Prop :=
  (outbox.object name).exhausted = false ∧ (outcome = .refused ∨ outcome = .threw) ∧
  (outbox.object name).tried.exhausted = true ∧
  ∃ row ∈ recordsOf (outbox.object name).commandId (outbox.hand name outcome).settledFile,
    row.2.exhausted = false

/-- Where a turn of the flush goes wrong so. -/
def FlushOutlived : AckOutbox → List Nat → List SendOutcome → Prop
  | outbox, name :: later, outcome :: outcomes =>
    OutlivedByRecord outbox name outcome ∨
    (outbox.flushTurn name outcome).2 = true ∧
      FlushOutlived (landed outbox (outbox.flushTurn name outcome).1) later outcomes
  | _, _, _ => False

section Turn

variable {outbox : AckOutbox} {name : Nat}

theorem recordsOf_failed (outcome : SendOutcome) :
    recordsOf (outbox.object name).commandId
        ((outbox.hand name outcome).appendRecord (.entry name)).settledFile =
      recordsOf (outbox.object name).commandId (outbox.hand name outcome).settledFile ++
        [(name, (outbox.object name).tried)] := by
  rw [settledFile_appendRecord, recordsOf_concat]
  simp [serialise, hand, note, addRecord]

theorem object_hand (outcome : SendOutcome) :
    (outbox.hand name outcome).object name = (outbox.object name).tried :=
  Function.update_self _ _ _

theorem touches_failed (outcome : SendOutcome) :
    Touches outbox ((outbox.hand name outcome).appendRecord (.entry name))
      (outbox.object name).commandId := by
  apply (touches_hand outbox name outcome).trans
  apply touches_appendRecord
  intro other different records
  apply addRecord_entry_other
  rwa [commandId_hand]

theorem touches_sent :
    Touches outbox ((outbox.hand name .sent).markAcked (outbox.object name).commandId)
      (outbox.object name).commandId :=
  (touches_hand outbox name .sent).trans (touches_markAcked _ _)

theorem handed_within {outcome : SendOutcome} (recorded : Recorded outbox)
    (present : outbox.get (outbox.object name).commandId = some name)
    (unspent : (outbox.object name).exhausted = false) :
    HandedWithinCap (outbox.hand name outcome) := by
  have spent := recorded.spent _ name present
  have below : (outbox.object name).attempts < ACK_OUTBOX_MAX_ATTEMPTS := by
    simpa [AckOutboxEntry.exhausted] using unspent
  intro other
  rw [handedCount_hand]
  split
  · next same =>
      subst same
      omega
  · exact recorded.capped other

theorem unhanded_hand {outcome : SendOutcome} (recorded : Recorded outbox)
    (present : outbox.get (outbox.object name).commandId = some name) (other : Nat)
    (unmade : outbox.made ≤ other) : (outbox.hand name outcome).handedCount other = 0 := by
  have made := (recorded.named _ name present).1
  rw [handedCount_hand, if_neg (by omega)]
  exact recorded.unhanded other unmade

theorem Recorded.failed {outcome : SendOutcome} (recorded : Recorded outbox)
    (present : outbox.get (outbox.object name).commandId = some name)
    (unspent : (outbox.object name).exhausted = false) :
    Recorded ((outbox.hand name outcome).appendRecord (.entry name)) := by
  have made := (recorded.named _ name present).1
  apply (touches_failed outcome).recorded recorded
  · intro other member
    cases List.mem_append.mp member with
    | inl earlier => exact recorded.queued other earlier
    | inr last =>
      cases List.mem_singleton.mp last
      exact made
  · intro other found
    cases present.symm.trans found
    constructor
    · exact made
    · exact commandId_hand outbox name name outcome
    · rw [recordsOf_failed, List.getLast?_concat]
      exact congrArg some (Prod.ext rfl (object_hand outcome).symm)
    · have spent := recorded.spent _ name present
      change (outbox.hand name outcome).handedCount name ≤
        ((outbox.hand name outcome).object name).attempts
      rw [handedCount_hand, object_hand, if_pos rfl]
      exact Nat.succ_le_succ spent
  · intro missing
    cases present.symm.trans missing
  · exact handed_within recorded present unspent
  · exact unhanded_hand recorded present

theorem Recorded.sent (recorded : Recorded outbox)
    (present : outbox.get (outbox.object name).commandId = some name)
    (unspent : (outbox.object name).exhausted = false) :
    Recorded ((outbox.hand name .sent).markAcked (outbox.object name).commandId) := by
  have held : (outbox.hand name .sent).get (outbox.object name).commandId = some name := present
  have after : (outbox.hand name .sent).markAcked (outbox.object name).commandId =
      ((outbox.hand name .sent).delete (outbox.object name).commandId).appendRecord
        (.ack (outbox.object name).commandId) := by
    unfold AckOutbox.markAcked
    rw [held]
  apply recorded.gone touches_sent (by simp)
  · rw [after, settledFile_appendRecord]
    exact recordsOf_append_ack _ _
  · intro other member
    rw [after] at member
    exact @mem_writing_deleted (outbox.hand name .sent) _ other member
  · intro other
    rw [handedCount_markAcked]
    exact handed_within recorded present unspent other
  · intro other unmade
    rw [made_markAcked] at unmade
    rw [handedCount_markAcked]
    exact unhanded_hand recorded present other unmade

theorem Recorded.given_up (recorded : Recorded outbox) :
    Recorded ((outbox.note (.dropped name)).markAcked (outbox.object name).commandId) := by
  have noted : Recorded (outbox.note (.dropped name)) :=
    @Recorded.of_same outbox (outbox.note (.dropped name)) (fun _ => rfl) rfl rfl recorded rfl
      (fun _ member => member) (handedCount_note outbox (.dropped name))
  exact noted.markAcked _

theorem noneOutlives_failed_iff {outcome : SendOutcome} (recorded : Recorded outbox)
    (clean : NoneOutlives outbox)
    (present : outbox.get (outbox.object name).commandId = some name)
    (unspent : (outbox.object name).exhausted = false)
    (failed : outcome = .refused ∨ outcome = .threw) :
    NoneOutlives ((outbox.hand name outcome).appendRecord (.entry name)) ↔
      ¬ OutlivedByRecord outbox name outcome := by
  rw [(touches_failed outcome).noneOutlives_iff recorded clean]
  constructor
  · rintro kept ⟨-, -, spent, row, member, rest⟩
    apply kept name present row
    · rw [recordsOf_failed]
      exact List.mem_append_left _ member
    · change Outlives row.2 ((outbox.hand name outcome).object name)
      rw [object_hand]
      exact ⟨rest, .inl spent⟩
  · intro kept other found row member outlives
    cases present.symm.trans found
    change Outlives row.2 ((outbox.hand name outcome).object name) at outlives
    rw [object_hand] at outlives
    rw [recordsOf_failed] at member
    rcases List.mem_append.mp member with earlier | last
    · cases outlives.2 with
      | inl spent => exact kept ⟨unspent, failed, spent, row, earlier, outlives.1⟩
      | inr newer =>
        have aging := recordsOf_hand_aged outbox name outcome (outbox.object name).commandId
        obtain ⟨before, listed, ts, attempts⟩ := aged_of_mem aging earlier
        have within : before.2.exhausted = false := by
          have rest := outlives.1
          simp only [AckOutboxEntry.exhausted, decide_eq_false_iff_not] at rest ⊢
          omega
        apply clean _ name present before listed
        exact ⟨within, .inr (by rw [← ts]; exact newer)⟩
    · cases List.mem_singleton.mp last
      exact not_outlives_self _ outlives

theorem flushTurn_keeps (recorded : Recorded outbox) (clean : NoneOutlives outbox)
    (present : outbox.get (outbox.object name).commandId = some name) (outcome : SendOutcome) :
    Recorded (outbox.flushTurn name outcome).1 ∧
    (NoneOutlives (outbox.flushTurn name outcome).1 ↔ ¬ OutlivedByRecord outbox name outcome) := by
  unfold flushTurn
  cases spent : (outbox.object name).exhausted with
  | true =>
    simp only [OutlivedByRecord, spent, if_true, Bool.true_eq_false, false_and,
      not_false_eq_true, iff_true]
    have touches := touches_markAcked (outbox.note (.dropped name)) (outbox.object name).commandId
    have noted : Touches outbox (outbox.note (.dropped name)) (outbox.object name).commandId :=
      ⟨fun _ _ => rfl, fun _ _ _ => rfl, Nat.le_refl _, fun _ _ => rfl,
        fun other _ _ => handedCount_note outbox (.dropped name) other⟩
    exact ⟨recorded.given_up, noneOutlives_gone recorded clean (noted.trans touches) (by simp)⟩
  | false =>
    simp only [Bool.false_eq_true, if_false]
    cases outcome with
    | disconnected => exact ⟨recorded, by simp [OutlivedByRecord, clean]⟩
    | sent =>
      refine ⟨recorded.sent present spent, ?_⟩
      simp [OutlivedByRecord, noneOutlives_gone recorded clean touches_sent]
    | refused =>
      exact ⟨recorded.failed present spent,
        noneOutlives_failed_iff recorded clean present spent (.inl rfl)⟩
    | threw =>
      exact ⟨recorded.failed present spent,
        noneOutlives_failed_iff recorded clean present spent (.inr rfl)⟩

end Turn

theorem Recorded.landed {before after : AckOutbox} (recorded : Recorded after) :
    Recorded (landed before after) := by
  unfold AckOutbox.landed
  split
  · exact recorded.settle
  · exact recorded

theorem noneOutlives_landed {before after : AckOutbox} :
    NoneOutlives (landed before after) ↔ NoneOutlives after := by
  unfold AckOutbox.landed
  split
  · exact noneOutlives_settle
  · exact Iff.rfl

def Standing (outbox : AckOutbox) (names : List Nat) : Prop :=
  names.Nodup ∧ ∀ name ∈ names, outbox.get (outbox.object name).commandId = some name

theorem get_landed (before after : AckOutbox) (commandId : String) :
    (landed before after).get commandId = after.get commandId := by
  unfold landed
  split <;> rfl

theorem object_landed (before after : AckOutbox) : (landed before after).object = after.object := by
  unfold landed
  split <;> rfl

theorem flushTurn_continues {outbox : AckOutbox} {name : Nat} {outcome : SendOutcome}
    (continues : (outbox.flushTurn name outcome).2 = true) :
    (∀ other, other ≠ (outbox.object name).commandId →
      (outbox.flushTurn name outcome).1.get other = outbox.get other) ∧
    (∀ other, ((outbox.flushTurn name outcome).1.object other).commandId =
      (outbox.object other).commandId) ∧
    ¬ OutlivedByRecord outbox name outcome := by
  unfold flushTurn at continues ⊢
  split at continues
  · next spent =>
      rw [if_pos spent]
      refine ⟨?_, ?_, ?_⟩
      · intro other different
        simp [different]
      · simp [note]
      · simp [OutlivedByRecord, spent]
  · next unspent =>
      rw [if_neg unspent]
      cases outcome with
      | sent =>
        refine ⟨?_, ?_, ?_⟩
        · intro other different
          simp [different]
        · simp
        · simp [OutlivedByRecord]
      | disconnected => cases continues
      | refused => cases continues
      | threw => cases continues

theorem Standing.next {outbox : AckOutbox} {name : Nat} {later : List Nat} {outcome : SendOutcome}
    (standing : Standing outbox (name :: later))
    (continues : (outbox.flushTurn name outcome).2 = true) :
    Standing (landed outbox (outbox.flushTurn name outcome).1) later := by
  obtain ⟨distinct, present⟩ := standing
  obtain ⟨fresh, laterDistinct⟩ := List.nodup_cons.mp distinct
  obtain ⟨get, command, -⟩ := flushTurn_continues continues
  refine ⟨laterDistinct, ?_⟩
  intro other member
  have held := present other (List.mem_cons_of_mem _ member)
  rw [object_landed, get_landed, command, get]
  · exact held
  · intro same
    rw [same, present name List.mem_cons_self] at held
    exact fresh (Option.some.inj held ▸ member)

theorem flushTurns_keep {outbox : AckOutbox} (recorded : Recorded outbox)
    (clean : NoneOutlives outbox) {names : List Nat} (standing : Standing outbox names)
    (outcomes : List SendOutcome) :
    Recorded (outbox.flushTurns names outcomes) ∧
    (NoneOutlives (outbox.flushTurns names outcomes) ↔ ¬ FlushOutlived outbox names outcomes) := by
  induction names generalizing outbox outcomes with
  | nil => simp [flushTurns, FlushOutlived, recorded, clean]
  | cons name later ih =>
    cases outcomes with
    | nil => simp [flushTurns, FlushOutlived, recorded, clean]
    | cons outcome outcomes =>
      have present := standing.2 name List.mem_cons_self
      obtain ⟨turnRecorded, turnNone⟩ := flushTurn_keeps recorded clean present outcome
      simp only [flushTurns, FlushOutlived]
      cases continues : (outbox.flushTurn name outcome).2 with
      | true =>
        have fine := (flushTurn_continues continues).2.2
        have rest := ih turnRecorded.landed (noneOutlives_landed.mpr (turnNone.mpr fine))
          (standing.next continues) outcomes
        simpa [fine] using rest
      | false =>
        simp only [Bool.false_eq_true, if_false, false_and, or_false]
        exact ⟨turnRecorded.landed, noneOutlives_landed.trans turnNone⟩

theorem standing_ordered {outbox : AckOutbox} (recorded : Recorded outbox) :
    Standing outbox outbox.ordered := by
  constructor
  · unfold ordered
    apply (List.perm_insertionSort _ _).nodup_iff.mpr
    apply List.Nodup.map_on _ (List.Nodup.of_map _ outbox.entries.unique)
    intro left leftMember right rightMember same
    have leftCommand := (recorded.named left.1 left.2 (get_eq_some_iff.mpr leftMember)).2
    have rightCommand := (recorded.named right.1 right.2 (get_eq_some_iff.mpr rightMember)).2
    apply Prod.ext _ same
    rw [← leftCommand, ← rightCommand, same]
  · intro name member
    obtain ⟨commandId, found⟩ := mem_ordered.mp member
    rw [(recorded.named commandId name found).2]
    exact found

/-! ## Restarting -/

theorem recordsOf_entries (commandId : String) (rows : List (Nat × AckOutboxEntry)) :
    recordsOf commandId (rows.map fun row => .entry row.1 row.2) =
      rows.filter fun row => decide (row.2.commandId = commandId) := by
  induction rows using List.reverseRecOn with
  | nil => rfl
  | append_singleton rows row ih =>
    rw [List.map_append, List.map_singleton, recordsOf_concat, ih, List.filter_append]
    by_cases own : row.2.commandId = commandId <;> simp [addRecord, own]

section Restart

variable {outbox : AckOutbox}

theorem mem_loaded_iff (recorded : Recorded outbox) (clean : NoneOutlives outbox) {now : Int}
    {row : Nat × AckOutboxEntry} :
    row ∈ loadFromDisk now outbox.settledFile ↔
      outbox.get row.2.commandId = some row.1 ∧ row.2 = outbox.object row.1 ∧
        row.2.live now = true := by
  have read := lookup_settledFile recorded clean now row.2.commandId
  have listed : row ∈ loadFromDisk now outbox.settledFile ↔
      (loadFromDisk now outbox.settledFile).lookup row.2.commandId = some row := by
    rw [Table.lookup_eq_some_iff]
    simp
  rw [listed, read, Option.filter_eq_some_iff, Option.map_eq_some_iff]
  constructor
  · rintro ⟨⟨name, found, same⟩, live⟩
    subst same
    exact ⟨found, rfl, live⟩
  · rintro ⟨found, same, live⟩
    exact ⟨⟨row.1, found, Prod.ext rfl same.symm⟩, live⟩

theorem object_init (recorded : Recorded outbox) (clean : NoneOutlives outbox) (now : Int) :
    (outbox.settle.init now).object = outbox.object := by
  funext name
  change ((List.find? _ (loadFromDisk now outbox.settledFile).rows).map Prod.snd).getD
    (outbox.object name) = outbox.object name
  cases found : (loadFromDisk now outbox.settledFile).rows.find?
      fun row => decide (row.1 = name) with
  | none => rfl
  | some row =>
    have own : row.1 = name := by simpa using List.find?_some found
    have loaded : row ∈ loadFromDisk now outbox.settledFile := List.mem_of_find?_eq_some found
    have same := ((mem_loaded_iff recorded clean).mp loaded).2.1
    simp [same, own]

theorem get_init_iff (recorded : Recorded outbox) (clean : NoneOutlives outbox) {now : Int}
    {commandId : String} {name : Nat} :
    (outbox.settle.init now).get commandId = some name ↔
      outbox.get commandId = some name ∧ (outbox.object name).live now = true := by
  rw [get_eq_some_iff]
  change (commandId, name) ∈ (loadFromDisk now outbox.settledFile).rows.map _ ↔ _
  rw [List.mem_map]
  constructor
  · rintro ⟨row, loaded, same⟩
    cases same
    obtain ⟨found, object, live⟩ := (mem_loaded_iff recorded clean).mp loaded
    exact ⟨found, object ▸ live⟩
  · rintro ⟨found, live⟩
    have command := (recorded.named commandId name found).2
    refine ⟨(name, outbox.object name), (mem_loaded_iff recorded clean).mpr ?_, ?_⟩
    · exact ⟨by rw [command]; exact found, rfl, live⟩
    · rw [command]

theorem settledFile_init (recorded : Recorded outbox) (clean : NoneOutlives outbox) (now : Int) :
    (outbox.settle.init now).settledFile =
      (loadFromDisk now outbox.settledFile).rows.map fun row => .entry row.1 row.2 := by
  have object := object_init recorded clean now
  change ((loadFromDisk now outbox.settledFile).rows.map fun row =>
    DiskRecord.entry row.1 ((outbox.settle.init now).object row.1)) ++ [] = _
  rw [List.append_nil, object]
  apply List.map_congr_left
  intro row loaded
  rw [((mem_loaded_iff recorded clean).mp loaded).2.1]

theorem recordsOf_init (recorded : Recorded outbox) (clean : NoneOutlives outbox) (now : Int)
    (commandId : String) :
    recordsOf commandId (outbox.settle.init now).settledFile =
      (((outbox.settle.init now).get commandId).map fun name => (name, outbox.object name)).toList := by
  rw [settledFile_init recorded clean, recordsOf_entries]
  change (loadFromDisk now outbox.settledFile).select _ = _
  rw [Table.select_key, lookup_settledFile recorded clean]
  congr 1
  apply Option.ext
  intro row
  simp only [Option.filter_eq_some_iff, Option.map_eq_some_iff, get_init_iff recorded clean]
  constructor
  · rintro ⟨⟨name, found, rfl⟩, live⟩
    exact ⟨name, ⟨found, live⟩, rfl⟩
  · rintro ⟨name, ⟨found, live⟩, rfl⟩
    exact ⟨⟨name, found, rfl⟩, live⟩

theorem Recorded.restart (recorded : Recorded outbox) (clean : NoneOutlives outbox) (now : Int) :
    Recorded (outbox.settle.init now) := by
  have object := object_init recorded clean now
  constructor
  · intro commandId name found
    rw [object]
    exact recorded.named commandId name ((get_init_iff recorded clean).mp found).1
  · intro name impossible
    cases impossible
  · intro commandId name found
    simp [recordsOf_init recorded clean, found, object]
  · intro commandId missing
    simp [recordsOf_init recorded clean, missing]
  · exact recorded.capped
  · intro commandId name found
    rw [object]
    exact recorded.spent commandId name ((get_init_iff recorded clean).mp found).1
  · exact recorded.unhanded

theorem noneOutlives_restart (recorded : Recorded outbox) (clean : NoneOutlives outbox)
    (now : Int) : NoneOutlives (outbox.settle.init now) := by
  intro commandId name found row member
  rw [recordsOf_init recorded clean, found] at member
  rw [object_init recorded clean]
  cases List.mem_singleton.mp member
  exact not_outlives_self _

end Restart

/-! ## Runs -/

/-- An enqueue or a failed send leaves in force a record that outlives what memory then holds. -/
def LeavesOutlivedEntry (outbox : AckOutbox) : OutboxAction → Prop
  | .enqueue entry =>
    ∃ row ∈ recordsOf entry.commandId outbox.settledFile, Outlives row.2 entry
  | .flushOnReconnect outcomes => FlushOutlived outbox outbox.ordered outcomes
  | _ => False

theorem outboxStep_keeps {outbox : AckOutbox} (recorded : Recorded outbox)
    (clean : NoneOutlives outbox) (action : OutboxAction) :
    Recorded (outboxStep outbox action) ∧
    (NoneOutlives (outboxStep outbox action) ↔ ¬ LeavesOutlivedEntry outbox action) := by
  cases action with
  | enqueue entry =>
    refine ⟨recorded.enqueue entry, (noneOutlives_enqueue_iff recorded clean entry).trans ?_⟩
    simp [LeavesOutlivedEntry]
  | markAcked commandId =>
    simp [outboxStep, LeavesOutlivedEntry, recorded.markAcked,
      noneOutlives_markAcked recorded clean]
  | gc now =>
    simp only [LeavesOutlivedEntry, not_false_eq_true, iff_true]
    exact drops_keep recorded clean _
  | flushOnReconnect outcomes =>
    exact flushTurns_keep recorded clean (standing_ordered recorded) outcomes
  | write =>
    simp [outboxStep, LeavesOutlivedEntry, recorded.write, noneOutlives_write.mpr clean]
  | restart now =>
    simp [outboxStep, LeavesOutlivedEntry, recorded.restart clean,
      noneOutlives_restart recorded clean]

theorem recorded_fresh : Recorded fresh := by
  have empty : ∀ commandId, fresh.get commandId = none := fun _ => rfl
  constructor
  · simp [empty]
  · simp [fresh]
  · simp [empty]
  · exact fun _ _ => rfl
  · exact fun _ => Nat.zero_le _
  · simp [empty]
  · exact fun _ _ => rfl

/-- Over any number of restarts, recovery agrees with memory and the cap on attempts holds
exactly if no step leaves a record in force that outlives the entry in memory. -/
theorem recovery_agrees_iff (actions : List OutboxAction) :
    Always outboxStep (fun outbox => RecoversMemory outbox ∧ HandedWithinCap outbox) fresh actions ↔
      Meets outboxStep (fun outbox action => ¬ LeavesOutlivedEntry outbox action) fresh actions := by
  have keeps : ∀ outbox action, Recorded outbox → RecoversMemory outbox ∧ HandedWithinCap outbox →
      Recorded (outboxStep outbox action) ∧
      (NoneOutlives (outboxStep outbox action) ↔ ¬ LeavesOutlivedEntry outbox action) :=
    fun outbox action recorded holds =>
      outboxStep_keeps recorded ((recovers_iff recorded).mp holds.1) action
  apply always_iff_meets _ _ recorded_fresh
  · refine ⟨?_, recorded_fresh.capped⟩
    apply (recovers_iff recorded_fresh).mpr
    intro commandId name impossible
    cases impossible
  · exact fun outbox action recorded holds => (keeps outbox action recorded holds).1
  · intro outbox action recorded holds
    obtain ⟨after, agrees⟩ := keeps outbox action recorded holds
    rw [← agrees, recovers_iff after]
    exact ⟨And.left, fun clean => ⟨clean, after.capped⟩⟩

def refusedTenTimes : List OutboxAction :=
  [.enqueue { blankEntry with commandId := "a" }, .write] ++
    List.replicate 10 (.flushOnReconnect [.refused]) ++ [.restart 0]

/-- The record of the tenth failure is passed over when the file is read, the one before it
comes back with nine attempts, and the entry is handed to `send` an eleventh time. -/
theorem exhausted_entry_sent_again :
    ¬ Always outboxStep (fun outbox => RecoversMemory outbox ∧ HandedWithinCap outbox) fresh
      (refusedTenTimes ++ [.flushOnReconnect [.sent]]) := by
  intro always
  have within := (always _ [] (List.append_nil _).symm).2 0
  have handed : (run outboxStep fresh
      (refusedTenTimes ++ [.flushOnReconnect [.sent]])).handedCount 0 = 11 := by
    decide +kernel
  rw [handed] at within
  exact absurd within (by decide)

end ImCodes.Acks
