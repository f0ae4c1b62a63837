import ImCodes.Library.Json
import ImCodes.Library.Run
import ImCodes.Library.Table
import Mathlib.Data.List.Sort
import Mathlib.Logic.Function.Basic

/-!
# The acknowledgement outbox

The daemon keeps each `command.ack` in an outbox until it is sent: in memory a map from the
command to its entry, on disk a log of entries and tombstones. Entries are objects that a
running flush, a queued write and the map can hold at once, so they are kept under names
and read through them. A queued record is put into text when its turn to be written comes.
-/

set_option autoImplicit false

namespace ImCodes.Acks

open Library

def ACK_OUTBOX_TTL_MS : Int := 10 * 60000

def ACK_OUTBOX_MAX_ATTEMPTS : Nat := 10

structure AckOutboxEntry where
  commandId : String
  sessionName : String
  status : String
  error : Option String
  extras : Option (List (String × Json))
  ts : Int
  attempts : Nat
deriving DecidableEq

namespace AckOutboxEntry

/-- The entry is past the age limit at `now`. -/
def expired (entry : AckOutboxEntry) (now : Int) : Bool :=
  decide (now - entry.ts > ACK_OUTBOX_TTL_MS)

def exhausted (entry : AckOutboxEntry) : Bool :=
  decide (ACK_OUTBOX_MAX_ATTEMPTS ≤ entry.attempts)

/-- The entry is within both limits at `now`. -/
def live (entry : AckOutboxEntry) (now : Int) : Bool :=
  !entry.expired now && !entry.exhausted

def tried (entry : AckOutboxEntry) : AckOutboxEntry :=
  { entry with attempts := entry.attempts + 1 }

/-- The frame a flush hands to `send`. -/
def message (entry : AckOutboxEntry) : List (String × Json) :=
  let frame := [("type", .str "command.ack"), ("commandId", .str entry.commandId),
    ("status", .str entry.status), ("session", .str entry.sessionName)]
  let withError := match entry.error with
    | some error => if error = "" then frame else frame ++ [("error", .str error)]
    | none => frame
  (entry.extras.getD []).foldl (fun members extra => Json.setMember extra.1 extra.2 members)
    withError

@[simp] theorem tried_commandId (entry : AckOutboxEntry) :
    entry.tried.commandId = entry.commandId := rfl

@[simp] theorem tried_ts (entry : AckOutboxEntry) : entry.tried.ts = entry.ts := rfl

@[simp] theorem tried_attempts (entry : AckOutboxEntry) :
    entry.tried.attempts = entry.attempts + 1 := rfl

end AckOutboxEntry

/-- What a flush meets at one entry: no connection, or what `send` does with the frame. -/
inductive SendOutcome where
  | disconnected
  | sent
  | refused
  | threw
deriving DecidableEq

/-- A record waiting its turn in the chain of writes. -/
inductive QueuedRecord where
  | entry (name : Nat)
  | ack (commandId : String)
deriving DecidableEq

/-- A record of the file. The name only says which entry it is a record of. -/
inductive DiskRecord where
  | entry (name : Nat) (entry : AckOutboxEntry)
  | ack (commandId : String)
deriving DecidableEq

/-- What happens to the entries, in order. -/
inductive OutboxEvent where
  | enqueued (name : Nat)
  | handed (name : Nat) (frame : List (String × Json)) (outcome : SendOutcome)
  | dropped (name : Nat)
  | acknowledged (commandId : String)
deriving DecidableEq

structure AckOutbox where
  object : Nat → AckOutboxEntry
  made : Nat
  entries : Table (String × Nat) String Prod.fst
  writing : List QueuedRecord
  file : List DiskRecord
  events : List OutboxEvent

namespace AckOutbox

def blankEntry : AckOutboxEntry := ⟨"", "", "", none, none, 0, 0⟩

/-- An outbox without a file. -/
def fresh : AckOutbox where
  object := fun _ => blankEntry
  made := 0
  entries := .empty
  writing := []
  file := []
  events := []

/-- `this.entries.get(commandId)`. -/
def get (outbox : AckOutbox) (commandId : String) : Option Nat :=
  (outbox.entries.lookup commandId).map Prod.snd

def delete (outbox : AckOutbox) (commandId : String) : AckOutbox :=
  { outbox with entries := outbox.entries.deleteWhere fun row => decide (row.1 = commandId) }

def note (outbox : AckOutbox) (event : OutboxEvent) : AckOutbox :=
  { outbox with events := outbox.events ++ [event] }

def appendRecord (outbox : AckOutbox) (rec : QueuedRecord) : AckOutbox :=
  { outbox with writing := outbox.writing ++ [rec] }

def serialise (outbox : AckOutbox) : QueuedRecord → DiskRecord
  | .entry name => .entry name (outbox.object name)
  | .ack commandId => .ack commandId

/-- The first queued record lands in the file. -/
def write (outbox : AckOutbox) : AckOutbox :=
  match outbox.writing with
  | [] => outbox
  | rec :: later => { outbox with writing := later, file := outbox.file ++ [outbox.serialise rec] }

def settledFile (outbox : AckOutbox) : List DiskRecord :=
  outbox.file ++ outbox.writing.map outbox.serialise

/-- Every queued record lands, as it has when an `await` of the last one returns. -/
def settle (outbox : AckOutbox) : AckOutbox :=
  { outbox with writing := [], file := outbox.settledFile }

def enqueue (outbox : AckOutbox) (entry : AckOutboxEntry) : AckOutbox :=
  let stored := { outbox with
    object := Function.update outbox.object outbox.made entry
    made := outbox.made + 1
    entries := outbox.entries.upsert (entry.commandId, outbox.made) }
  (stored.note (.enqueued outbox.made)).appendRecord (.entry outbox.made)

def markAcked (outbox : AckOutbox) (commandId : String) : AckOutbox :=
  match outbox.get commandId with
  | none => outbox
  | some _ => (outbox.delete commandId).appendRecord (.ack commandId)

/-- The entry's attempts go up by one and its frame is handed to `send`. -/
def hand (outbox : AckOutbox) (name : Nat) (outcome : SendOutcome) : AckOutbox :=
  { outbox with object := Function.update outbox.object name (outbox.object name).tried }.note
    (.handed name (outbox.object name).message outcome)

def ordered (outbox : AckOutbox) : List Nat :=
  (outbox.entries.rows.map Prod.snd).insertionSort fun a b =>
    (outbox.object a).ts ≤ (outbox.object b).ts

/-- One round of the flush loop, and whether the loop goes on once its append has landed. -/
def flushTurn (outbox : AckOutbox) (name : Nat) (outcome : SendOutcome) : AckOutbox × Bool :=
  if (outbox.object name).exhausted then
    ((outbox.note (.dropped name)).markAcked (outbox.object name).commandId, true)
  else match outcome with
    | .disconnected => (outbox, false)
    | .sent => ((outbox.hand name .sent).markAcked (outbox.object name).commandId, true)
    | .refused => ((outbox.hand name .refused).appendRecord (.entry name), false)
    | .threw => ((outbox.hand name .threw).appendRecord (.entry name), false)

/-! ## Reading the map -/

theorem get_eq_some_iff {outbox : AckOutbox} {commandId : String} {name : Nat} :
    outbox.get commandId = some name ↔ (commandId, name) ∈ outbox.entries := by
  unfold get
  rw [Option.map_eq_some_iff]
  constructor
  · rintro ⟨⟨key, value⟩, found, rfl⟩
    obtain ⟨member, rfl⟩ := Table.lookup_eq_some_iff.mp found
    exact member
  · intro member
    exact ⟨_, Table.lookup_of_mem member, rfl⟩

@[simp] theorem get_note (outbox : AckOutbox) (event : OutboxEvent) (commandId : String) :
    (outbox.note event).get commandId = outbox.get commandId := rfl

@[simp] theorem get_appendRecord (outbox : AckOutbox) (rec : QueuedRecord) (commandId : String) :
    (outbox.appendRecord rec).get commandId = outbox.get commandId := rfl

@[simp] theorem get_hand (outbox : AckOutbox) (name : Nat) (outcome : SendOutcome)
    (commandId : String) : (outbox.hand name outcome).get commandId = outbox.get commandId := rfl

@[simp] theorem get_write (outbox : AckOutbox) (commandId : String) :
    outbox.write.get commandId = outbox.get commandId := by
  unfold write
  split <;> rfl

@[simp] theorem get_settle (outbox : AckOutbox) (commandId : String) :
    outbox.settle.get commandId = outbox.get commandId := rfl

@[simp] theorem get_delete (outbox : AckOutbox) (deleted commandId : String) :
    (outbox.delete deleted).get commandId =
      if commandId = deleted then none else outbox.get commandId := by
  unfold get delete
  rw [Table.lookup_deleteWhere]
  cases found : outbox.entries.lookup commandId with
  | none => simp
  | some row =>
    obtain ⟨key, value⟩ := row
    obtain ⟨-, rfl⟩ := Table.lookup_eq_some_iff.mp found
    by_cases same : key = deleted <;> simp [same]

@[simp] theorem get_markAcked (outbox : AckOutbox) (acked commandId : String) :
    (outbox.markAcked acked).get commandId =
      if commandId = acked then none else outbox.get commandId := by
  unfold markAcked
  split
  · next absent =>
      split
      · next same => rw [same, absent]
      · rfl
  · simp

@[simp] theorem get_enqueue (outbox : AckOutbox) (entry : AckOutboxEntry) (commandId : String) :
    (outbox.enqueue entry).get commandId =
      if entry.commandId = commandId then some outbox.made else outbox.get commandId := by
  unfold enqueue
  simp only [get_appendRecord, get_note]
  unfold get
  rw [Table.lookup_upsert]
  split <;> rfl

theorem mem_ordered {outbox : AckOutbox} {name : Nat} :
    name ∈ outbox.ordered ↔ ∃ commandId, outbox.get commandId = some name := by
  unfold ordered
  rw [List.mem_insertionSort, List.mem_map]
  constructor
  · rintro ⟨⟨commandId, value⟩, member, rfl⟩
    exact ⟨commandId, get_eq_some_iff.mpr member⟩
  · rintro ⟨commandId, found⟩
    exact ⟨_, get_eq_some_iff.mp found, rfl⟩

/-! ## What the steps leave alone -/

theorem object_enqueue {outbox : AckOutbox} {entry : AckOutboxEntry} {name : Nat}
    (other : name ≠ outbox.made) : (outbox.enqueue entry).object name = outbox.object name :=
  Function.update_of_ne other _ _

@[simp] theorem object_enqueue_made (outbox : AckOutbox) (entry : AckOutboxEntry) :
    (outbox.enqueue entry).object outbox.made = entry :=
  Function.update_self _ _ _

@[simp] theorem object_markAcked (outbox : AckOutbox) (commandId : String) :
    (outbox.markAcked commandId).object = outbox.object := by
  unfold markAcked
  split <;> rfl

@[simp] theorem made_markAcked (outbox : AckOutbox) (commandId : String) :
    (outbox.markAcked commandId).made = outbox.made := by
  unfold markAcked
  split <;> rfl

@[simp] theorem events_markAcked (outbox : AckOutbox) (commandId : String) :
    (outbox.markAcked commandId).events = outbox.events := by
  unfold markAcked
  split <;> rfl

@[simp] theorem commandId_hand (outbox : AckOutbox) (name other : Nat) (outcome : SendOutcome) :
    ((outbox.hand name outcome).object other).commandId = (outbox.object other).commandId := by
  simp only [hand, note, Function.update_apply]
  split
  · next same => rw [same, AckOutboxEntry.tried_commandId]
  · rfl

@[simp] theorem object_write (outbox : AckOutbox) : outbox.write.object = outbox.object := by
  unfold write
  split <;> rfl

@[simp] theorem made_write (outbox : AckOutbox) : outbox.write.made = outbox.made := by
  unfold write
  split <;> rfl

@[simp] theorem events_write (outbox : AckOutbox) : outbox.write.events = outbox.events := by
  unfold write
  split <;> rfl

end AckOutbox

end ImCodes.Acks
