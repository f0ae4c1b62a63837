import ImCodes.Library.Leases
import ImCodes.Library.Run
import ImCodes.Library.Table
import ImCodes.Library.Text

/-!
# Resource claims

A pair's owner claims a resource, alone or shared, for some time. A claim is stored under an
id joined from the project, the task, the resource and the owner; a claim made again renews the
stored one. Beside the rows stand the leases the answers amount to.
-/

set_option autoImplicit false

namespace ImCodes.TaskPair

open Library

abbrev TaskPairResourceMode := LeaseMode

/-- Who holds a claim. -/
structure ClaimHolder where
  project : String
  taskId : String
  owner : String
deriving DecidableEq

structure TaskPairResourceClaim where
  claimId : String
  project : String
  taskId : String
  owner : String
  resource : String
  mode : TaskPairResourceMode
  claimedAt : Int
  renewedAt : Int
  expiresAt : Int
deriving DecidableEq

def TaskPairResourceClaim.holder (claim : TaskPairResourceClaim) : ClaimHolder :=
  ⟨claim.project, claim.taskId, claim.owner⟩

structure ResourceClaimRow extends TaskPairResourceClaim where
  releasedAt : Option Int
deriving DecidableEq

def ClaimHolder.claimId (holder : ClaimHolder) (resource : String) : String :=
  holder.project ++ ":" ++ holder.taskId ++ ":" ++ resource ++ ":" ++ holder.owner

abbrev ResourceClaims := Table ResourceClaimRow String (·.claimId)

structure ClaimInput where
  holder : ClaimHolder
  resource : String
  mode : TaskPairResourceMode
  ttlMs : Int
  now : Int
deriving DecidableEq

inductive ClaimResult
  | ok (claim : TaskPairResourceClaim)
  | conflict (claim : TaskPairResourceClaim)
deriving DecidableEq

namespace ResourceClaims

def dropEnded (claims : ResourceClaims) (now : Int) : ResourceClaims :=
  claims.deleteWhere fun row => row.releasedAt.isSome || row.expiresAt ≤ now

def listActiveResourceClaims (claims : ResourceClaims) (now : Int) :
    ResourceClaims × List TaskPairResourceClaim :=
  let left := claims.dropEnded now
  let rows := left.select fun row => row.releasedAt.isNone && row.expiresAt > now
  (left, (rows.insertionSort (fun first second => first.claimedAt ≤ second.claimedAt)).map
    (·.toTaskPairResourceClaim))

/-- Of a row that has the claim's id, only the times are written. -/
def save (claims : ResourceClaims) (claim : TaskPairResourceClaim) : ResourceClaims :=
  match claims.insert ⟨claim, none⟩ with
  | some inserted => inserted
  | none =>
    claims.updateWhere (fun row => row.claimId == claim.claimId)
      (fun row => { row with
        renewedAt := claim.renewedAt
        expiresAt := claim.expiresAt
        releasedAt := none })
      fun _ => rfl

/-- The claim a request comes to: the holder's own renewed, or a new one. -/
def claimFor (active : List TaskPairResourceClaim) (input : ClaimInput) :
    TaskPairResourceClaim :=
  match active.find? fun claim =>
      claim.resource == trim input.resource && claim.holder == input.holder with
  | some same => { same with renewedAt := input.now, expiresAt := input.now + input.ttlMs }
  | none =>
    { claimId := input.holder.claimId (trim input.resource)
      project := input.holder.project
      taskId := input.holder.taskId
      owner := input.holder.owner
      resource := trim input.resource
      mode := input.mode
      claimedAt := input.now
      renewedAt := input.now
      expiresAt := input.now + input.ttlMs }

def tryClaimResource (claims : ResourceClaims) (input : ClaimInput) :
    ResourceClaims × ClaimResult :=
  let resource := trim input.resource
  let (left, active) := claims.listActiveResourceClaims input.now
  let claim := claimFor active input
  match active.find? fun claim => claim.resource == resource && claim.holder != input.holder with
  | some existing =>
    if existing.mode = .exclusive ∨ input.mode = .exclusive then (left, .conflict existing)
    else (left.save claim, .ok claim)
  | none => (left.save claim, .ok claim)

def releaseResourceClaims (claims : ResourceClaims) (project taskId : String) (now : Int) :
    ResourceClaims × List TaskPairResourceClaim :=
  let (left, active) := claims.listActiveResourceClaims now
  (left.updateWhere
      (fun row => row.project == project && row.taskId == taskId && row.releasedAt.isNone)
      (fun row => { row with releasedAt := some now }) fun _ => rfl,
    active.filter fun claim => claim.project == project && claim.taskId == taskId)

end ResourceClaims

/-- The row a renewed claim leaves. -/
def ResourceClaimRow.renewed (row : ResourceClaimRow) (input : ClaimInput) : ResourceClaimRow :=
  { row with
    renewedAt := input.now
    expiresAt := input.now + input.ttlMs
    releasedAt := none }

inductive ClaimCall
  | tryClaim (input : ClaimInput)
  | release (project taskId : String) (now : Int)
  | list (now : Int)
deriving DecidableEq

/-- The rows, and the claims in force by the answers given: each until it is released or its
time passes. -/
structure ClaimWorld where
  claims : ResourceClaims
  leases : LeaseBook ClaimHolder String Int

namespace ClaimWorld

def empty : ClaimWorld := ⟨.empty, .empty⟩

def step (world : ClaimWorld) : ClaimCall → ClaimWorld
  | .tryClaim input =>
    let (claims, result) := world.claims.tryClaimResource input
    let leases := world.leases.elapse input.now
    match result with
    | .ok claim =>
      ⟨claims, leases.take input.holder (trim input.resource) input.mode claim.expiresAt⟩
    | .conflict _ => ⟨claims, leases⟩
  | .release project taskId now =>
    ⟨(world.claims.releaseResourceClaims project taskId now).1,
      (world.leases.elapse now).release fun holder =>
        holder.project == project && holder.taskId == taskId⟩
  | .list now => ⟨(world.claims.listActiveResourceClaims now).1, world.leases.elapse now⟩

def StoresLeases (world : ClaimWorld) : Prop :=
  ∀ holder resource lease, world.leases holder resource = some lease →
    ∃ row ∈ world.claims, row.releasedAt = none ∧ row.holder = holder ∧ row.resource = resource ∧
      row.mode = lease.mode

/-- A call is answered with a claim only beside claims it is compatible with, and leaves each
claim in force stored as what it is. -/
def ClaimsExclude (world : ClaimWorld) (call : ClaimCall) : Prop :=
  (∀ input claim, call = .tryClaim input →
    (world.claims.tryClaimResource input).2 = .ok claim →
      (world.leases.elapse input.now).Admits input.holder (trim input.resource) input.mode) ∧
  (world.step call).StoresLeases

/-- A request the claims in force admit is no upgrade of a shared claim, and its id is that of
no claim in force of another holder or on another resource. -/
def ClaimsApart (world : ClaimWorld) : ClaimCall → Prop
  | .tryClaim input =>
    let inForce := world.leases.elapse input.now
    let resource := trim input.resource
    inForce.Admits input.holder resource input.mode →
      (input.mode = .exclusive → ∀ own, inForce input.holder resource = some own →
        own.mode = .exclusive) ∧
      ∀ holder other lease, inForce holder other = some lease →
        holder.claimId other = input.holder.claimId resource →
          holder = input.holder ∧ other = resource
  | _ => True

/-- The rows not released are the claims in force, under the ids of their holders. -/
structure Agrees (world : ClaimWorld) : Prop where
  id : ∀ row ∈ world.claims, row.releasedAt = none → row.claimId = row.holder.claimId row.resource
  row : ∀ holder resource lease, world.leases holder resource = some lease ↔
    ∃ row ∈ world.claims, row.releasedAt = none ∧ row.holder = holder ∧ row.resource = resource ∧
      (⟨row.mode, row.expiresAt⟩ : Lease Int) = lease
  exclusive : world.leases.Exclusive

theorem Agrees.storesLeases {world : ClaimWorld} (agrees : world.Agrees) :
    world.StoresLeases := by
  intro holder resource lease isHeld
  obtain ⟨row, stored, live, isHolder, isResource, isLease⟩ :=
    (agrees.row holder resource lease).mp isHeld
  exact ⟨row, stored, live, isHolder, isResource, congrArg Lease.mode isLease⟩

theorem agrees_empty : empty.Agrees := by
  refine ⟨?_, ?_, LeaseBook.exclusive_empty⟩
  · intro row stored
    simp [empty] at stored
  · intro holder resource lease
    simp [empty]

/-! ## Looking and releasing -/

@[simp] theorem mem_dropEnded {claims : ResourceClaims} {now : Int} {row : ResourceClaimRow} :
    row ∈ claims.dropEnded now ↔ row ∈ claims ∧ row.releasedAt = none ∧ now < row.expiresAt := by
  simp [ResourceClaims.dropEnded]

theorem mem_listActive {claims : ResourceClaims} {now : Int} {claim : TaskPairResourceClaim} :
    claim ∈ (claims.listActiveResourceClaims now).2 ↔
      ∃ row ∈ claims.dropEnded now, row.toTaskPairResourceClaim = claim := by
  simp only [ResourceClaims.listActiveResourceClaims, List.mem_map, List.mem_insertionSort,
    Table.mem_select]
  constructor
  · intro ⟨row, stored, isClaim⟩
    exact ⟨row, stored.1, isClaim⟩
  · intro ⟨row, stored, isClaim⟩
    have live := (mem_dropEnded.mp stored).2
    exact ⟨row, ⟨stored, by simp [live]⟩, isClaim⟩

theorem Agrees.dropEnded {world : ClaimWorld} (agrees : world.Agrees) (now : Int) :
    Agrees ⟨world.claims.dropEnded now, world.leases.elapse now⟩ := by
  refine ⟨?_, ?_, agrees.exclusive.elapse now⟩
  · intro row stored live
    exact agrees.id row (mem_dropEnded.mp stored).1 live
  · intro holder resource lease
    rw [LeaseBook.elapse_eq_some_iff, agrees.row]
    constructor
    · intro ⟨⟨row, stored, live, isHolder, isResource, isLease⟩, ahead⟩
      subst isLease
      exact ⟨row, mem_dropEnded.mpr ⟨stored, live, ahead⟩, live, isHolder, isResource, rfl⟩
    · intro ⟨row, stored, live, isHolder, isResource, isLease⟩
      have kept := mem_dropEnded.mp stored
      subst isLease
      exact ⟨⟨row, kept.1, live, isHolder, isResource, rfl⟩, kept.2.2⟩

theorem Agrees.release {world : ClaimWorld} (agrees : world.Agrees) (project taskId : String)
    (now : Int) : (world.step (.release project taskId now)).Agrees := by
  have left := agrees.dropEnded now
  have rows : (world.step (.release project taskId now)).claims =
      (world.claims.dropEnded now).updateWhere
        (fun row => row.project == project && row.taskId == taskId && row.releasedAt.isNone)
        (fun row => { row with releasedAt := some now }) (fun _ => rfl) := rfl
  have live : ∀ row : ResourceClaimRow, row.releasedAt = none →
      (row ∈ (world.step (.release project taskId now)).claims ↔
        row ∈ world.claims.dropEnded now ∧ ¬ (row.project = project ∧ row.taskId = taskId)) := by
    intro row isLive
    rw [rows, Table.mem_updateWhere]
    constructor
    · intro ⟨old, stored, isRow⟩
      split at isRow
      · subst isRow
        cases isLive
      · rename_i stays
        subst isRow
        exact ⟨stored, by simpa [isLive] using stays⟩
    · intro ⟨stored, stays⟩
      refine ⟨row, stored, if_neg ?_⟩
      simpa [isLive] using stays
  refine ⟨?_, ?_, left.exclusive.release _⟩
  · intro row stored isLive
    exact left.id row ((live row isLive).mp stored).1 isLive
  · intro holder resource lease
    have leases : (world.step (.release project taskId now)).leases =
        (world.leases.elapse now).release fun holder =>
          holder.project == project && holder.taskId == taskId := rfl
    rw [leases, LeaseBook.release_eq_some_iff, left.row]
    constructor
    · intro ⟨stays, row, stored, isLive, isHolder, isResource, isLease⟩
      refine ⟨row, (live row isLive).mpr ⟨stored, ?_⟩, isLive, isHolder, isResource, isLease⟩
      subst isHolder
      simpa [TaskPairResourceClaim.holder] using stays
    · intro ⟨row, stored, isLive, isHolder, isResource, isLease⟩
      have kept := (live row isLive).mp stored
      refine ⟨?_, row, kept.1, isLive, isHolder, isResource, isLease⟩
      subst isHolder
      simpa [TaskPairResourceClaim.holder] using kept.2

/-! ## Claiming -/

theorem Agrees.tryClaim_cases {world : ClaimWorld} (agrees : world.Agrees) (input : ClaimInput) :
    let left := world.claims.dropEnded input.now
    let active := (world.claims.listActiveResourceClaims input.now).2
    ((world.leases.elapse input.now).Admits input.holder (trim input.resource) input.mode ∧
      world.claims.tryClaimResource input =
        (left.save (ResourceClaims.claimFor active input),
          .ok (ResourceClaims.claimFor active input))) ∨
    (¬ (world.leases.elapse input.now).Admits input.holder (trim input.resource) input.mode ∧
      ∃ existing, world.claims.tryClaimResource input = (left, .conflict existing)) := by
  intro left active
  have inForce := agrees.dropEnded input.now
  let claim := ResourceClaims.claimFor active input
  have unfolded : world.claims.tryClaimResource input =
      match active.find? fun claim =>
        claim.resource == trim input.resource && claim.holder != input.holder with
      | some existing =>
        if existing.mode = .exclusive ∨ input.mode = .exclusive then (left, .conflict existing)
        else (left.save claim, .ok claim)
      | none => (left.save claim, .ok claim) := rfl
  rw [unfolded]
  cases found : active.find? fun claim =>
      claim.resource == trim input.resource && claim.holder != input.holder with
  | none =>
    left
    refine ⟨?_, rfl⟩
    intro other lease different isHeld
    obtain ⟨row, stored, live, isHolder, isResource, _⟩ :=
      (inForce.row other (trim input.resource) lease).mp isHeld
    have listed : row.toTaskPairResourceClaim ∈ active := mem_listActive.mpr ⟨row, stored, rfl⟩
    have absent := List.find?_eq_none.mp found _ listed
    subst isHolder
    exact absurd (by simpa [isResource] using different) absent
  | some existing =>
    have listed : existing ∈ active := List.mem_of_find?_eq_some found
    have isOther := List.find?_some found
    simp only [Bool.and_eq_true, beq_iff_eq, bne_iff_ne, ne_eq] at isOther
    obtain ⟨row, stored, isRow⟩ := mem_listActive.mp listed
    subst isRow
    have live := (mem_dropEnded.mp stored).2.1
    have existingHeld := (inForce.row row.holder (trim input.resource)
      ⟨row.mode, row.expiresAt⟩).mpr ⟨row, stored, live, rfl, isOther.1, rfl⟩
    dsimp only
    by_cases conflicts : row.mode = .exclusive ∨ input.mode = .exclusive
    · right
      rw [if_pos conflicts]
      refine ⟨?_, _, rfl⟩
      intro admits
      have shared := admits row.holder _ isOther.2 existingHeld
      rcases conflicts with isExclusive | isExclusive
      · rw [isExclusive] at shared
        cases shared.1
      · rw [isExclusive] at shared
        cases shared.2
    · left
      rw [if_neg conflicts]
      refine ⟨?_, rfl⟩
      have isShared : row.mode = .shared ∧ input.mode = .shared := by
        cases hRow : row.mode <;> cases hInput : input.mode <;> simp [hRow, hInput] at conflicts ⊢
      intro other lease different isHeld
      refine ⟨?_, isShared.2⟩
      by_cases sameHolder : other = row.holder
      · subst sameHolder
        cases isHeld.symm.trans existingHeld
        exact isShared.1
      · exact inForce.exclusive other row.holder _ lease _ sameHolder isHeld existingHeld

theorem claimFor_cases {claims : ResourceClaims} (input : ClaimInput) :
    let active := (claims.listActiveResourceClaims input.now).2
    (∃ same ∈ claims.dropEnded input.now, same.holder = input.holder ∧
      same.resource = trim input.resource ∧
        ResourceClaims.claimFor active input = (same.renewed input).toTaskPairResourceClaim) ∨
    ((∀ row ∈ claims.dropEnded input.now,
        ¬ (row.holder = input.holder ∧ row.resource = trim input.resource)) ∧
      (ResourceClaims.claimFor active input).holder = input.holder ∧
      (ResourceClaims.claimFor active input).resource = trim input.resource ∧
      (ResourceClaims.claimFor active input).claimId =
        input.holder.claimId (trim input.resource) ∧
      (ResourceClaims.claimFor active input).mode = input.mode ∧
      (ResourceClaims.claimFor active input).expiresAt = input.now + input.ttlMs) := by
  intro active
  unfold ResourceClaims.claimFor
  cases found : active.find? fun claim =>
      claim.resource == trim input.resource && claim.holder == input.holder with
  | some same =>
    left
    have isSame := List.find?_some found
    simp only [Bool.and_eq_true, beq_iff_eq] at isSame
    obtain ⟨row, stored, isRow⟩ := mem_listActive.mp (List.mem_of_find?_eq_some found)
    subst isRow
    exact ⟨row, stored, isSame.2, isSame.1, rfl⟩
  | none =>
    right
    refine ⟨?_, rfl, rfl, rfl, rfl, rfl⟩
    intro row stored isOwn
    have absent := List.find?_eq_none.mp found _ (mem_listActive.mpr ⟨row, stored, rfl⟩)
    simp [isOwn.1, isOwn.2] at absent

theorem mem_save_fresh {claims : ResourceClaims} {claim : TaskPairResourceClaim}
    {row : ResourceClaimRow} (fresh : ∀ old ∈ claims, old.claimId ≠ claim.claimId) :
    row ∈ claims.save claim ↔ row ∈ claims ∨ row = ⟨claim, none⟩ := by
  unfold ResourceClaims.save
  cases inserted : claims.insert ⟨claim, none⟩ with
  | some after => exact Table.mem_insert inserted
  | none =>
    obtain ⟨old, stored, sameId⟩ := Table.insert_eq_none_iff.mp inserted
    exact absurd sameId (fresh old stored)

theorem mem_save_taken {claims : ResourceClaims} {claim : TaskPairResourceClaim}
    {row taken : ResourceClaimRow} (stored : taken ∈ claims)
    (sameId : taken.claimId = claim.claimId) :
    row ∈ claims.save claim ↔ (row ∈ claims ∧ row.claimId ≠ claim.claimId) ∨
      row = { taken with
        renewedAt := claim.renewedAt
        expiresAt := claim.expiresAt
        releasedAt := none } := by
  unfold ResourceClaims.save
  cases inserted : claims.insert ⟨claim, none⟩ with
  | some after => exact absurd sameId ((Table.insert_eq_some inserted).2 taken stored)
  | none =>
    dsimp only
    rw [Table.mem_updateWhere]
    constructor
    · intro ⟨old, oldStored, isRow⟩
      by_cases oldTaken : old.claimId = claim.claimId
      · right
        have isTaken : old = taken :=
          Table.eq_of_key oldStored stored (oldTaken.trans sameId.symm)
        subst isTaken
        rw [if_pos (by simpa using oldTaken)] at isRow
        exact isRow.symm
      · left
        rw [if_neg (by simpa using oldTaken)] at isRow
        subst isRow
        exact ⟨oldStored, oldTaken⟩
    · intro isRow
      rcases isRow with ⟨rowStored, different⟩ | isRow
      · exact ⟨row, rowStored, if_neg (by simpa using different)⟩
      · subst isRow
        exact ⟨taken, stored, if_pos (by simpa using sameId)⟩

section
variable {claims : ResourceClaims} {leases : LeaseBook ClaimHolder String Int}
  {input : ClaimInput} {same : ResourceClaimRow}

theorem Agrees.renewed (agrees : Agrees ⟨claims, leases⟩)
    (admits : leases.Admits input.holder (trim input.resource) input.mode)
    (stored : same ∈ claims) (live : same.releasedAt = none) (isHolder : same.holder = input.holder)
    (isResource : same.resource = trim input.resource)
    (noUpgrade : input.mode = .exclusive → same.mode = .exclusive) :
    Agrees ⟨claims.save (same.renewed input).toTaskPairResourceClaim,
      leases.take input.holder (trim input.resource) input.mode (input.now + input.ttlMs)⟩ := by
  have isId : same.claimId = input.holder.claimId (trim input.resource) := by
    rw [agrees.id same stored live, isHolder, isResource]
  have saved : ∀ row, row ∈ claims.save (same.renewed input).toTaskPairResourceClaim ↔
      (row ∈ claims ∧ row.claimId ≠ same.claimId) ∨ row = same.renewed input :=
    fun row => mem_save_taken stored rfl
  have isMode : leases.modeAfter input.holder (trim input.resource) input.mode = same.mode := by
    have own : leases input.holder (trim input.resource) = some ⟨same.mode, same.expiresAt⟩ :=
      (agrees.row _ _ _).mpr ⟨same, stored, live, isHolder, isResource, rfl⟩
    unfold LeaseBook.modeAfter
    rw [own]
    dsimp only
    cases hSame : same.mode with
    | exclusive => rfl
    | shared =>
      cases hInput : input.mode with
      | shared => rfl
      | exclusive => simp [noUpgrade hInput] at hSame
  refine ⟨?_, ?_, agrees.exclusive.take admits⟩
  · intro row isSaved isLive
    rcases (saved row).mp isSaved with ⟨kept, _⟩ | isRow
    · exact agrees.id row kept isLive
    · subst isRow
      exact agrees.id same stored live
  · intro holder resource lease
    by_cases isOwn : holder = input.holder ∧ resource = trim input.resource
    · obtain ⟨sameHolder, sameResource⟩ := isOwn
      subst sameHolder sameResource
      dsimp only
      rw [LeaseBook.take_self, isMode]
      constructor
      · intro isLease
        cases isLease
        exact ⟨same.renewed input, (saved _).mpr (.inr rfl), rfl, isHolder, isResource, rfl⟩
      · intro ⟨row, isSaved, isLive, ofHolder, ofResource, isLease⟩
        rcases (saved row).mp isSaved with ⟨kept, different⟩ | isRow
        · have rowId := agrees.id row kept isLive
          rw [ofHolder, ofResource, ← isId] at rowId
          exact absurd rowId different
        · subst isRow
          rw [← isLease]
          rfl
    · dsimp only
      rw [LeaseBook.take_other isOwn]
      refine (agrees.row holder resource lease).trans ?_
      constructor
      · intro ⟨row, kept, isLive, ofHolder, ofResource, isLease⟩
        refine ⟨row, (saved row).mpr (.inl ⟨kept, ?_⟩), isLive, ofHolder, ofResource, isLease⟩
        intro sameId
        have isSame : row = same := Table.eq_of_key kept stored sameId
        subst isSame
        exact isOwn ⟨ofHolder.symm.trans isHolder, ofResource.symm.trans isResource⟩
      · intro ⟨row, isSaved, isLive, ofHolder, ofResource, isLease⟩
        rcases (saved row).mp isSaved with ⟨kept, _⟩ | isRow
        · exact ⟨row, kept, isLive, ofHolder, ofResource, isLease⟩
        · subst isRow
          exact absurd ⟨ofHolder.symm.trans isHolder, ofResource.symm.trans isResource⟩ isOwn

theorem Agrees.claimed {claim : TaskPairResourceClaim} (agrees : Agrees ⟨claims, leases⟩)
    (admits : leases.Admits input.holder (trim input.resource) input.mode)
    (fresh : ∀ old ∈ claims, old.claimId ≠ claim.claimId)
    (unheld : leases input.holder (trim input.resource) = none)
    (isHolder : claim.holder = input.holder) (isResource : claim.resource = trim input.resource)
    (isId : claim.claimId = input.holder.claimId (trim input.resource))
    (isMode : claim.mode = input.mode) (isExpiry : claim.expiresAt = input.now + input.ttlMs) :
    Agrees ⟨claims.save claim,
      leases.take input.holder (trim input.resource) input.mode (input.now + input.ttlMs)⟩ := by
  have modeAfter : leases.modeAfter input.holder (trim input.resource) input.mode = input.mode := by
    unfold LeaseBook.modeAfter
    rw [unheld]
  refine ⟨?_, ?_, agrees.exclusive.take admits⟩
  · intro row isSaved isLive
    rcases (mem_save_fresh fresh).mp isSaved with kept | isRow
    · exact agrees.id row kept isLive
    · subst isRow
      change claim.claimId = claim.holder.claimId claim.resource
      rw [isId, isHolder, isResource]
  · intro holder resource lease
    by_cases isOwn : holder = input.holder ∧ resource = trim input.resource
    · obtain ⟨sameHolder, sameResource⟩ := isOwn
      subst sameHolder sameResource
      dsimp only
      rw [LeaseBook.take_self, modeAfter, ← isMode, ← isExpiry]
      constructor
      · intro isLease
        cases isLease
        exact ⟨⟨claim, none⟩, (mem_save_fresh fresh).mpr (.inr rfl), rfl, isHolder, isResource, rfl⟩
      · intro ⟨row, isSaved, isLive, ofHolder, ofResource, isLease⟩
        rcases (mem_save_fresh fresh).mp isSaved with kept | isRow
        · have held := (agrees.row _ _ _).mpr ⟨row, kept, isLive, ofHolder, ofResource, rfl⟩
          cases unheld.symm.trans held
        · subst isRow
          rw [← isLease]
    · dsimp only
      rw [LeaseBook.take_other isOwn]
      refine (agrees.row holder resource lease).trans ?_
      constructor
      · intro ⟨row, kept, isLive, ofHolder, ofResource, isLease⟩
        exact ⟨row, (mem_save_fresh fresh).mpr (.inl kept), isLive, ofHolder, ofResource, isLease⟩
      · intro ⟨row, isSaved, isLive, ofHolder, ofResource, isLease⟩
        rcases (mem_save_fresh fresh).mp isSaved with kept | isRow
        · exact ⟨row, kept, isLive, ofHolder, ofResource, isLease⟩
        · subst isRow
          exact absurd ⟨ofHolder.symm.trans isHolder, ofResource.symm.trans isResource⟩ isOwn

end

/-! ## A call -/

section
variable {world : ClaimWorld}

theorem Agrees.granted {input : ClaimInput} (agrees : world.Agrees)
    (admits : (world.leases.elapse input.now).Admits input.holder (trim input.resource) input.mode)
    (apart : world.ClaimsApart (.tryClaim input)) : (world.step (.tryClaim input)).Agrees := by
  have left := agrees.dropEnded input.now
  obtain ⟨noUpgrade, alone⟩ := apart admits
  rcases agrees.tryClaim_cases input with ⟨_, granted⟩ | ⟨refused, _⟩
  · unfold step
    dsimp only
    rw [granted]
    dsimp only
    rcases @claimFor_cases world.claims input with
      ⟨same, stored, isHolder, isResource, isClaim⟩ |
        ⟨noOwn, isHolder, isResource, isId, isMode, isExpiry⟩
    · have live := (mem_dropEnded.mp stored).2.1
      rw [isClaim]
      refine left.renewed admits stored live isHolder isResource ?_
      intro isExclusive
      exact noUpgrade isExclusive ⟨same.mode, same.expiresAt⟩
        ((left.row _ _ _).mpr ⟨same, stored, live, isHolder, isResource, rfl⟩)
    · rw [isExpiry]
      refine left.claimed admits ?_ ?_ isHolder isResource isId isMode isExpiry
      · intro old stored sameId
        have live := (mem_dropEnded.mp stored).2.1
        have held := (left.row old.holder old.resource ⟨old.mode, old.expiresAt⟩).mpr
          ⟨old, stored, live, rfl, rfl, rfl⟩
        have oldId := left.id old stored live
        rw [sameId, isId] at oldId
        exact noOwn old stored (alone old.holder old.resource _ held oldId.symm)
      · cases own : (world.leases.elapse input.now) input.holder (trim input.resource) with
        | none => rfl
        | some lease =>
          obtain ⟨row, stored, _, ofHolder, ofResource, _⟩ := (left.row _ _ _).mp own
          exact absurd ⟨ofHolder, ofResource⟩ (noOwn row stored)
  · exact absurd admits refused

theorem Agrees.step (agrees : world.Agrees) (call : ClaimCall) (apart : world.ClaimsApart call) :
    (world.step call).Agrees := by
  cases call with
  | tryClaim input =>
    rcases agrees.tryClaim_cases input with ⟨admits, _⟩ | ⟨_, existing, refused⟩
    · exact agrees.granted admits apart
    · unfold ClaimWorld.step
      dsimp only
      rw [refused]
      exact agrees.dropEnded input.now
  | release project taskId now => exact agrees.release project taskId now
  | list now => exact agrees.dropEnded now

theorem Agrees.apart_of_stored {input : ClaimInput} (agrees : world.Agrees)
    (stores : (world.step (.tryClaim input)).StoresLeases) :
    world.ClaimsApart (.tryClaim input) := by
  intro admits
  have left := agrees.dropEnded input.now
  rcases agrees.tryClaim_cases input with ⟨_, granted⟩ | ⟨refused, _⟩
  · unfold StoresLeases ClaimWorld.step at stores
    dsimp only at stores
    rw [granted] at stores
    dsimp only at stores
    obtain ⟨row, isSaved, isLive, ofHolder, ofResource, ofMode⟩ :=
      stores input.holder (trim input.resource) _ LeaseBook.take_self
    -- A row under an id is the only one, and says whose it is.
    have isOf : ∀ holder other lease, world.leases.elapse input.now holder other = some lease →
        ∃ stored ∈ world.claims.dropEnded input.now, stored.releasedAt = none ∧
          stored.holder = holder ∧ stored.resource = other ∧ stored.mode = lease.mode ∧
          stored.claimId = holder.claimId other := by
      intro holder other lease isHeld
      obtain ⟨stored, kept, live, isHolder, isResource, isLease⟩ := (left.row _ _ _).mp isHeld
      refine ⟨stored, kept, live, isHolder, isResource, congrArg Lease.mode isLease, ?_⟩
      rw [left.id stored kept live, isHolder, isResource]
    rcases @claimFor_cases world.claims input with
      ⟨same, kept, isHolder, isResource, isClaim⟩ | ⟨noOwn, _, _, isId, _, _⟩
    · have sameId : same.claimId = input.holder.claimId (trim input.resource) := by
        rw [left.id same kept (mem_dropEnded.mp kept).2.1, isHolder, isResource]
      rw [isClaim] at isSaved
      constructor
      · intro isExclusive own isOwn
        have isMode : same.mode = .exclusive := by
          have after : row.mode = .exclusive := by
            rw [ofMode]
            unfold LeaseBook.modeAfter
            rw [isOwn]
            dsimp only
            rw [isExclusive, ite_self]
          have savedId : same.claimId = (same.renewed input).claimId := rfl
          rcases (mem_save_taken kept savedId).mp isSaved with ⟨stays, different⟩ | isRow
          · have rowId := left.id row stays isLive
            rw [ofHolder, ofResource, ← sameId] at rowId
            exact absurd rowId different
          · subst isRow
            exact after
        obtain ⟨stored, stays, _, _, _, ofOwn, ownId⟩ := isOf _ _ _ isOwn
        have isSame : stored = same := Table.eq_of_key stays kept (ownId.trans sameId.symm)
        rw [← ofOwn, isSame, isMode]
      · intro holder other lease isHeld sharesId
        obtain ⟨stored, stays, _, storedHolder, storedResource, _, storedId⟩ := isOf _ _ _ isHeld
        have isSame : stored = same :=
          Table.eq_of_key stays kept ((storedId.trans sharesId).trans sameId.symm)
        subst isSame
        exact ⟨storedHolder.symm.trans isHolder, storedResource.symm.trans isResource⟩
    · constructor
      · intro _ own isOwn
        obtain ⟨stored, stays, _, storedHolder, storedResource, _⟩ := isOf _ _ _ isOwn
        exact absurd ⟨storedHolder, storedResource⟩ (noOwn stored stays)
      · intro holder other lease isHeld sharesId
        obtain ⟨stored, stays, _, _, _, _, storedId⟩ := isOf _ _ _ isHeld
        have taken := (storedId.trans sharesId).trans isId.symm
        rcases (mem_save_taken stays taken).mp isSaved with ⟨isOld, _⟩ | isRow
        · exact absurd ⟨ofHolder, ofResource⟩ (noOwn row isOld)
        · subst isRow
          exact absurd ⟨ofHolder, ofResource⟩ (noOwn stored stays)
  · exact absurd admits refused

theorem Agrees.claimsExclude_iff (agrees : world.Agrees) (call : ClaimCall) :
    world.ClaimsExclude call ↔ world.ClaimsApart call := by
  constructor
  · intro excludes
    cases call with
    | tryClaim input => exact agrees.apart_of_stored excludes.2
    | release project taskId now => trivial
    | list now => trivial
  · intro apart
    refine ⟨?_, (agrees.step call apart).storesLeases⟩
    intro input claim isCall granted
    rcases agrees.tryClaim_cases input with ⟨admits, _⟩ | ⟨_, existing, refused⟩
    · exact admits
    · rw [refused] at granted
      cases granted

end

/-- In a run of claims, releases and looks, every claim is granted only beside claims it is
compatible with and every claim in force is stored as what it is, exactly if no request the
claims in force admit is an upgrade of a shared claim or has the id of another's. -/
theorem claims_exclude_iff (calls : List ClaimCall) :
    Meets step ClaimsExclude empty calls ↔ Meets step ClaimsApart empty calls := by
  refine meets_iff_meets ?_ ?_ agrees_empty calls
  · intro world call agrees
    exact agrees.claimsExclude_iff call
  · intro world call agrees apart
    exact agrees.step call apart

/-! ## An upgrade -/

def sharer : ClaimHolder := ⟨"proj", "T1", "deck_a"⟩

/-- A holder takes a resource shared, then alone, and both answers are ok; then another holder
asks to share it. -/
def upgradedClaims : List ClaimCall :=
  [.tryClaim ⟨sharer, "gpu", .shared, 60000, 0⟩,
    .tryClaim ⟨sharer, "gpu", .exclusive, 60000, 1⟩,
    .tryClaim ⟨⟨"proj", "T2", "deck_b"⟩, "gpu", .shared, 60000, 2⟩]

theorem upgraded_claim_not_exclusive : ¬ Meets step ClaimsExclude empty upgradedClaims := by
  intro meets
  obtain ⟨-, -, ⟨excludes, -⟩, -⟩ := meets
  have held : ((run step empty (upgradedClaims.take 2)).leases.elapse 2) sharer (trim "gpu") =
      some ⟨.exclusive, 60001⟩ := by
    decide +kernel
  have granted : ((run step empty (upgradedClaims.take 2)).claims.tryClaimResource
      ⟨⟨"proj", "T2", "deck_b"⟩, "gpu", .shared, 60000, 2⟩).2 =
        .ok ⟨"proj:T2:gpu:deck_b", "proj", "T2", "deck_b", "gpu", .shared, 2, 2, 60002⟩ := by
    decide +kernel
  have shared := excludes _ _ rfl granted sharer _ (by decide) held
  cases shared.1

end ClaimWorld

end ImCodes.TaskPair
