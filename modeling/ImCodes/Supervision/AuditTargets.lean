import ImCodes.Library.Dictionary
import ImCodes.Library.Run
import ImCodes.Library.Text

/-!
# Reservations of auditor sessions

An automatic audit claims a ready session before the availability signal shows that it is
busy. A claim is speculative until the durable record confirms it; a speculative claim ends by
its time, a confirmed one by the record. The calls share one map, and `Exclusion` says what a
granted claim is worth in every run of them.
-/

set_option autoImplicit false

namespace ImCodes.Supervision.AuditTargetReservations

open Library

def auditTargetReservationTtlMs : Int := 60000

structure AuditTargetClaim where
  target : String
  ownerKey : String

structure AuditTargetReservation where
  ownerKey : String
  reservedAt : Int
  /-- Backed by a live auditor assignment. -/
  authoritative : Bool
deriving DecidableEq

abbrev Reservations := Dictionary String AuditTargetReservation

def expired (reservation : AuditTargetReservation) (now : Int) : Bool :=
  if reservation.authoritative then false
  else decide (now - reservation.reservedAt ≥ auditTargetReservationTtlMs)

/-- Whether the claim is granted, and the reservations after it. -/
def reserveAuditTarget (reservations : Reservations) (target ownerKey : String) (now : Int) :
    Bool × Reservations :=
  match reservations.get? target with
  | some held =>
    if held.ownerKey ≠ ownerKey ∧ expired held now = false then (false, reservations)
    else if held.ownerKey = ownerKey then (true, reservations)
    else (true, reservations.put target ⟨ownerKey, now, false⟩)
  | none => (true, reservations.put target ⟨ownerKey, now, false⟩)

def releaseAuditTarget (reservations : Reservations) (ownerKey : String) : Reservations :=
  reservations.deleteWhere fun entry => decide (entry.2.ownerKey = ownerKey)

def isAuditTargetReservedByOther (reservations : Reservations) (target ownerKey : String)
    (now : Int) : Bool :=
  match reservations.get? target with
  | some held => decide (held.ownerKey ≠ ownerKey) && !expired held now
  | none => false

/-- The argument of `reconcileAuditTargetReservations`. No list of claims means that the
durable record could not be read. -/
structure Reconciliation where
  now : Int
  readyTargets : List String
  authoritativeClaims : Option (List AuditTargetClaim)

namespace Reconciliation

/-- One claim of the durable record taken into the map of owners. -/
def addClaim (input : Reconciliation) (byTarget : Dictionary String String)
    (claim : AuditTargetClaim) : Dictionary String String :=
  let target := trim claim.target
  let ownerKey := trim claim.ownerKey
  if target = "" ∨ ownerKey = "" ∨ target ∉ input.readyTargets then byTarget
  else byTarget.put target ownerKey

def authoritativeByTarget (input : Reconciliation) : Dictionary String String :=
  (input.authoritativeClaims.getD []).foldl input.addClaim Table.empty

/-- What becomes of one reservation. -/
def visit (input : Reconciliation) (reservations : Reservations)
    (entry : String × AuditTargetReservation) : Reservations :=
  let (target, reservation) := entry
  match input.authoritativeByTarget.get? target with
  | some authoritativeOwner =>
    reservations.put target
      { ownerKey := authoritativeOwner
        reservedAt :=
          if reservation.ownerKey = authoritativeOwner then reservation.reservedAt
          else input.now
        authoritative := true }
  | none =>
    if reservation.authoritative then
      if input.authoritativeClaims.isSome ∨ target ∉ input.readyTargets then
        reservations.erase target
      else reservations
    else if expired reservation input.now = true ∨ target ∉ input.readyTargets then
      reservations.erase target
    else reservations

/-- A claim of the record on a target that has no reservation. -/
def adopt (input : Reconciliation) (reservations : Reservations) (entry : String × String) :
    Reservations :=
  let (target, ownerKey) := entry
  match reservations.get? target with
  | some _ => reservations
  | none => reservations.put target ⟨ownerKey, input.now, true⟩

end Reconciliation

def reconcileAuditTargetReservations (reservations : Reservations) (input : Reconciliation) :
    Reservations :=
  input.authoritativeByTarget.rows.foldl input.adopt
    (reservations.rows.foldl input.visit reservations)

inductive Request
  | reserve (target ownerKey : String) (now : Int)
  | release (ownerKey : String)
  | reconcile (input : Reconciliation)

def Request.time? : Request → Option Int
  | .reserve _ _ now => some now
  | .release _ => none
  | .reconcile input => some input.now

def step (reservations : Reservations) : Request → Reservations
  | .reserve target ownerKey now => (reserveAuditTarget reservations target ownerKey now).2
  | .release ownerKey => releaseAuditTarget reservations ownerKey
  | .reconcile input => reconcileAuditTargetReservations reservations input

def times (requests : List Request) : List Int :=
  requests.filterMap Request.time?

/-! ## What a claim is worth -/

def KeptFromOthers (reservations : Reservations) (target ownerKey : String) (now : Int) : Prop :=
  ∀ other, other ≠ ownerKey → isAuditTargetReservedByOther reservations target other now = true

/-- The request is no release by the owner and no reconciliation that drops or reassigns the
owner's claim. -/
def LeavesClaim (target ownerKey : String) (reservations : Reservations) : Request → Prop
  | .reserve _ _ _ => True
  | .release releasing => releasing ≠ ownerKey
  | .reconcile input =>
    ∃ claim, (reconcileAuditTargetReservations reservations input).get? target = some claim ∧
      claim.ownerKey = ownerKey

def AuditTargetClaim.Names (claim : AuditTargetClaim) (target ownerKey : String) : Prop :=
  trim claim.target = target ∧ trim claim.ownerKey = ownerKey ∧
    target ≠ "" ∧ ownerKey ≠ ""

/-- The target is ready, and the record is unknown or its last word on the target is the
owner. -/
def Reconciliation.Backs (input : Reconciliation) (target ownerKey : String) : Prop :=
  target ∈ input.readyTargets ∧
    (input.authoritativeClaims = none ∨
      ∃ earlier claim later, input.authoritativeClaims = some (earlier ++ claim :: later) ∧
        claim.Names target ownerKey ∧
        ∀ next ∈ later, ∀ other, next.Names target other → other = ownerKey)

/-- The owner does not release, and every reconciliation backs its claim. -/
def BacksClaim (target ownerKey : String) : Request → Prop
  | .reserve _ _ _ => True
  | .release releasing => releasing ≠ ownerKey
  | .reconcile input => input.Backs target ownerKey

def Reconciliation.NamesNobody (input : Reconciliation) (target : String) : Prop :=
  ∀ claim ∈ input.authoritativeClaims.getD [], ∀ ownerKey, ¬claim.Names target ownerKey

/-- What the claims of a run are worth. -/
structure Exclusion (start : Reservations) (requests : List Request) : Prop where
  /-- A granted claim is the one its owner had or starts now, and right after it keeps every
  other owner out unless its time is over. -/
  granted : ∀ earlier target ownerKey now later,
    requests = earlier ++ .reserve target ownerKey now :: later →
    (reserveAuditTarget (run step start earlier) target ownerKey now).1 = true →
    ∃ claim, (run step start (earlier ++ [.reserve target ownerKey now])).get? target =
        some claim ∧ claim.ownerKey = ownerKey ∧
      ((run step start earlier).get? target = some claim ∨ claim = ⟨ownerKey, now, false⟩) ∧
      (expired claim now = false → KeptFromOthers
        (run step start (earlier ++ [.reserve target ownerKey now])) target ownerKey now)
  /-- Who holds a claim is granted it again, and nothing changes. -/
  again : ∀ earlier target now later held,
    requests = earlier ++ .reserve target held.ownerKey now :: later →
    (run step start earlier).get? target = some held →
    reserveAuditTarget (run step start earlier) target held.ownerKey now =
      (true, run step start earlier)
  /-- It keeps them out until the owner releases it, a reconciliation drops or reassigns it, or
  its time is over. -/
  stays : ∀ earlier target ownerKey now later rest claim reading,
    requests = earlier ++ .reserve target ownerKey now :: (later ++ rest) →
    (reserveAuditTarget (run step start earlier) target ownerKey now).1 = true →
    (run step start (earlier ++ [.reserve target ownerKey now])).get? target = some claim →
    Meets step (LeavesClaim target ownerKey)
      (run step start (earlier ++ [.reserve target ownerKey now])) later →
    (∀ time ∈ times later, time ≤ reading) →
    reading < claim.reservedAt + auditTargetReservationTtlMs →
    KeptFromOthers (run step start (earlier ++ .reserve target ownerKey now :: later)) target
      ownerKey reading
  /-- A confirmed claim that stays backed is the owner's at every later time. -/
  confirmed : ∀ earlier later rest target claim, requests = earlier ++ (later ++ rest) →
    (run step start earlier).get? target = some claim → claim.authoritative = true →
    (∀ request ∈ later, BacksClaim target claim.ownerKey request) →
    ∃ kept, (run step start (earlier ++ later)).get? target = some kept ∧
      kept.ownerKey = claim.ownerKey ∧ kept.authoritative = true ∧
      ∀ reading, KeptFromOthers (run step start (earlier ++ later)) target claim.ownerKey reading
  /-- A reconciliation changes no speculative claim in its time on a ready target that the
  record does not name. -/
  speculative : ∀ earlier input later target claim,
    requests = earlier ++ .reconcile input :: later →
    (run step start earlier).get? target = some claim → claim.authoritative = false →
    expired claim input.now = false → target ∈ input.readyTargets → input.NamesNobody target →
    (run step start (earlier ++ [.reconcile input])).get? target = some claim

/-! ## The calls one by one -/

theorem isAuditTargetReservedByOther_iff {reservations : Reservations} {target ownerKey : String}
    {now : Int} :
    isAuditTargetReservedByOther reservations target ownerKey now = true ↔
      ∃ held, reservations.get? target = some held ∧ held.ownerKey ≠ ownerKey ∧
        expired held now = false := by
  unfold isAuditTargetReservedByOther
  cases reservations.get? target with
  | none => simp
  | some held => simp

theorem keptFromOthers_of_claim {reservations : Reservations} {target ownerKey : String}
    {now : Int} {claim : AuditTargetReservation}
    (stored : reservations.get? target = some claim) (owned : claim.ownerKey = ownerKey)
    (alive : expired claim now = false) : KeptFromOthers reservations target ownerKey now := by
  intro other differs
  rw [isAuditTargetReservedByOther_iff]
  exact ⟨claim, stored, owned ▸ Ne.symm differs, alive⟩

theorem expired_eq_false_iff {claim : AuditTargetReservation} {now : Int} :
    expired claim now = false ↔
      claim.authoritative = true ∨ now < claim.reservedAt + auditTargetReservationTtlMs := by
  unfold expired
  cases claim.authoritative with
  | false =>
    simp only [Bool.false_eq_true, if_false, decide_eq_false_iff_not, false_or]
    omega
  | true => simp

theorem reserveAuditTarget_cases (reservations : Reservations) (target ownerKey : String)
    (now : Int) :
    (∃ held, reservations.get? target = some held ∧ held.ownerKey = ownerKey ∧
        reserveAuditTarget reservations target ownerKey now = (true, reservations)) ∨
      ((∀ held, reservations.get? target = some held →
          held.ownerKey ≠ ownerKey ∧ expired held now = true) ∧
        reserveAuditTarget reservations target ownerKey now =
          (true, reservations.put target ⟨ownerKey, now, false⟩)) ∨
      ∃ held, reservations.get? target = some held ∧ held.ownerKey ≠ ownerKey ∧
        expired held now = false ∧
        reserveAuditTarget reservations target ownerKey now = (false, reservations) := by
  unfold reserveAuditTarget
  cases found : reservations.get? target with
  | none => simp
  | some held =>
    by_cases own : held.ownerKey = ownerKey
    · simp [own]
    · cases alive : expired held now with
      | false => simp [own, alive]
      | true => simp [own, alive]

@[simp] theorem get?_releaseAuditTarget {reservations : Reservations} {ownerKey target : String} :
    (releaseAuditTarget reservations ownerKey).get? target =
      (reservations.get? target).filter fun held => decide (held.ownerKey ≠ ownerKey) := by
  unfold Dictionary.get? releaseAuditTarget
  rw [Table.lookup_deleteWhere]
  cases reservations.lookup target with
  | none => rfl
  | some entry => by_cases own : entry.2.ownerKey = ownerKey <;> simp [Option.filter, own]

/-- A reservation that the record does not name outlives a reconciliation. -/
def Reconciliation.keeps (input : Reconciliation) (target : String)
    (reservation : AuditTargetReservation) : Bool :=
  decide (target ∈ input.readyTargets) &&
    if reservation.authoritative then !input.authoritativeClaims.isSome
    else !expired reservation input.now

/-- What a target that the record names has after a reconciliation. -/
def Reconciliation.named (input : Reconciliation) (held : Option AuditTargetReservation)
    (authoritativeOwner : String) : AuditTargetReservation where
  ownerKey := authoritativeOwner
  reservedAt :=
    match held with
    | some reservation =>
      if reservation.ownerKey = authoritativeOwner then reservation.reservedAt else input.now
    | none => input.now
  authoritative := true

private theorem visit_eq (input : Reconciliation) (reservations : Reservations)
    (target : String) (reservation : AuditTargetReservation) :
    input.visit reservations (target, reservation) =
      match input.authoritativeByTarget.get? target with
      | some authoritativeOwner =>
        reservations.put target (input.named (some reservation) authoritativeOwner)
      | none =>
        if input.keeps target reservation then reservations else reservations.erase target := by
  unfold Reconciliation.visit
  dsimp only
  cases input.authoritativeByTarget.get? target with
  | some authoritativeOwner => rfl
  | none =>
    dsimp only [Reconciliation.keeps]
    by_cases ready : target ∈ input.readyTargets
    · by_cases confirmed : reservation.authoritative = true
      · by_cases known : input.authoritativeClaims.isSome = true
        · simp [ready, confirmed, known]
        · simp [ready, confirmed, known]
      · by_cases past : expired reservation input.now = true
        · simp [ready, confirmed, past]
        · simp [ready, confirmed, past]
    · simp [ready]

/-- What a visit leaves at the target of the reservation it visits. -/
private def visited (input : Reconciliation) (target : String)
    (reservation : AuditTargetReservation) (held : Option AuditTargetReservation) :
    Option AuditTargetReservation :=
  match input.authoritativeByTarget.get? target with
  | some authoritativeOwner => some (input.named (some reservation) authoritativeOwner)
  | none => held.filter fun _ => input.keeps target reservation

private def adopted (input : Reconciliation) (_target ownerKey : String)
    (held : Option AuditTargetReservation) : Option AuditTargetReservation :=
  some (held.getD (input.named none ownerKey))

private theorem get?_visit (input : Reconciliation) (reservations : Reservations)
    (target : String) (reservation : AuditTargetReservation) (other : String) :
    (input.visit reservations (target, reservation)).get? other =
      if other = target then visited input target reservation (reservations.get? target)
      else reservations.get? other := by
  rw [visit_eq]
  unfold visited
  cases input.authoritativeByTarget.get? target with
  | some authoritativeOwner =>
    dsimp only
    rw [Dictionary.get?_put]
    simp only [eq_comm (a := target)]
  | none =>
    dsimp only
    by_cases same : other = target
    · subst same
      cases input.keeps other reservation <;>
        cases held : reservations.get? other <;> simp [Option.filter, held]
    · cases input.keeps target reservation <;> simp [same]

private theorem get?_adopt (input : Reconciliation) (reservations : Reservations)
    (target ownerKey other : String) :
    (input.adopt reservations (target, ownerKey)).get? other =
      if other = target then adopted input target ownerKey (reservations.get? target)
      else reservations.get? other := by
  unfold Reconciliation.adopt adopted
  dsimp only
  cases found : reservations.get? target with
  | some held =>
    by_cases same : other = target
    · subst same
      simp [found]
    · simp [same]
  | none =>
    dsimp only
    rw [Dictionary.get?_put]
    simp only [eq_comm (a := target), Option.getD_none]
    rfl

theorem get?_reconcileAuditTargetReservations (reservations : Reservations)
    (input : Reconciliation) (target : String) :
    (reconcileAuditTargetReservations reservations input).get? target =
      match input.authoritativeByTarget.get? target with
      | some authoritativeOwner =>
        some (input.named (reservations.get? target) authoritativeOwner)
      | none => (reservations.get? target).filter (input.keeps target) := by
  unfold reconcileAuditTargetReservations
  rw [Dictionary.get?_foldl_rows (get?_adopt input), Dictionary.get?_foldl_rows (get?_visit input)]
  cases recorded : input.authoritativeByTarget.get? target with
  | some authoritativeOwner =>
    cases reservations.get? target with
    | none => rfl
    | some reservation => simp [adopted, visited, recorded]
  | none =>
    cases reservations.get? target with
    | none => rfl
    | some reservation => simp [visited, recorded, Option.filter]

/-! ## What the record says -/

namespace Reconciliation

variable {input : Reconciliation} {target ownerKey : String}

private theorem get?_addClaim {byTarget : Dictionary String String} {claim : AuditTargetClaim} :
    (∃ owner, target ∈ input.readyTargets ∧ claim.Names target owner ∧
        (input.addClaim byTarget claim).get? target = some owner) ∨
      ((target ∈ input.readyTargets → ∀ owner, ¬claim.Names target owner) ∧
        (input.addClaim byTarget claim).get? target = byTarget.get? target) := by
  unfold addClaim
  dsimp only
  split
  · next skipped =>
      right
      refine ⟨?_, rfl⟩
      intro ready owner names
      obtain ⟨isTarget, isOwner, hasTarget, hasOwner⟩ := names
      rw [isTarget, isOwner] at skipped
      simp [hasTarget, hasOwner, ready] at skipped
  · next taken =>
      obtain ⟨hasTarget, hasOwner, ready⟩ : ¬trim claim.target = "" ∧ ¬trim claim.ownerKey = "" ∧
          trim claim.target ∈ input.readyTargets := by simpa [not_or] using taken
      by_cases same : trim claim.target = target
      · subst same
        left
        exact ⟨trim claim.ownerKey, ready, ⟨rfl, rfl, hasTarget, hasOwner⟩, by simp⟩
      · right
        refine ⟨fun _ owner names => same names.1, ?_⟩
        simp [same]

theorem authoritativeByTarget_eq_none (nobody : input.NamesNobody target) :
    input.authoritativeByTarget.get? target = none := by
  unfold authoritativeByTarget
  unfold NamesNobody at nobody
  generalize input.authoritativeClaims.getD [] = claims at nobody
  have skips : ∀ byTarget : Dictionary String String,
      (claims.foldl input.addClaim byTarget).get? target = byTarget.get? target := by
    induction claims with
    | nil => simp
    | cons claim rest ih =>
      intro byTarget
      rw [List.foldl_cons, ih fun later isLater => nobody later (by simp [isLater])]
      rcases get?_addClaim with ⟨owner, _, names, _⟩ | ⟨_, same⟩
      · exact absurd names (nobody claim (by simp) owner)
      · exact same
  exact skips Table.empty

theorem authoritativeByTarget_of_last {earlier later : List AuditTargetClaim}
    {claim : AuditTargetClaim} (ready : target ∈ input.readyTargets)
    (listed : input.authoritativeClaims = some (earlier ++ claim :: later))
    (names : claim.Names target ownerKey)
    (last : ∀ next ∈ later, ∀ other, next.Names target other → other = ownerKey) :
    input.authoritativeByTarget.get? target = some ownerKey := by
  unfold authoritativeByTarget
  rw [listed, Option.getD_some, List.foldl_append, List.foldl_cons]
  generalize earlier.foldl input.addClaim Table.empty = before
  have atClaim : (input.addClaim before claim).get? target = some ownerKey := by
    rcases get?_addClaim with ⟨owner, _, namesToo, found⟩ | ⟨unnamed, _⟩
    · rw [found, ← names.2.1, ← namesToo.2.1]
    · exact absurd names (unnamed ready ownerKey)
  generalize input.addClaim before claim = byTarget at atClaim
  clear listed names
  induction later generalizing byTarget with
  | nil => exact atClaim
  | cons next rest ih =>
    rw [List.foldl_cons]
    apply ih fun other isLater => last other (by simp [isLater])
    rcases get?_addClaim with ⟨owner, _, namesToo, found⟩ | ⟨_, same⟩
    · rw [found, last next (by simp) owner namesToo]
    · rw [same, atClaim]

end Reconciliation

/-! ## What a run keeps -/

private theorem get?_reserve_other {reservations : Reservations} {asked ownerKey target : String}
    {now : Int} (differs : asked ≠ target) :
    (reserveAuditTarget reservations asked ownerKey now).2.get? target =
      reservations.get? target := by
  rcases reserveAuditTarget_cases reservations asked ownerKey now with
    ⟨_, _, _, same⟩ | ⟨_, taken⟩ | ⟨_, _, _, _, same⟩
  · rw [same]
  · rw [taken]
    simp [differs]
  · rw [same]

private theorem get?_reserve_of_alive {reservations : Reservations} {asked ownerKey target : String}
    {now : Int} {claim : AuditTargetReservation} (stored : reservations.get? target = some claim)
    (alive : expired claim now = false) :
    (reserveAuditTarget reservations asked ownerKey now).2.get? target = some claim := by
  by_cases same : asked = target
  · subst same
    rcases reserveAuditTarget_cases reservations asked ownerKey now with
      ⟨_, _, _, same⟩ | ⟨past, _⟩ | ⟨_, _, _, _, same⟩
    · rw [same, stored]
    · rw [(past claim stored).2] at alive
      cases alive
    · rw [same, stored]
  · rw [get?_reserve_other same, stored]

private def ClaimedSince (target ownerKey : String) (startedAt : Int)
    (reservations : Reservations) : Prop :=
  ∃ claim, reservations.get? target = some claim ∧ claim.ownerKey = ownerKey ∧
    claim.reservedAt = startedAt

private theorem step_claimedSince {target ownerKey : String} {startedAt : Int}
    {reservations : Reservations} {request : Request}
    (inTime : ∀ time, request.time? = some time →
      time < startedAt + auditTargetReservationTtlMs)
    (leaves : LeavesClaim target ownerKey reservations request)
    (claimed : ClaimedSince target ownerKey startedAt reservations) :
    ClaimedSince target ownerKey startedAt (step reservations request) := by
  obtain ⟨claim, stored, owned, started⟩ := claimed
  cases request with
  | reserve asked asking now =>
    have alive : expired claim now = false :=
      expired_eq_false_iff.mpr (Or.inr (started ▸ inTime now rfl))
    exact ⟨claim, get?_reserve_of_alive stored alive, owned, started⟩
  | release releasing =>
    refine ⟨claim, ?_, owned, started⟩
    have differs : claim.ownerKey ≠ releasing := by
      rw [owned]
      exact Ne.symm leaves
    simp [step, stored, Option.filter, differs]
  | reconcile input =>
    obtain ⟨after, found, ownedAfter⟩ := leaves
    refine ⟨after, found, ownedAfter, ?_⟩
    rw [get?_reconcileAuditTargetReservations, stored] at found
    cases recorded : input.authoritativeByTarget.get? target with
    | some authoritativeOwner =>
      simp only [recorded, Option.some.injEq] at found
      subst found
      have same : claim.ownerKey = authoritativeOwner := owned.trans ownedAfter.symm
      simp [Reconciliation.named, same, started]
    | none =>
      simp only [recorded, Option.filter_eq_some_iff, Option.some.injEq] at found
      rw [← found.1, started]

private def Confirmed (target ownerKey : String) (reservations : Reservations) : Prop :=
  ∃ claim, reservations.get? target = some claim ∧ claim.ownerKey = ownerKey ∧
    claim.authoritative = true

private theorem step_confirmed {target ownerKey : String} {reservations : Reservations}
    {request : Request} (backs : BacksClaim target ownerKey request)
    (confirmed : Confirmed target ownerKey reservations) :
    Confirmed target ownerKey (step reservations request) := by
  obtain ⟨claim, stored, owned, authoritative⟩ := confirmed
  cases request with
  | reserve asked asking now =>
    have alive : expired claim now = false := expired_eq_false_iff.mpr (Or.inl authoritative)
    exact ⟨claim, get?_reserve_of_alive stored alive, owned, authoritative⟩
  | release releasing =>
    refine ⟨claim, ?_, owned, authoritative⟩
    have differs : claim.ownerKey ≠ releasing := by
      rw [owned]
      exact Ne.symm backs
    simp [step, stored, Option.filter, differs]
  | reconcile input =>
    obtain ⟨ready, unknown | ⟨earlier, named, later, listed, names, last⟩⟩ := backs
    · refine ⟨claim, ?_, owned, authoritative⟩
      have nobody : input.authoritativeByTarget.get? target = none := by
        apply Reconciliation.authoritativeByTarget_eq_none
        simp [Reconciliation.NamesNobody, unknown]
      simp [step, get?_reconcileAuditTargetReservations, nobody, stored, Option.filter,
        Reconciliation.keeps, ready, authoritative, unknown]
    · have recorded := Reconciliation.authoritativeByTarget_of_last ready listed names last
      refine ⟨input.named (some claim) ownerKey, ?_, rfl, rfl⟩
      simp [step, get?_reconcileAuditTargetReservations, recorded, stored]

private theorem speculative_kept {reservations : Reservations} {input : Reconciliation}
    {target : String} {claim : AuditTargetReservation}
    (stored : reservations.get? target = some claim) (speculative : claim.authoritative = false)
    (alive : expired claim input.now = false) (ready : target ∈ input.readyTargets)
    (nobody : input.NamesNobody target) :
    (reconcileAuditTargetReservations reservations input).get? target = some claim := by
  have unnamed := Reconciliation.authoritativeByTarget_eq_none nobody
  simp [get?_reconcileAuditTargetReservations, unnamed, stored, Option.filter,
    Reconciliation.keeps, ready, speculative, alive]

private theorem granted_claim {reservations : Reservations} {target ownerKey : String} {now : Int}
    (granted : (reserveAuditTarget reservations target ownerKey now).1 = true) :
    ∃ claim, (reserveAuditTarget reservations target ownerKey now).2.get? target = some claim ∧
      claim.ownerKey = ownerKey ∧
        (reservations.get? target = some claim ∨ claim = ⟨ownerKey, now, false⟩) := by
  rcases reserveAuditTarget_cases reservations target ownerKey now with
    ⟨held, stored, owned, same⟩ | ⟨_, taken⟩ | ⟨_, _, _, _, denied⟩
  · exact ⟨held, by rw [same, stored], owned, Or.inl stored⟩
  · exact ⟨_, by rw [taken, Dictionary.get?_put, if_pos rfl], rfl, Or.inr rfl⟩
  · rw [denied] at granted
    cases granted

/-- A granted claim keeps every other owner out until it is given up or its time is over; a
confirmed one does while it is backed; and a reconciliation leaves the rest alone. -/
theorem auditClaims_exclude (start : Reservations) (requests : List Request) :
    Exclusion start requests := by
  constructor
  · intro earlier target ownerKey now later _ granted
    obtain ⟨claim, stored, owned, origin⟩ := granted_claim granted
    have after : (run step start (earlier ++ [.reserve target ownerKey now])).get? target =
        some claim := by
      rw [run_append]
      exact stored
    exact ⟨claim, after, owned, origin, keptFromOthers_of_claim after owned⟩
  · intro earlier target now later held _ stored
    simp [reserveAuditTarget, stored]
  · intro earlier target ownerKey now later rest claim reading _ granted after leaves inOrder inTime
    obtain ⟨stored, isStored, owned, _⟩ := granted_claim granted
    have same : stored = claim := by
      rw [run_append] at after
      exact Option.some.inj (isStored.symm.trans after)
    subst same
    have timely : ∀ request ∈ later, ∀ time, request.time? = some time →
        time < stored.reservedAt + auditTargetReservationTtlMs := by
      intro request isLater time isTime
      have bounded := inOrder time (List.mem_filterMap.mpr ⟨request, isLater, isTime⟩)
      omega
    have kept := run_invariant
      (fun reservations request allowed => step_claimedSince allowed.1 allowed.2)
      ⟨stored, after, owned, rfl⟩ ((meets_and_iff timely).mpr leaves)
    obtain ⟨last, found, ownedLast, started⟩ := kept
    rw [← run_append, List.append_assoc, List.singleton_append] at found
    apply keptFromOthers_of_claim found ownedLast
    rw [expired_eq_false_iff, started]
    exact Or.inr inTime
  · intro earlier later rest target claim _ stored authoritative backs
    have kept : Confirmed target claim.ownerKey (run step start (earlier ++ later)) := by
      rw [run_append]
      exact run_invariant (fun reservations request => step_confirmed)
        ⟨claim, stored, rfl, authoritative⟩ (meets_of_each backs _)
    obtain ⟨last, found, owned, isAuthoritative⟩ := kept
    refine ⟨last, found, owned, isAuthoritative, ?_⟩
    intro reading
    exact keptFromOthers_of_claim found owned (expired_eq_false_iff.mpr (Or.inl isAuthoritative))
  · intro earlier input later target claim _ stored speculative alive ready nobody
    rw [run_append]
    exact speculative_kept stored speculative alive ready nobody

/-- A claim made again after its time is granted, and at that moment keeps nobody out. -/
theorem reserveAuditTarget_again_excludes_nobody :
    let claimed := run step Table.empty [.reserve "session" "first" 0]
    let again := reserveAuditTarget claimed "session" "first" 60000
    again.1 = true ∧
      isAuditTargetReservedByOther again.2 "session" "second" 60000 = false := by
  decide +kernel

end ImCodes.Supervision.AuditTargetReservations
