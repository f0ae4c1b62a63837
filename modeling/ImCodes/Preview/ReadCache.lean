import ImCodes.Library.Dictionary
import ImCodes.Library.Run
import Mathlib.Algebra.GroupWithZero.Nat
import Mathlib.Data.List.Induction
import Mathlib.Data.Nat.Basic
import Mathlib.Data.String.Basic

/-!
# The cache of preview reads

What a worker has read of a file is kept for a while under the path of the file, with the
signature the file had and the generation of the path. A path is invalidated by moving it to its
next generation, and what was asked for in an earlier one is not kept any more.
-/

set_option autoImplicit false

namespace ImCodes.Preview

open Library

abbrev NumberText := { text : String // ':' ∉ text.toList }

inductive PreviewReadPreviewKind
  | text | image | office | video | audio | tooLarge | unknown
deriving DecidableEq

structure PreviewReadClassification where
  previewKind : PreviewReadPreviewKind
  mimeType : Option String
  extension : Option String
  sizeLimitBytes : Nat
  /-- Whether `previewMode` is `stream`. -/
  streamed : Bool
  previewReason : Option String
deriving DecidableEq

structure PreviewReadWorkerStatView where
  mtimeMs : NumberText
  size : NumberText
deriving DecidableEq

/-- `createFileSignature`. -/
def createFileSignature (stats : PreviewReadWorkerStatView) : String :=
  stats.mtimeMs.1 ++ ":" ++ stats.size.1

inductive PreviewReadSnapshotPayload
  | text (content : String)
  | base64 (content mimeType : String)
  | stream (mimeType : String) (size : NumberText)
  | unavailable (error : String) (previewReason : Option String)
deriving DecidableEq

structure PreviewReadSnapshotSuccess where
  realPath : String
  startStats : PreviewReadWorkerStatView
  endStats : PreviewReadWorkerStatView
  fileName : String
  classification : PreviewReadClassification
  payload : PreviewReadSnapshotPayload
deriving DecidableEq

def PreviewReadSnapshotSuccess.startSignature (snapshot : PreviewReadSnapshotSuccess) : String :=
  createFileSignature snapshot.startStats

def PreviewReadSnapshotSuccess.endSignature (snapshot : PreviewReadSnapshotSuccess) : String :=
  createFileSignature snapshot.endStats

structure PreviewReadCachedSnapshot where
  signature : String
  generation : Nat
  expiresAt : Nat
  bytes : Nat
  value : PreviewReadSnapshotSuccess
deriving DecidableEq

/-- What a cache is made with, and how the host resolves a path. -/
structure PreviewReadCacheHost where
  resolve : String → String
  resolve_resolve : ∀ path, resolve (resolve path) = resolve path
  ttlMs : Nat
  maxEntries : Nat
  maxBytes : Nat
  maxEntryBytes : Nat

/-- Entries go by their resolved paths, in the order in which they were written. -/
structure PreviewReadCacheFacade where
  fsReadCache : Dictionary String PreviewReadCachedSnapshot
  fsReadGenerations : Dictionary String Nat
  fsReadCacheBytes : Nat

/-- `estimateSnapshotBytes`. -/
def estimateSnapshotBytes (value : PreviewReadSnapshotSuccess) : Nat :=
  let baseBytes := value.realPath.utf8ByteSize + value.fileName.utf8ByteSize + 256
  match value.payload with
  | .text content => baseBytes + content.utf8ByteSize
  | .base64 content _ => baseBytes + content.utf8ByteSize
  | .stream _ _ | .unavailable _ _ => baseBytes

namespace PreviewReadCacheFacade

def empty : PreviewReadCacheFacade := ⟨Table.empty, Table.empty, 0⟩

variable (host : PreviewReadCacheHost)

def getGeneration (cache : PreviewReadCacheFacade) (realPath : String) : Nat :=
  (cache.fsReadGenerations.get? (host.resolve realPath)).getD 0

def bumpGeneration (cache : PreviewReadCacheFacade) (realPath : String) :
    PreviewReadCacheFacade :=
  let normalized := host.resolve realPath
  { cache with
    fsReadGenerations :=
      cache.fsReadGenerations.put normalized (cache.getGeneration host normalized + 1) }

def deleteCached (cache : PreviewReadCacheFacade) (normalizedPath : String) :
    PreviewReadCacheFacade :=
  match cache.fsReadCache.get? normalizedPath with
  | none => cache
  | some cached =>
    { cache with
      fsReadCache := cache.fsReadCache.erase normalizedPath
      fsReadCacheBytes := cache.fsReadCacheBytes - cached.bytes }

def sweepExpired (now : Nat) (cache : PreviewReadCacheFacade) : PreviewReadCacheFacade :=
  cache.fsReadCache.rows.foldl (fun cache entry =>
    if entry.2.expiresAt ≤ now then cache.deleteCached entry.1 else cache) cache

/-- What is kept of a path under a signature, and the cache after the sweep. The clock is read
for the sweep and once more. -/
def getCached (sweptAt now : Nat) (realPath signature : String) (cache : PreviewReadCacheFacade) :
    PreviewReadCacheFacade × Option PreviewReadSnapshotSuccess :=
  let swept := cache.sweepExpired sweptAt
  let normalized := host.resolve realPath
  match swept.fsReadCache.get? normalized with
  | none => (swept, none)
  | some cached =>
    if cached.expiresAt ≤ now then (swept.deleteCached normalized, none)
    else if cached.signature ≠ signature then (swept, none)
    else if cached.generation ≠ swept.getGeneration host normalized then (swept, none)
    else (swept, some cached.value)

def isWritebackEligible (cache : PreviewReadCacheFacade) (value : PreviewReadSnapshotSuccess)
    (generation : Nat) : Bool :=
  value.startSignature = value.endSignature && cache.getGeneration host value.realPath = generation

/-- The oldest entries go first; each round deletes one. -/
def evictOverLimit : Nat → PreviewReadCacheFacade → PreviewReadCacheFacade
  | 0, cache => cache
  | rounds + 1, cache =>
    if host.maxEntries < cache.fsReadCache.rows.length ∨
        host.maxBytes < cache.fsReadCacheBytes then
      match cache.fsReadCache.rows.head? with
      | none => cache
      | some oldest => evictOverLimit rounds (cache.deleteCached oldest.1)
    else cache

def setCached (normalizedPath : String) (cached : PreviewReadCachedSnapshot)
    (cache : PreviewReadCacheFacade) : PreviewReadCacheFacade :=
  { cache with
    fsReadCache := cache.fsReadCache.put normalizedPath cached
    fsReadCacheBytes := cache.fsReadCacheBytes + cached.bytes }

def writeSnapshot (sweptAt now : Nat) (value : PreviewReadSnapshotSuccess) (generation : Nat)
    (cache : PreviewReadCacheFacade) : PreviewReadCacheFacade :=
  let swept := cache.sweepExpired sweptAt
  if swept.isWritebackEligible host value generation then
    let normalized := host.resolve value.realPath
    let bytes := estimateSnapshotBytes value
    if host.maxEntryBytes < bytes ∨ host.maxEntries = 0 ∨ host.maxBytes = 0 then swept
    else
      let written := (swept.deleteCached normalized).setCached normalized
        ⟨value.startSignature, generation, now + host.ttlMs, bytes, value⟩
      evictOverLimit host written.fsReadCache.rows.length written
  else swept

def invalidatePath (realPath : String) (cache : PreviewReadCacheFacade) :
    PreviewReadCacheFacade :=
  let normalized := host.resolve realPath
  (cache.bumpGeneration host normalized).deleteCached normalized

/-! ## What is kept -/

/-- Nothing is kept that was not kept before, and no path has moved on. -/
structure Fewer (before after : PreviewReadCacheFacade) : Prop where
  generations : after.fsReadGenerations = before.fsReadGenerations
  entries : ∀ path cached, after.fsReadCache.get? path = some cached →
    before.fsReadCache.get? path = some cached

theorem Fewer.refl (cache : PreviewReadCacheFacade) : Fewer cache cache :=
  ⟨rfl, fun _ _ kept => kept⟩

theorem Fewer.trans {first second third : PreviewReadCacheFacade} (earlier : Fewer first second)
    (later : Fewer second third) : Fewer first third :=
  ⟨later.generations.trans earlier.generations,
    fun path cached kept => earlier.entries path cached (later.entries path cached kept)⟩

theorem deleteCached_fewer (cache : PreviewReadCacheFacade) (path : String) :
    Fewer cache (cache.deleteCached path) := by
  unfold deleteCached
  split
  · exact Fewer.refl cache
  · refine ⟨rfl, fun other cached kept => ?_⟩
    rw [Dictionary.get?_erase] at kept
    split at kept
    · cases kept
    · exact kept

theorem deleteCached_gone (cache : PreviewReadCacheFacade) (path : String) :
    (cache.deleteCached path).fsReadCache.get? path = none := by
  unfold deleteCached
  split
  · next none => exact none
  · exact Dictionary.get?_erase.trans (if_pos rfl)

theorem sweepExpired_fewer (now : Nat) (cache : PreviewReadCacheFacade) :
    Fewer cache (cache.sweepExpired now) := by
  unfold sweepExpired
  generalize cache.fsReadCache.rows = rows
  induction rows generalizing cache with
  | nil => exact Fewer.refl cache
  | cons entry rest ih =>
    rw [List.foldl_cons]
    split
    · exact (deleteCached_fewer cache entry.1).trans (ih _)
    · exact ih cache

theorem evictOverLimit_fewer (rounds : Nat) (cache : PreviewReadCacheFacade) :
    Fewer cache (evictOverLimit host rounds cache) := by
  induction rounds generalizing cache with
  | zero => exact Fewer.refl cache
  | succ rounds ih =>
    unfold evictOverLimit
    split
    · split
      · exact Fewer.refl cache
      · next oldest _ => exact (deleteCached_fewer cache oldest.1).trans (ih _)
    · exact Fewer.refl cache

variable {host}

theorem Fewer.getGeneration {before after : PreviewReadCacheFacade} (fewer : Fewer before after)
    (path : String) : after.getGeneration host path = before.getGeneration host path := by
  unfold PreviewReadCacheFacade.getGeneration
  rw [fewer.generations]

theorem getGeneration_resolve (cache : PreviewReadCacheFacade) (path : String) :
    cache.getGeneration host (host.resolve path) = cache.getGeneration host path := by
  unfold getGeneration
  rw [host.resolve_resolve]

theorem getCached_fewer (sweptAt now : Nat) (realPath signature : String)
    (cache : PreviewReadCacheFacade) :
    Fewer cache (cache.getCached host sweptAt now realPath signature).1 := by
  have swept := sweepExpired_fewer sweptAt cache
  unfold getCached
  dsimp only
  split
  · exact swept
  · split
    · exact swept.trans (deleteCached_fewer _ _)
    · split
      · exact swept
      · split
        · exact swept
        · exact swept

theorem getCached_eq_some {sweptAt now : Nat} {realPath signature : String}
    {cache : PreviewReadCacheFacade} {value : PreviewReadSnapshotSuccess}
    (found : (cache.getCached host sweptAt now realPath signature).2 = some value) :
    ∃ cached, cache.fsReadCache.get? (host.resolve realPath) = some cached ∧
      cached.value = value ∧ now < cached.expiresAt ∧ cached.signature = signature ∧
      cached.generation = cache.getGeneration host realPath := by
  have swept := sweepExpired_fewer sweptAt cache
  unfold getCached at found
  dsimp only at found
  split at found
  · cases found
  · next cached kept =>
      split at found
      · cases found
      · next fresh =>
        split at found
        · cases found
        · next sameSignature =>
            split at found
            · cases found
            · next sameGeneration =>
                refine ⟨cached, swept.entries _ _ kept, Option.some.inj found,
                  Nat.lt_of_not_le fresh, not_not.mp sameSignature, ?_⟩
                rw [← swept.getGeneration, ← getGeneration_resolve]
                exact not_not.mp sameGeneration

theorem writeSnapshot_kept {sweptAt now : Nat} {value : PreviewReadSnapshotSuccess}
    {generation : Nat} {cache : PreviewReadCacheFacade} :
    (cache.writeSnapshot host sweptAt now value generation).fsReadGenerations =
        cache.fsReadGenerations ∧
      ∀ path cached,
        (cache.writeSnapshot host sweptAt now value generation).fsReadCache.get? path = some cached →
          cache.fsReadCache.get? path = some cached ∨
            path = host.resolve value.realPath ∧ value.startSignature = value.endSignature ∧
              cached = ⟨value.startSignature, generation, now + host.ttlMs,
                estimateSnapshotBytes value, value⟩ := by
  have swept := sweepExpired_fewer sweptAt cache
  unfold writeSnapshot
  dsimp only
  split
  · next eligible =>
      have unchanged := of_decide_eq_true (Bool.and_eq_true_iff.mp eligible).1
      split
      · exact ⟨swept.generations, fun path cached kept => .inl (swept.entries path cached kept)⟩
      · have cleared := swept.trans (deleteCached_fewer _ (host.resolve value.realPath))
        have evicted := @evictOverLimit_fewer host
        refine ⟨(evicted _ _).generations.trans cleared.generations, fun path cached kept => ?_⟩
        have written := (evicted _ _).entries path cached kept
        rw [setCached, Dictionary.get?_put] at written
        split at written
        · next isPath =>
            cases written
            exact .inr ⟨isPath.symm, unchanged, rfl⟩
        · exact .inl (cleared.entries path cached written)
  · exact ⟨swept.generations, fun path cached kept => .inl (swept.entries path cached kept)⟩

theorem bumpGeneration_effect (cache : PreviewReadCacheFacade) (realPath path : String) :
    (cache.bumpGeneration host realPath).getGeneration host path =
      if host.resolve path = host.resolve realPath then cache.getGeneration host path + 1
      else cache.getGeneration host path := by
  unfold bumpGeneration getGeneration
  dsimp only
  rw [Dictionary.get?_put, host.resolve_resolve]
  by_cases same : host.resolve path = host.resolve realPath
  · rw [if_pos same, if_pos same.symm, same]
    rfl
  · rw [if_neg same, if_neg (Ne.symm same)]

theorem invalidatePath_fewer (cache : PreviewReadCacheFacade) (realPath : String) :
    Fewer (cache.bumpGeneration host (host.resolve realPath))
      (cache.invalidatePath host realPath) :=
  deleteCached_fewer _ _

/-! ## Runs -/

inductive CacheOperation
  | getCached (sweptAt now : Nat) (realPath signature : String)
  | bumpGeneration (realPath : String)
  | writeSnapshot (sweptAt now : Nat) (value : PreviewReadSnapshotSuccess) (generation : Nat)
  | invalidatePath (realPath : String)
  | clear
deriving DecidableEq

variable (host) in
def next (cache : PreviewReadCacheFacade) : CacheOperation → PreviewReadCacheFacade
  | .getCached sweptAt now realPath signature =>
    (cache.getCached host sweptAt now realPath signature).1
  | .bumpGeneration realPath => cache.bumpGeneration host realPath
  | .writeSnapshot sweptAt now value generation =>
    cache.writeSnapshot host sweptAt now value generation
  | .invalidatePath realPath => cache.invalidatePath host realPath
  | .clear => empty

variable (host) in
/-- The operation moves the path to its next generation. -/
def movesOn (realPath : String) : CacheOperation → Bool
  | .bumpGeneration other | .invalidatePath other => host.resolve realPath = host.resolve other
  | _ => false

theorem next_getGeneration (cache : PreviewReadCacheFacade) {operation : CacheOperation}
    (other : operation ≠ .clear) (path : String) :
    (cache.next host operation).getGeneration host path =
      cache.getGeneration host path + (if movesOn host path operation then 1 else 0) := by
  cases operation with
  | getCached sweptAt now realPath signature =>
    exact (getCached_fewer sweptAt now realPath signature cache).getGeneration path
  | bumpGeneration realPath =>
    rw [next, bumpGeneration_effect, movesOn]
    split <;> simp [*]
  | writeSnapshot sweptAt now value generation =>
    have same : (cache.writeSnapshot host sweptAt now value generation).fsReadGenerations =
      cache.fsReadGenerations := writeSnapshot_kept.1
    simp only [next, getGeneration, same, movesOn]
    rfl
  | invalidatePath realPath =>
    rw [next, (invalidatePath_fewer cache realPath).getGeneration, bumpGeneration_effect,
      host.resolve_resolve, movesOn]
    split <;> simp [*]
  | clear => cases other rfl

/-- The generation of a path counts how often a run has moved it on, up to the next `clear`. -/
theorem run_getGeneration {operations : List CacheOperation} (uncleared : .clear ∉ operations)
    (cache : PreviewReadCacheFacade) (path : String) :
    (run (next host) cache operations).getGeneration host path =
      cache.getGeneration host path + operations.countP (movesOn host path) := by
  induction operations generalizing cache with
  | nil => rfl
  | cons operation rest ih =>
    rw [List.mem_cons, not_or] at uncleared
    rw [run_cons, ih uncleared.2, next_getGeneration cache (Ne.symm uncleared.1),
      List.countP_cons, Nat.add_assoc, Nat.add_comm (List.countP _ _)]

variable (host) in
/-- What is kept of a path has been written in the run since the cache was last cleared, of a file
that did not change while it was read. -/
def IsWritten (operations : List CacheOperation) (path : String)
    (cached : PreviewReadCachedSnapshot) : Prop :=
  ∃ earlier sweptAt now value generation later,
    operations = earlier ++ .writeSnapshot sweptAt now value generation :: later ∧
    .clear ∉ later ∧ host.resolve value.realPath = path ∧ value.startSignature = value.endSignature ∧
    cached = ⟨value.startSignature, generation, now + host.ttlMs, estimateSnapshotBytes value,
      value⟩

theorem run_isWritten (operations : List CacheOperation) (path : String)
    (cached : PreviewReadCachedSnapshot)
    (kept : (run (next host) empty operations).fsReadCache.get? path = some cached) :
    IsWritten host operations path cached := by
  induction operations using List.reverseRecOn with
  | nil => cases kept
  | append_singleton before operation ih =>
    have earlier : operation ≠ .clear →
        (run (next host) empty before).fsReadCache.get? path = some cached →
        IsWritten host (before ++ [operation]) path cached := by
      intro other old
      obtain ⟨earlier, sweptAt, now, value, generation, later, isRun, uncleared, facts⟩ := ih old
      exact ⟨earlier, sweptAt, now, value, generation, later ++ [operation], by simp [isRun],
        by simp [uncleared, Ne.symm other], facts⟩
    rw [run_append, run_cons, run_nil] at kept
    cases operation with
    | getCached sweptAt now realPath signature =>
      exact earlier nofun
        ((getCached_fewer sweptAt now realPath signature _).entries path cached kept)
    | bumpGeneration realPath => exact earlier nofun kept
    | writeSnapshot sweptAt now value generation =>
      rcases writeSnapshot_kept.2 path cached kept with old | ⟨isPath, unchanged, isEntry⟩
      · exact earlier nofun old
      · exact ⟨before, sweptAt, now, value, generation, [], rfl, List.not_mem_nil, isPath.symm,
          unchanged, isEntry⟩
    | invalidatePath realPath =>
      exact earlier nofun ((invalidatePath_fewer _ realPath).entries path cached kept)
    | clear => cases kept

variable (host) in
/-- Each snapshot is written with the generation its path had when it was asked for, at some point
before, and the cache is not cleared in between. -/
def AskedBefore (operations : List CacheOperation) : Prop :=
  ∀ earlier sweptAt now value generation later,
    operations = earlier ++ .writeSnapshot sweptAt now value generation :: later →
      ∃ asked waiting, earlier = asked ++ waiting ∧ .clear ∉ waiting ∧
        generation = (run (next host) empty asked).getGeneration host value.realPath

/-- A preview that is served was read of this path from a file that had this signature before and
after, is younger than the time to live, and was asked for since the path was last moved on and
the cache last cleared, however late it came. -/
theorem served_preview_is_current {operations : List CacheOperation} {sweptAt now : Nat}
    {realPath signature : String} {value : PreviewReadSnapshotSuccess}
    (asked : AskedBefore host operations)
    (served : ((run (next host) empty operations).getCached host sweptAt now realPath
      signature).2 = some value) :
    ∃ before since, operations = before ++ since ∧
      (∀ operation ∈ since, operation ≠ .clear ∧ ¬movesOn host realPath operation) ∧
      (∃ swept written, .writeSnapshot swept written value
        ((run (next host) empty operations).getGeneration host realPath) ∈ since ∧
          now < written + host.ttlMs) ∧
      host.resolve value.realPath = host.resolve realPath ∧ value.startSignature = signature ∧
      value.endSignature = signature := by
  obtain ⟨cached, kept, rfl, fresh, isSignature, current⟩ := getCached_eq_some served
  obtain ⟨earlier, swept, written, snapshot, generation, later, isRun, uncleared, samePath,
    unchanged, rfl⟩ := run_isWritten operations _ cached kept
  obtain ⟨before, waiting, rfl, kept, isGeneration⟩ := asked _ _ _ _ _ _ isRun
  rw [List.append_assoc] at isRun
  rw [← getGeneration_resolve, samePath, getGeneration_resolve] at isGeneration
  have notCleared : .clear ∉ waiting ++ .writeSnapshot swept written snapshot generation :: later :=
    by simp [kept, uncleared]
  -- The generation when it was asked for is the one now.
  have noneSince : (waiting ++ .writeSnapshot swept written snapshot generation :: later).countP
      (movesOn host realPath) = 0 := by
    have moved := @run_getGeneration host _ notCleared (run (next host) empty before) realPath
    rw [← run_append, ← isRun, ← isGeneration] at moved
    dsimp only at current
    omega
  rw [← current]
  refine ⟨before, _, isRun, fun operation member => ⟨?_, ?_⟩, ⟨swept, written, by simp, fresh⟩,
    samePath, isSignature, unchanged ▸ isSignature⟩
  · exact fun isClear => notCleared (isClear ▸ member)
  · exact List.countP_eq_zero.mp noneSince operation member

section FixedRuns

private def fixedHost : PreviewReadCacheHost := ⟨id, fun _ => rfl, 5000, 64, 16777216, 2097152⟩

private def snapshotRead : PreviewReadSnapshotSuccess where
  realPath := "/a"
  startStats := ⟨⟨"1", by simp⟩, ⟨"2", by simp⟩⟩
  endStats := ⟨⟨"1", by simp⟩, ⟨"2", by simp⟩⟩
  fileName := "a"
  classification := ⟨.text, none, none, 1, false, none⟩
  payload := .text "ok"

private def readAgain : List CacheOperation :=
  [.invalidatePath "/a", .writeSnapshot 1 1 snapshotRead 1]

private theorem readAgain_asked : AskedBefore fixedHost readAgain := by
  intro earlier sweptAt now value generation later isRun
  rcases earlier with _ | ⟨first, _ | ⟨second, rest⟩⟩
  · simp [readAgain] at isRun
  · simp only [readAgain, List.cons_append, List.nil_append, List.cons.injEq,
      CacheOperation.writeSnapshot.injEq] at isRun
    obtain ⟨rfl, ⟨-, -, rfl, rfl⟩, -⟩ := isRun
    exact ⟨_, [], (List.append_nil _).symm, List.not_mem_nil, by decide⟩
  · simp [readAgain] at isRun

/-- A file that is read again after its path was invalidated. -/
theorem served_preview_is_current_again :
    ∃ before since, readAgain = before ++ since ∧
      (∀ operation ∈ since, operation ≠ .clear ∧ ¬movesOn fixedHost "/a" operation) ∧
      (∃ swept written, .writeSnapshot swept written snapshotRead
        ((run (next fixedHost) empty readAgain).getGeneration fixedHost "/a") ∈ since ∧
          7 < written + fixedHost.ttlMs) ∧
      fixedHost.resolve snapshotRead.realPath = fixedHost.resolve "/a" ∧
      snapshotRead.startSignature = "1:2" ∧ snapshotRead.endSignature = "1:2" :=
  served_preview_is_current readAgain_asked
    (show ((run (next fixedHost) empty readAgain).getCached fixedHost 7 7 "/a" "1:2").2 =
      some snapshotRead by decide)

end FixedRuns

/-! ## Limits -/

/-- The bytes are those of the entries. -/
def Accounted (cache : PreviewReadCacheFacade) : Prop :=
  cache.fsReadCacheBytes = (cache.fsReadCache.rows.map fun entry => entry.2.bytes).sum

variable (host) in
structure WithinLimits (cache : PreviewReadCacheFacade) : Prop where
  accounted : cache.Accounted
  entries : cache.fsReadCache.rows.length ≤ host.maxEntries
  bytes : cache.fsReadCacheBytes ≤ host.maxBytes

theorem deleteCached_accounted {cache : PreviewReadCacheFacade} (accounted : cache.Accounted)
    (path : String) :
    (cache.deleteCached path).Accounted ∧
      (cache.deleteCached path).fsReadCacheBytes ≤ cache.fsReadCacheBytes ∧
      (cache.deleteCached path).fsReadCache.rows.length ≤ cache.fsReadCache.rows.length ∧
      (cache.fsReadCache.get? path ≠ none →
        (cache.deleteCached path).fsReadCache.rows.length < cache.fsReadCache.rows.length) := by
  unfold deleteCached
  cases found : cache.fsReadCache.get? path with
  | none => exact ⟨accounted, Nat.le_refl _, Nat.le_refl _, fun impossible => absurd rfl impossible⟩
  | some cached =>
    have parts := Dictionary.rows_erase_perm found
    have sums := (parts.map fun entry => entry.2.bytes).sum_nat
    have sizes := parts.length_eq
    rw [List.map_cons, List.sum_cons] at sums
    rw [List.length_cons] at sizes
    unfold Accounted at accounted ⊢
    dsimp only at sums ⊢
    refine ⟨?_, ?_, ?_, fun _ => ?_⟩ <;> omega

theorem WithinLimits.deleteCached {cache : PreviewReadCacheFacade}
    (limits : WithinLimits host cache) (path : String) :
    WithinLimits host (cache.deleteCached path) := by
  obtain ⟨accounted, bytes, entries, -⟩ := deleteCached_accounted limits.accounted path
  exact ⟨accounted, entries.trans limits.entries, bytes.trans limits.bytes⟩

theorem WithinLimits.sweepExpired {cache : PreviewReadCacheFacade}
    (limits : WithinLimits host cache) (sweptAt : Nat) :
    WithinLimits host (cache.sweepExpired sweptAt) := by
  unfold PreviewReadCacheFacade.sweepExpired
  generalize cache.fsReadCache.rows = rows
  induction rows generalizing cache with
  | nil => exact limits
  | cons entry rest ih =>
    rw [List.foldl_cons]
    split
    · exact ih (limits.deleteCached entry.1)
    · exact ih limits

/-- Enough rounds bring a cache within its limits. -/
theorem evictOverLimit_withinLimits (rounds : Nat) {cache : PreviewReadCacheFacade}
    (accounted : cache.Accounted) (enough : cache.fsReadCache.rows.length ≤ rounds) :
    WithinLimits host (evictOverLimit host rounds cache) := by
  induction rounds generalizing cache with
  | zero =>
    have nothing := List.length_eq_zero_iff.mp (Nat.le_zero.mp enough)
    have noBytes : cache.fsReadCacheBytes = 0 := by rw [accounted, nothing]; rfl
    exact ⟨accounted, by simp [evictOverLimit, nothing], by simp [evictOverLimit, noBytes]⟩
  | succ rounds ih =>
    unfold evictOverLimit
    split
    · split
      · next nothing =>
          rw [List.head?_eq_none_iff] at nothing
          have noBytes : cache.fsReadCacheBytes = 0 := by rw [accounted, nothing]; rfl
          exact ⟨accounted, by simp [nothing], by simp [noBytes]⟩
      · next oldest isOldest =>
          obtain ⟨deleted, -, -, fewer⟩ := deleteCached_accounted accounted oldest.1
          have listed : cache.fsReadCache.get? oldest.1 = some oldest.2 :=
            Dictionary.get?_eq_some_iff.mpr (List.mem_of_head? isOldest)
          have smaller := fewer (by simp [listed])
          exact ih deleted (by omega)
    · next within =>
        simp only [not_or, Nat.not_lt] at within
        exact ⟨accounted, within.1, within.2⟩

theorem WithinLimits.next {cache : PreviewReadCacheFacade} (limits : WithinLimits host cache)
    (operation : CacheOperation) : WithinLimits host (cache.next host operation) := by
  cases operation with
  | getCached sweptAt now realPath signature =>
    have swept := limits.sweepExpired sweptAt
    unfold PreviewReadCacheFacade.next getCached
    dsimp only
    split
    · exact swept
    · split
      · exact swept.deleteCached _
      · split
        · exact swept
        · split <;> exact swept
  | bumpGeneration realPath => exact ⟨limits.accounted, limits.entries, limits.bytes⟩
  | writeSnapshot sweptAt now value generation =>
    have swept := limits.sweepExpired sweptAt
    unfold PreviewReadCacheFacade.next writeSnapshot
    dsimp only
    split
    · split
      · exact swept
      · have cleared := deleteCached_accounted swept.accounted (host.resolve value.realPath)
        have isNew := deleteCached_gone (cache.sweepExpired sweptAt) (host.resolve value.realPath)
        apply evictOverLimit_withinLimits
        · have accounted := cleared.1
          unfold Accounted at accounted ⊢
          simp [setCached, Dictionary.rows_put_new isNew, accounted]
        · exact Nat.le_refl _
    · exact swept
  | invalidatePath realPath =>
    have bumped : WithinLimits host (cache.bumpGeneration host (host.resolve realPath)) :=
      ⟨limits.accounted, limits.entries, limits.bytes⟩
    exact bumped.deleteCached _
  | clear => exact ⟨rfl, Nat.zero_le _, Nat.zero_le _⟩

/-- After any run the cache holds no more entries and bytes than it may, and its count of bytes is
that of its entries. -/
theorem cache_within_limits (host : PreviewReadCacheHost) (operations : List CacheOperation) :
    (run (next host) empty operations).fsReadCacheBytes =
      ((run (next host) empty operations).fsReadCache.rows.map fun entry => entry.2.bytes).sum ∧
    (run (next host) empty operations).fsReadCache.rows.length ≤ host.maxEntries ∧
    (run (next host) empty operations).fsReadCacheBytes ≤ host.maxBytes := by
  have limits : WithinLimits host (run (next host) empty operations) := by
    induction operations using List.reverseRecOn with
    | nil => exact ⟨rfl, Nat.zero_le _, Nat.zero_le _⟩
    | append_singleton before operation ih =>
      rw [run_append, run_cons, run_nil]
      exact ih.next operation
  exact ⟨limits.accounted, limits.entries, limits.bytes⟩

end PreviewReadCacheFacade

end ImCodes.Preview
