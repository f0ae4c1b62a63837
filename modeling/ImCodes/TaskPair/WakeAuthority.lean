import ImCodes.Library.JsonSyntax
import ImCodes.TaskPair.SchedulingEffects

/-!
# Messages bound to a scheduling

The id of a message about a pair carries the pairs it is about, each with the epoch its
scheduling had, so that a message which waits in a queue is dropped once a pair was paused or
resumed. A message to a session without a role in an open pair of the task carries none.
-/

set_option autoImplicit false

namespace ImCodes.TaskPair

open Library

def taskPairNudgeIdPrefix : String := "task-pair-nudge:"

def taskPairWakeBindingTag : String := ":wake-v1:"

def taskPairResumeReason : String := "suspension-resume"

def taskPairDependencyFailureReason : String := "dependency-failed"

def taskPairEndedPairNoticeReasons : List String := ["brain-workspace-kept", "brain-output-failed"]

structure TaskPairWakeBinding where
  project : String
  taskId : String
  epoch : Int
deriving DecidableEq, Repr

def epochOf (scheduling : Option TaskPairScheduling) : Nat := scheduling.elim 0 (·.epoch)

def participantsOf (stored : StoredTaskPair) : List String :=
  ([stored.state.executor, stored.state.auditor, some stored.state.brain].filterMap id).filter
    (· ≠ "")

namespace TaskPairStore

def pairsForSession (store : TaskPairStore) (sessionName : String) : List StoredTaskPair :=
  store.listActivePairs.filter fun stored => sessionName ∈ participantsOf stored

end TaskPairStore

def isAggregateId (taskId : String) : Bool := "__".toList.isPrefixOf taskId.toList

/-! ## Bindings -/

def pairWakeBindings (store : TaskPairStore) (target taskId : String) :
    List TaskPairWakeBinding :=
  ((store.pairsForSession target).filter fun stored =>
    if isAggregateId taskId then
      stored.state.brain = target && !(isTerminalTaskPairStatus stored.state.status) &&
        !(isTaskPairSuspended stored.state)
    else stored.state.taskId = taskId).map fun stored =>
      ⟨stored.project, stored.state.taskId, epochOf stored.state.scheduling⟩

/-- The pair is in the epoch of the binding, and the reason goes with where the pair is. -/
def bindingAllowed (store : TaskPairStore) (reason : String) (binding : TaskPairWakeBinding) :
    Bool :=
  match store.getPair binding.project binding.taskId with
  | none => false
  | some stored =>
    let state := stored.state
    decide ((epochOf state.scheduling : Int) = binding.epoch) &&
      (decide (reason ∈ taskPairEndedPairNoticeReasons) ||
        !(isTerminalTaskPairStatus state.status) &&
          (decide (reason = taskPairDependencyFailureReason) ||
            if reason = taskPairResumeReason then
              !(state.scheduling.any (·.manual)) && stored.dependsOn.isEmpty
            else !(isTaskPairSuspended state)))

def pairWakeAllowed (store : TaskPairStore) (bindings : List TaskPairWakeBinding)
    (reason : String) : Bool :=
  bindings.all (bindingAllowed store reason)

def bindingJson (binding : TaskPairWakeBinding) : Json :=
  .obj [("project", .str binding.project), ("taskId", .str binding.taskId),
    ("epoch", .num binding.epoch)]

def wakeJson (bindings : List TaskPairWakeBinding) (reason : String) : Json :=
  .obj [("bindings", .arr (bindings.map bindingJson)), ("reason", .str reason)]

def encodedWake (bindings : List TaskPairWakeBinding) (reason : String) : String :=
  encodeURIComponent (Json.stringify Json.integerText (wakeJson bindings reason))

def encodePairWake (bindings : List TaskPairWakeBinding) (reason : String) : String :=
  taskPairWakeBindingTag ++ encodedWake bindings reason ++ ":"

/-! ## The id of a message -/

def taskPairMessageIdPrefix (taskId reason : String) (dedupeScope : Option String) : String :=
  let front := taskPairNudgeIdPrefix ++ taskId ++ ":" ++ reason ++ ":"
  match dedupeScope with
  | none => front
  | some scope => front ++ "scope:" ++ encodeURIComponent scope ++ ":"

/-- A random id: hexadecimal digits and hyphens. -/
structure Uuid where
  text : String
  chars : text.toList.all (fun c => c.isAlphanum || c = '-') = true

def taskPairMessageId (bindings : List TaskPairWakeBinding) (taskId reason : String)
    (dedupeScope : Option String) (uuid : Uuid) : String :=
  taskPairMessageIdPrefix taskId reason dedupeScope ++
    (if bindings = [] then "" else encodePairWake bindings reason) ++
    (if reason = taskPairResumeReason then "resume" else uuid.text)

/-- The id a message gets, unless it is held back because a pair it is about is suspended. -/
def mintTaskPairMessageId (store : TaskPairStore) (target taskId reason : String)
    (dedupeScope : Option String) (uuid : Uuid) : Option String :=
  let bindings := pairWakeBindings store target taskId
  if !(pairWakeAllowed store bindings reason) then none
  else if isAggregateId taskId ∧ bindings = [] ∧
      (store.pairsForSession target).any (·.state.brain = target) then none
  else some (taskPairMessageId bindings taskId reason dedupeScope uuid)

/-! ## Admission of a queued message -/

/-- What comes after the last occurrence of a text. -/
def afterLast (sought : List Char) : List Char → Option (List Char)
  | [] => none
  | c :: rest => (afterLast sought rest).or
      (if sought.isPrefixOf (c :: rest) then some ((c :: rest).drop sought.length) else none)

/-- `Number.isSafeInteger`, and the integer. -/
def safeInteger? (value : Rat) : Option Int :=
  if value.den = 1 ∧ value.num.natAbs ≤ 2 ^ 53 - 1 then some value.num else none

def bindingOfJson (json : Json) : Option TaskPairWakeBinding :=
  match json.field? "project", json.field? "taskId", json.field? "epoch" with
  | some (.str project), some (.str taskId), some (.num epoch) =>
    (safeInteger? epoch).map (⟨project, taskId, ·⟩)
  | _, _, _ => none

/-- The bindings and the reason in an id; `none` where they are refused. -/
def decodePairWake (encoded : String) : Option (List TaskPairWakeBinding × String) :=
  ((decodeURIComponent encoded).bind Json.parse).bind fun data =>
    match data.field? "bindings", data.field? "reason" with
    | some (.arr (first :: rest)), some (.str reason) =>
      ((first :: rest).mapM bindingOfJson).map (·, reason)
    | _, _ => none

/-- The session has a role in the pair of the binding. -/
def bindingNames (store : TaskPairStore) (sessionName : String) (binding : TaskPairWakeBinding) :
    Bool :=
  match store.getPair binding.project binding.taskId with
  | none => false
  | some stored => stored.state.brain = sessionName ||
      stored.state.executor = some sessionName || stored.state.auditor = some sessionName

def queuedPairWakeAllowed (store : TaskPairStore) (sessionName messageId : String) : Bool :=
  if !(taskPairNudgeIdPrefix.toList.isPrefixOf messageId.toList) then true
  else
    match afterLast taskPairWakeBindingTag.toList messageId.toList with
    -- An id without bindings is left to the other checks of a queued message.
    | none => true
    | some bound =>
      match decodePairWake (String.ofList (bound.takeWhile (· ≠ ':'))) with
      | none => false
      | some (bindings, reason) =>
        bindings.all (bindingNames store sessionName) && pairWakeAllowed store bindings reason

/-! ## What an id says

The bindings in an id are found behind whatever texts come before them, and are read back as
they were written, or refused where an epoch is no safe integer.
-/

/-! ## The last occurrence -/

section
variable {tag : List Char}

theorem afterLast_skip {chars : List Char} (free : ':' ∉ chars) (rest : List Char) :
    afterLast (':' :: tag) (chars ++ rest) = afterLast (':' :: tag) rest := by
  induction chars with
  | nil => rfl
  | cons c chars ih =>
    simp only [List.mem_cons, not_or] at free
    simp [afterLast, ih free.2, free.1]

theorem afterLast_free {chars : List Char} (free : ':' ∉ chars) :
    afterLast (':' :: tag) chars = none := by
  have skipped : afterLast (':' :: tag) (chars ++ []) = afterLast (':' :: tag) [] :=
    afterLast_skip free []
  simpa [afterLast] using skipped

theorem afterLast_append {front rest found : List Char}
    (later : afterLast tag rest = some found) : afterLast tag (front ++ rest) = some found := by
  induction front with
  | nil => exact later
  | cons c front ih => simp [afterLast, ih]

end

theorem afterLast_encoded {encoded suffix : List Char} (starts : encoded.head? = some '%')
    (encodedFree : ':' ∉ encoded) (suffixFree : ':' ∉ suffix) (front : List Char) :
    afterLast taskPairWakeBindingTag.toList
        (front ++ (taskPairWakeBindingTag.toList ++ (encoded ++ ':' :: suffix))) =
      some (encoded ++ ':' :: suffix) := by
  apply afterLast_append
  obtain ⟨more, rfl⟩ : ∃ more, encoded = '%' :: more := by
    cases encoded with
    | nil => cases starts
    | cons c more =>
      cases starts
      exact ⟨more, rfl⟩
  have tag : taskPairWakeBindingTag.toList = ':' :: ("wake-v1".toList ++ [':']) := rfl
  -- Neither the colon that closes the tag nor the one after the encoded text begins another tag.
  have behind : afterLast taskPairWakeBindingTag.toList (':' :: suffix) = none := by
    rw [tag, afterLast, afterLast_free suffixFree]
    have other : (':' :: ("wake-v1".toList ++ [':'])).isPrefixOf (':' :: suffix) = false := by
      rw [Bool.eq_false_iff]
      intro isPrefix
      obtain ⟨tail, same⟩ := List.isPrefixOf_iff_prefix.mp isPrefix
      have inside : ':' ∈ suffix := by
        rw [← (List.cons.inj same).2]
        simp
      exact suffixFree inside
    rw [other]
    rfl
  have inside : afterLast taskPairWakeBindingTag.toList
      (':' :: ('%' :: more ++ ':' :: suffix)) = none := by
    rw [tag] at behind ⊢
    rw [afterLast, afterLast_skip encodedFree, behind]
    simp [List.isPrefixOf]
  have between : ':' ∉ "wake-v1".toList := by decide
  rw [tag] at inside ⊢
  rw [List.cons_append, afterLast, List.append_assoc, afterLast_skip between]
  simp only [List.singleton_append, inside, Option.none_or]
  simp [List.isPrefixOf]

/-! ## Reading bindings back -/

def TaskPairWakeBinding.IsSafe (binding : TaskPairWakeBinding) : Prop :=
  binding.epoch.natAbs ≤ 2 ^ 53 - 1

instance (binding : TaskPairWakeBinding) : Decidable binding.IsSafe :=
  inferInstanceAs (Decidable (_ ≤ _))

theorem bindingOfJson_bindingJson (binding : TaskPairWakeBinding) :
    bindingOfJson (bindingJson binding) = if binding.IsSafe then some binding else none := by
  have fields : (bindingJson binding).field? "project" = some (.str binding.project) ∧
      (bindingJson binding).field? "taskId" = some (.str binding.taskId) ∧
      (bindingJson binding).field? "epoch" = some (.num binding.epoch) := by
    simp [bindingJson, Json.field?]
  simp only [bindingOfJson, fields, safeInteger?, Rat.den_intCast, Rat.num_intCast, true_and]
  by_cases safe : binding.IsSafe
  · have small : binding.epoch.natAbs ≤ 2 ^ 53 - 1 := safe
    rw [if_pos safe, if_pos small]
    rfl
  · have large : ¬binding.epoch.natAbs ≤ 2 ^ 53 - 1 := safe
    rw [if_neg safe, if_neg large]
    rfl

theorem mapM_bindingOfJson (bindings : List TaskPairWakeBinding) :
    (bindings.map bindingJson).mapM bindingOfJson =
      if ∀ binding ∈ bindings, binding.IsSafe then some bindings else none := by
  induction bindings with
  | nil => rfl
  | cons binding rest ih =>
    simp only [List.map_cons, List.mapM_cons, bindingOfJson_bindingJson, ih, List.mem_cons,
      forall_eq_or_imp]
    by_cases safe : binding.IsSafe
    · by_cases others : ∀ binding ∈ rest, binding.IsSafe
      · rw [if_pos safe, if_pos others, if_pos ⟨safe, others⟩]
        rfl
      · have neither : ¬(binding.IsSafe ∧ ∀ binding ∈ rest, binding.IsSafe) :=
          fun both => others both.2
        rw [if_pos safe, if_neg others, if_neg neither]
        rfl
    · have neither : ¬(binding.IsSafe ∧ ∀ binding ∈ rest, binding.IsSafe) :=
        fun both => safe both.1
      rw [if_neg safe, if_neg neither]
      rfl

theorem printable_bindings {bindings : List TaskPairWakeBinding}
    (natural : ∀ binding ∈ bindings, 0 ≤ binding.epoch) :
    Json.PrintableItems Json.integerText (bindings.map bindingJson) := by
  induction bindings with
  | nil => trivial
  | cons binding rest ih =>
    constructor
    · refine ⟨by simp, trivial, trivial, ?_, trivial⟩
      obtain ⟨epoch, same⟩ := Int.eq_ofNat_of_zero_le (natural binding (by simp))
      rw [same]
      exact Json.readsBack_natural epoch
    · exact ih fun other member => natural other (by simp [member])

theorem decodePairWake_encodedWake {bindings : List TaskPairWakeBinding} (bound : bindings ≠ [])
    (natural : ∀ binding ∈ bindings, 0 ≤ binding.epoch) (reason : String) :
    decodePairWake (encodedWake bindings reason) =
      if ∀ binding ∈ bindings, binding.IsSafe then some (bindings, reason) else none := by
  have printable : Json.Printable Json.integerText (wakeJson bindings reason) := by
    exact ⟨by simp, printable_bindings natural, trivial, trivial⟩
  have fields : (wakeJson bindings reason).field? "bindings" =
        some (.arr (bindings.map bindingJson)) ∧
      (wakeJson bindings reason).field? "reason" = some (.str reason) := by
    simp [wakeJson, Json.field?]
  have decoded := mapM_bindingOfJson bindings
  obtain ⟨first, rest, rfl⟩ := List.exists_cons_of_ne_nil bound
  rw [List.map_cons] at fields decoded
  simp only [decodePairWake, encodedWake, decodeURIComponent_encodeURIComponent,
    Option.bind_some, Json.parse_stringify printable, fields, decoded]
  split <;> rfl

theorem encodedWake_head (bindings : List TaskPairWakeBinding) (reason : String) :
    (encodedWake bindings reason).toList.head? = some '%' := by
  have opens : ∃ more, (Json.stringify Json.integerText (wakeJson bindings reason)).toList =
      '{' :: more := by
    simp [Json.stringify, wakeJson, Json.text]
  obtain ⟨more, opens⟩ := opens
  have brace : percentChar '{' = ['%', '7', 'B'] := by decide
  simp [encodedWake, encodeURIComponent, opens, brace]

theorem encodedWake_free (bindings : List TaskPairWakeBinding) (reason : String) :
    ':' ∉ (encodedWake bindings reason).toList :=
  not_mem_encodeURIComponent (by decide) (by decide) (by decide) _

/-! ## Ids -/

section
variable {store : TaskPairStore} {sessionName : String} {bindings : List TaskPairWakeBinding}
  {taskId reason : String} {dedupeScope : Option String} {uuid : Uuid}

theorem messageId_nudge :
    taskPairNudgeIdPrefix.toList.isPrefixOf
      (taskPairMessageId bindings taskId reason dedupeScope uuid).toList = true := by
  rw [List.isPrefixOf_iff_prefix]
  unfold taskPairMessageId taskPairMessageIdPrefix
  cases dedupeScope <;> simp [List.append_assoc]

theorem afterLast_messageId (bound : bindings ≠ []) :
    ∃ suffix, afterLast taskPairWakeBindingTag.toList
        (taskPairMessageId bindings taskId reason dedupeScope uuid).toList =
      some ((encodedWake bindings reason).toList ++ ':' :: suffix) := by
  have suffixFree : ':' ∉ (if reason = taskPairResumeReason then "resume" else uuid.text).toList := by
    split
    · decide
    · intro member
      have plain := List.all_eq_true.mp uuid.chars ':' member
      exact absurd plain (by decide)
  refine ⟨(if reason = taskPairResumeReason then "resume" else uuid.text).toList, ?_⟩
  rw [← afterLast_encoded (encodedWake_head bindings reason) (encodedWake_free bindings reason)
    suffixFree (taskPairMessageIdPrefix taskId reason dedupeScope).toList]
  simp [taskPairMessageId, bound, encodePairWake, List.append_assoc]

theorem queuedPairWakeAllowed_bound (bound : bindings ≠ [])
    (natural : ∀ binding ∈ bindings, 0 ≤ binding.epoch) :
    queuedPairWakeAllowed store sessionName
        (taskPairMessageId bindings taskId reason dedupeScope uuid) =
      (decide (∀ binding ∈ bindings, binding.IsSafe) &&
        bindings.all (bindingNames store sessionName) &&
        pairWakeAllowed store bindings reason) := by
  obtain ⟨suffix, found⟩ := @afterLast_messageId bindings taskId reason dedupeScope uuid bound
  have taken : ((encodedWake bindings reason).toList ++ ':' :: suffix).takeWhile (· ≠ ':') =
      (encodedWake bindings reason).toList := by
    rw [List.takeWhile_append_of_pos]
    · simp
    · intro c member
      simp only [ne_eq, decide_eq_true_eq]
      rintro rfl
      exact encodedWake_free bindings reason member
  unfold queuedPairWakeAllowed
  rw [messageId_nudge, found]
  simp only [Bool.not_true, Bool.false_eq_true, if_false, taken, String.ofList_toList,
    decodePairWake_encodedWake bound natural]
  by_cases safe : ∀ binding ∈ bindings, binding.IsSafe
  · rw [if_pos safe, decide_eq_true safe, Bool.true_and]
  · rw [if_neg safe, decide_eq_false safe, Bool.false_and, Bool.false_and]

end

end ImCodes.TaskPair
