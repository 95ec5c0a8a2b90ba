/-
This file proves how a run repeats a save. It saves again until the store has succeeded or the
policy for the infrastructure allows no more, with a pause after every failure but the last one.
-/

import WorkflowEngine.Proofs.Execution.Acknowledged
import WorkflowEngine.Proofs.Execution.Attempts
import WorkflowEngine.Proofs.Workflow.Backoff

namespace WorkflowEngine

/-- A save that fails may be tried again. -/
def AttemptOutcome.ofSave : Except StoreError Unit → AttemptOutcome
  | .ok () => .succeeded .null
  | .error error => .failed (.retryable error.message)

theorem AttemptOutcome.ofSave_settles (outcome : Except StoreError Unit) :
    (ofSave outcome).settles = true ↔ outcome = .ok () := by
  cases outcome with
  | ok => exact iff_of_true rfl rfl
  | error error => exact iff_of_false nofun nofun

/-- A save has a number, and a pause takes some milliseconds. -/
inductive SaveDeed where
  | saved (number : Nat) (outcome : Except StoreError Unit)
  | rested (milliseconds : Nat)
  deriving DecidableEq

namespace RetryPolicy

/-- The first success has the least number of all saves that succeed. -/
structure FirstSuccess (outcomes : Nat → Except StoreError Unit) (first : Nat) : Prop where
  positive : 0 < first
  succeeds : outcomes first = .ok ()
  earlier : ∀ number, 0 < number → number < first → outcomes number ≠ .ok ()

/-- The first success is the last save, if the policy allows as many. -/
def lastSave (policy : RetryPolicy) (outcomes : Nat → Except StoreError Unit) : Nat :=
  policy.lastAttempt fun number => .ofSave (outcomes number)

/-- The run saves in vain and pauses in each of these rounds. -/
def saveRounds (policy : RetryPolicy) (outcomes : Nat → Except StoreError Unit) (failed : Nat) :
    List SaveDeed :=
  (List.range' 1 failed).flatMap fun number =>
    [.saved number (outcomes number), .rested (policy.delay number)]

/-- These are the deeds of a run in each phase of a save. -/
inductive Saves (policy : RetryPolicy) (outcomes : Nat → Except StoreError Unit)
    (errand : Errand) : List SaveDeed → Run.Phase → Prop where
  | saving {failed : Nat} (more : failed < policy.lastSave outcomes) :
    Saves policy outcomes errand (policy.saveRounds outcomes failed)
      (.saving errand (.ofNat failed))
  | pausing {failed : Nat} (more : failed + 1 < policy.lastSave outcomes) :
    Saves policy outcomes errand
      (policy.saveRounds outcomes failed ++ [.saved (failed + 1) (outcomes (failed + 1))])
      (.pausing errand (.ofNat (failed + 1)))

section

variable {policy : RetryPolicy} {outcomes : Nat → Except StoreError Unit} {first : Nat}

theorem unsettled_iff {number : Nat} :
    (AttemptOutcome.ofSave (outcomes number)).settles = false ↔ outcomes number ≠ .ok () := by
  rw [Bool.eq_false_iff, Ne, AttemptOutcome.ofSave_settles]

/-- The saves end with the first success, unless the policy is exhausted before. -/
theorem lastSave_first (success : FirstSuccess outcomes first) :
    policy.lastSave outcomes = min first policy.limit := by
  rw [Nat.min_comm]
  apply lastAttempt_eq_min success.positive
  · rw [AttemptOutcome.ofSave_settles]
    exact success.succeeds
  · intro number above below
    rw [unsettled_iff]
    exact success.earlier number above below

/-- If no save succeeds, the policy is exhausted. -/
theorem lastSave_never (never : ∀ number, 0 < number → outcomes number ≠ .ok ()) :
    policy.lastSave outcomes = policy.limit := by
  apply lastAttempt_unsettled
  intro number above
  rw [unsettled_iff]
  exact never number above

theorem lastSave_isLast (policy : RetryPolicy) (outcomes : Nat → Except StoreError Unit) :
    policy.IsLast (fun number => .ofSave (outcomes number)) (policy.lastSave outcomes) :=
  policy.lastAttempt_isLast _

/-- All saves before the last one fail. -/
theorem lastSave_earlier {number : Nat} (above : 0 < number)
    (below : number < policy.lastSave outcomes) : outcomes number ≠ .ok () := by
  rw [← unsettled_iff]
  exact (policy.lastSave_isLast outcomes).earlier number above below

/-- Only a policy that is exhausted makes a save that fails the last one. -/
theorem lastSave_fails (fails : outcomes (policy.lastSave outcomes) ≠ .ok ()) :
    policy.lastSave outcomes = policy.limit := by
  rw [Ne, ← AttemptOutcome.ofSave_settles] at fails
  exact (policy.lastSave_isLast outcomes).reached.resolve_left fails

/-- The last save succeeds exactly if the policy allows as many attempts. -/
theorem lastSave_succeeds (success : FirstSuccess outcomes first) :
    outcomes (policy.lastSave outcomes) = .ok () ↔ first ≤ policy.limit := by
  rw [lastSave_first success]
  constructor
  · intro succeeds
    by_contra exceeds
    rw [Nat.min_eq_right (by omega)] at succeeds
    have attempts := policy.limit_positive
    exact success.earlier _ attempts (by omega) succeeds
  · intro allowed
    rw [Nat.min_eq_left allowed]
    exact success.succeeds

/-- The number of a save fits in a word, whatever the limit of the policy is. -/
theorem lastSave_word {number : Nat} (allowed : number ≤ policy.lastSave outcomes) :
    (UInt32.ofNat number).toNat = number := by
  have bound := (policy.lastSave_isLast outcomes).allowed
  exact UInt32.toNat_ofNat_of_lt' (Nat.lt_of_le_of_lt (Nat.le_trans allowed bound)
    policy.limit_word)

theorem saveRounds_succ (policy : RetryPolicy) (outcomes : Nat → Except StoreError Unit)
    (failed : Nat) : policy.saveRounds outcomes (failed + 1) = policy.saveRounds outcomes failed ++
      [.saved (failed + 1) (outcomes (failed + 1)), .rested (policy.delay (failed + 1))] := by
  simp [saveRounds, List.range'_1_concat, Nat.add_comm 1 failed]

@[simp] theorem saveRounds_length (failed : Nat) :
    (policy.saveRounds outcomes failed).length = 2 * failed := by
  induction failed with
  | zero => rfl
  | succ failed inductionHypothesis =>
    rw [saveRounds_succ, List.length_append, inductionHypothesis]
    rfl

/-- A run at its save has left something to do. -/
theorem Saves.length_lt {errand : Errand} {deeds : List SaveDeed} {phase : Run.Phase}
    (saves : policy.Saves outcomes errand deeds phase) :
    deeds.length < 2 * policy.lastSave outcomes := by
  cases saves with
  | saving more =>
    rw [saveRounds_length]
    omega
  | pausing more =>
    rw [List.length_append, saveRounds_length, List.length_singleton]
    omega

end

end RetryPolicy

namespace Run

/-- A run pauses if its last save has failed and will be repeated. -/
def pauses (run : Run) : Bool :=
  match run.phase with
  | .pausing _ _ => true
  | _ => false

section

variable {run : Run} {now : Moment} {input : Input} {errand : Errand} {failures : UInt32}

theorem sweep_unpaused (run : Run) (ending : Ending) (rest : List Nat) :
    (run.sweep ending rest).run.pauses = false := by
  cases rest <;> rfl

theorem proceed_unpaused (run : Run) (now : Moment) : (run.proceed now).run.pauses = false := by
  unfold proceed
  split
  · split
    · rfl
    · split
      · exact sweep_unpaused run _ _
      · rfl
  · split
    · exact sweep_unpaused run _ _
    · rfl

theorem settled_unpaused (run : Run) (now : Moment) (halt : Option Halt) :
    (run.settled now halt).run.pauses = false :=
  proceed_unpaused _ now

theorem tellSkipped_unpaused (run : Run) (now : Moment) (halt : Option Halt)
    (skipped : List Nat) : (run.tellSkipped now halt skipped).run.pauses = false := by
  cases skipped with
  | nil => exact settled_unpaused run now halt
  | cons => rfl

/-- What follows the last answer to a save is no pause. -/
theorem afterSave_unpaused (run : Run) (now : Moment) (outcome : Except StoreError Unit)
    (errand : Errand) : (run.afterSave now outcome errand).run.pauses = false := by
  cases errand with
  | opening => exact proceed_unpaused _ now
  | dispatching index previous =>
    cases outcome with
    | ok => exact proceed_unpaused _ now
    | error error => exact proceed_unpaused _ now
  | settling index released halt =>
    simp only [afterSave, Turn.andThen]
    split
    · exact settled_unpaused _ now halt
    · split
      · exact tellSkipped_unpaused _ now halt _
      · exact settled_unpaused _ now halt
  | skipping index rest halt => exact tellSkipped_unpaused _ now halt rest
  | sweeping ending index rest => exact sweep_unpaused run ending rest
  | closing ending => rfl

/-- A run that waits for the answer to a save takes no other answer. -/
theorem saving_still (phase : run.phase = .saving errand failures)
    (unsaved : ∀ outcome, input ≠ .saved outcome) : run.advance now input = ⟨run, []⟩ := by
  cases input with
  | saved outcome => exact absurd rfl (unsaved outcome)
  | _ => simp [advance, phase]

/-- A run that pauses takes no answer but the end of the pause. -/
theorem pausing_still (phase : run.phase = .pausing errand failures) (awake : input ≠ .rested) :
    run.advance now input = ⟨run, []⟩ := by
  cases input with
  | rested => exact absurd rfl awake
  | _ => simp [advance, phase]

end

end Run

namespace Job

def saveDeed? (job : Job) (input : Input) : Option SaveDeed :=
  match job.run.phase, input with
  | .saving _ failures, .saved outcome => some (.saved (failures.toNat + 1) outcome)
  | .pausing _ failures, .rested =>
    some (.rested (job.run.infraRetry.backoff failures).toNat)
  | _, _ => none

def saveDeeds (past : List Occurrence) : List SaveDeed :=
  past.filterMap fun occurrence => occurrence.before.saveDeed? occurrence.input

/-- A save ends with an answer after which the run does not pause. -/
def lastAnswer? (job : Job) (now : Moment) (input : Input) : Option (Except StoreError Unit) :=
  match job.run.phase, input with
  | .saving _ _, .saved outcome =>
    if (job.advance now input).1.run.pauses then none else some outcome
  | _, _ => none

/-- Anything may happen to the job until the last answer. -/
inductive SaveCourse (start : Job) :
    List Occurrence → Job → Option (Except StoreError Unit) → Prop where
  | start : SaveCourse start [] start none
  | next {past : List Occurrence} {job : Job} (course : SaveCourse start past job none)
    (now : Moment) (input : Input) : SaveCourse start (past ++ [⟨job, now, input⟩])
      (job.advance now input).1 (job.lastAnswer? now input)

/-- Nothing of the run has changed but the phase, and that as its deeds tell. -/
structure AtSave (start : Job) (errand : Errand) (outcomes : Nat → Except StoreError Unit)
    (past : List Occurrence) (job : Job) : Prop where
  run : job.run = { start.run with phase := job.run.phase }
  saves : start.run.infraRetry.Saves outcomes errand (saveDeeds past) job.run.phase

/-- A save has ended with the outcome of its last attempt, with which the run goes on. -/
structure SaveEnded (start : Job) (errand : Errand) (outcomes : Nat → Except StoreError Unit)
    (past : List Occurrence) (job : Job) (outcome : Except StoreError Unit) : Prop where
  deeds : saveDeeds past =
    start.run.infraRetry.saveRounds outcomes (start.run.infraRetry.lastSave outcomes - 1) ++
      [.saved (start.run.infraRetry.lastSave outcomes) outcome]
  last : outcome = outcomes (start.run.infraRetry.lastSave outcomes)
  onward : ∃ now failures, job.run =
    (Run.afterSave { start.run with phase := .saving errand failures } now outcome errand).run

/-- A save goes on, or it has ended with an outcome. -/
def SaveStands (start : Job) (errand : Errand) (outcomes : Nat → Except StoreError Unit)
    (past : List Occurrence) (job : Job) : Option (Except StoreError Unit) → Prop
  | none => AtSave start errand outcomes past job
  | some outcome => SaveEnded start errand outcomes past job outcome

section

variable {start job : Job} {past : List Occurrence} {now : Moment} {input : Input}
  {errand : Errand} {failures : UInt32} {outcomes : Nat → Except StoreError Unit}
  {outcome : Except StoreError Unit}

theorem saveDeeds_concat (past : List Occurrence) (job : Job) (now : Moment) (input : Input) :
    saveDeeds (past ++ [⟨job, now, input⟩]) =
      saveDeeds past ++ (job.saveDeed? input).toList := by
  rw [saveDeeds, List.filterMap_append]
  cases deed : job.saveDeed? input <;> simp [saveDeeds, deed]

/-- What is no answer of the store leaves a run that waits for one as it is. -/
theorem saving_unsaved (phase : job.run.phase = .saving errand failures)
    (unsaved : ∀ outcome, input ≠ .saved outcome) (now : Moment) :
    (job.advance now input).1.run = job.run ∧ job.saveDeed? input = none ∧
      job.lastAnswer? now input = none := by
  refine ⟨?_, ?_, ?_⟩
  · apply run_still
    intro answer answered
    apply Run.saving_still phase
    rintro outcome rfl
    cases answered
    exact unsaved outcome rfl
  · cases input with
    | saved outcome => exact absurd rfl (unsaved outcome)
    | _ => simp [saveDeed?, phase]
  · cases input with
    | saved outcome => exact absurd rfl (unsaved outcome)
    | _ => simp [lastAnswer?, phase]

/-- What is not the end of a pause leaves a run that pauses as it is. -/
theorem pausing_unrested (phase : job.run.phase = .pausing errand failures)
    (unrested : input ≠ .rested) (now : Moment) :
    (job.advance now input).1.run = job.run ∧ job.saveDeed? input = none := by
  constructor
  · apply run_still
    intro answer answered
    apply Run.pausing_still phase
    rintro rfl
    cases answered
    exact unrested rfl
  · cases input with
    | rested => exact absurd rfl unrested
    | _ => simp [saveDeed?, phase]

/-- The answer to a save is the deed of the next number. -/
theorem saveDeed_saving {policy : RetryPolicy} {failed : Nat}
    (phase : job.run.phase = .saving errand (.ofNat failed))
    (more : failed < policy.lastSave outcomes) (outcome : Except StoreError Unit) :
    job.saveDeed? (.saved outcome) = some (.saved (failed + 1) outcome) := by
  simp only [saveDeed?, phase]
  rw [RetryPolicy.lastSave_word (Nat.le_of_lt more)]

theorem saveDeed_pausing (phase : job.run.phase = .pausing errand failures) :
    job.saveDeed? .rested = some (.rested (job.run.infraRetry.backoff failures).toNat) := by
  simp only [saveDeed?, phase]

theorem lastAnswer_pausing (phase : job.run.phase = .pausing errand failures) (now : Moment)
    (input : Input) : job.lastAnswer? now input = none := by
  simp [lastAnswer?, phase]

/-- A run that is left alone is at its save as before. -/
theorem AtSave.still (stands : AtSave start errand outcomes past job)
    (run : (job.advance now input).1.run = job.run) (idle : job.saveDeed? input = none) :
    AtSave start errand outcomes (past ++ [⟨job, now, input⟩]) (job.advance now input).1 := by
  refine ⟨?_, ?_⟩
  · rw [run]
    exact stands.run
  · rw [run, saveDeeds_concat, idle, Option.toList_none, List.append_nil]
    exact stands.saves

theorem AtSave.infraRetry (stands : AtSave start errand outcomes past job) :
    job.run.infraRetry = start.run.infraRetry := by
  rw [stands.run]

/-- With the answer to the last save that the policy makes the save has ended. -/
theorem AtSave.answered_last {failed : Nat} (stands : AtSave start errand outcomes past job)
    (phase : job.run.phase = .saving errand (.ofNat failed))
    (deeds : saveDeeds past = start.run.infraRetry.saveRounds outcomes failed)
    (last : failed + 1 = start.run.infraRetry.lastSave outcomes) (now : Moment)
    (obeys : outcome = outcomes (failed + 1)) :
    SaveStands start errand outcomes (past ++ [⟨job, now, .saved outcome⟩])
      (job.advance now (.saved outcome)).1 (job.lastAnswer? now (.saved outcome)) := by
  have led : job.run.advance now (.saved outcome) = job.run.afterSave now outcome errand := by
    apply Run.advance_last phase
    intro error fails
    have spent : start.run.infraRetry.lastSave outcomes = start.run.infraRetry.limit := by
      apply RetryPolicy.lastSave_fails
      rw [← last, ← obeys, fails]
      nofun
    have counted := RetryPolicy.lastSave_word (Nat.le_of_eq last)
    rw [UInt32.ofNat_add] at counted
    change (UInt32.ofNat failed + 1).toNat = failed + 1 at counted
    rw [stands.infraRetry, UInt32.le_iff_toNat_le, counted, RetryPolicy.attempts_toNat]
    omega
  have after : (job.advance now (.saved outcome)).1.run =
      (job.run.afterSave now outcome errand).run := by
    rw [← led]
    exact run_after job now (.saved outcome)
  have answer : job.lastAnswer? now (.saved outcome) = some outcome := by
    simp only [lastAnswer?, phase]
    rw [after, Run.afterSave_unpaused]
    rfl
  rw [answer]
  refine ⟨?_, ?_, now, .ofNat failed, ?_⟩
  · rw [saveDeeds_concat, saveDeed_saving phase (Nat.lt_of_succ_le (Nat.le_of_eq last)), deeds,
      ← last, Nat.add_sub_cancel, Option.toList_some]
  · rw [← last]
    exact obeys
  · rw [after]
    congr 1
    rw [stands.run, phase]

/-- After the answer to an earlier save the run pauses. -/
theorem AtSave.answered_again {failed : Nat} (stands : AtSave start errand outcomes past job)
    (phase : job.run.phase = .saving errand (.ofNat failed))
    (deeds : saveDeeds past = start.run.infraRetry.saveRounds outcomes failed)
    (more : failed + 1 < start.run.infraRetry.lastSave outcomes) (now : Moment)
    (obeys : outcome = outcomes (failed + 1)) :
    SaveStands start errand outcomes (past ++ [⟨job, now, .saved outcome⟩])
      (job.advance now (.saved outcome)).1 (job.lastAnswer? now (.saved outcome)) := by
  have fails := RetryPolicy.lastSave_earlier (Nat.succ_pos failed) more
  rw [← obeys] at fails
  obtain ⟨error, rfl⟩ : ∃ error, outcome = .error error := by
    cases outcome with
    | ok => exact absurd rfl fails
    | error error => exact ⟨error, rfl⟩
  have number : UInt32.ofNat failed + 1 = .ofNat (failed + 1) := (UInt32.ofNat_add failed 1).symm
  have again : ¬job.run.infraRetry.attempts ≤ UInt32.ofNat (failed + 1) := by
    have allowed := (start.run.infraRetry.lastSave_isLast outcomes).allowed
    rw [stands.infraRetry, UInt32.le_iff_toNat_le,
      RetryPolicy.lastSave_word (Nat.le_of_lt more), RetryPolicy.attempts_toNat]
    omega
  have after : (job.advance now (.saved (.error error))).1.run =
      { job.run with phase := .pausing errand (.ofNat (failed + 1)) } := by
    have led : job.run.advance now (.saved (.error error)) =
        ⟨{ job.run with phase := .pausing errand (.ofNat (failed + 1)) }, []⟩ := by
      simp only [Run.advance, phase, Run.saved, number, if_neg again]
    rw [run_after]
    exact congrArg Turn.run led
  have answer : job.lastAnswer? now (.saved (.error error)) = none := by
    simp only [lastAnswer?, phase]
    rw [after]
    rfl
  rw [answer]
  constructor
  · rw [after, stands.run]
  · rw [after, saveDeeds_concat, saveDeed_saving phase (Nat.lt_of_succ_lt more), deeds, obeys]
    exact .pausing more

/-- After a pause the run saves again. -/
theorem AtSave.rested {failed : Nat} (stands : AtSave start errand outcomes past job)
    (phase : job.run.phase = .pausing errand (.ofNat (failed + 1)))
    (deeds : saveDeeds past = start.run.infraRetry.saveRounds outcomes failed ++
      [.saved (failed + 1) (outcomes (failed + 1))])
    (more : failed + 1 < start.run.infraRetry.lastSave outcomes) (now : Moment) :
    AtSave start errand outcomes (past ++ [⟨job, now, .rested⟩]) (job.advance now .rested).1 := by
  have after : (job.advance now .rested).1.run =
      { job.run with phase := .saving errand (.ofNat (failed + 1)) } := by
    have led : job.run.advance now .rested =
        ⟨{ job.run with phase := .saving errand (.ofNat (failed + 1)) }, []⟩ := by
      simp only [Run.advance, phase]
    rw [run_after]
    exact congrArg Turn.run led
  have deed : job.saveDeed? .rested =
      some (.rested (start.run.infraRetry.delay (failed + 1))) := by
    rw [saveDeed_pausing phase, RetryPolicy.backoff_toNat,
      RetryPolicy.lastSave_word (Nat.le_of_lt more), stands.infraRetry]
  constructor
  · rw [after, stands.run]
  · rw [after, saveDeeds_concat, deed, deeds, List.append_assoc]
    exact start.run.infraRetry.saveRounds_succ outcomes failed ▸ .saving more

/-- Whatever happens to a job at its save, it stays there or the save has ended. -/
theorem AtSave.next (stands : AtSave start errand outcomes past job) (now : Moment)
    (input : Input) (obeys : ∀ number outcome,
      job.saveDeed? input = some (.saved number outcome) → outcome = outcomes number) :
    SaveStands start errand outcomes (past ++ [⟨job, now, input⟩]) (job.advance now input).1
      (job.lastAnswer? now input) := by
  have saves := stands.saves
  generalize deeds : saveDeeds past = done at saves
  generalize phase : job.run.phase = current at saves
  cases saves with
  | @saving failed more =>
    by_cases answered : ∃ outcome, input = .saved outcome
    · obtain ⟨outcome, rfl⟩ := answered
      have obeys : outcome = outcomes (failed + 1) :=
        obeys _ _ (saveDeed_saving phase more outcome)
      rcases Nat.eq_or_lt_of_le more with last | another
      · exact stands.answered_last phase deeds last now obeys
      · exact stands.answered_again phase deeds another now obeys
    · obtain ⟨run, idle, unended⟩ := saving_unsaved phase (not_exists.mp answered) now
      rw [unended]
      exact stands.still run idle
  | @pausing failed more =>
    rw [lastAnswer_pausing phase]
    by_cases rested : input = .rested
    · rw [rested]
      exact stands.rested phase deeds more now
    · obtain ⟨run, idle⟩ := pausing_unrested phase rested now
      exact stands.still run idle

/-- All along its course a save stands as its deeds tell. -/
theorem SaveCourse.stands {result : Option (Except StoreError Unit)}
    (begun : start.run.phase = .saving errand 0) (course : SaveCourse start past job result)
    (obeys : ∀ number outcome, .saved number outcome ∈ saveDeeds past →
      outcome = outcomes number) : SaveStands start errand outcomes past job result := by
  induction course with
  | start =>
    have positive := (start.run.infraRetry.lastSave_isLast outcomes).positive
    exact ⟨rfl, begun ▸ .saving positive⟩
  | @next past job course now input inductionHypothesis =>
    rw [saveDeeds_concat] at obeys
    have stands : AtSave start errand outcomes past job := inductionHypothesis
      fun number outcome member => obeys number outcome (List.mem_append_left _ member)
    apply stands.next now input
    intro number outcome deed
    apply obeys
    rw [deed]
    exact List.mem_append_right _ (List.mem_singleton_self _)

/-- An input carries a save on if it ends a pause or answers as the store does. -/
def Input.CarriesSaveOn (outcomes : Nat → Except StoreError Unit) (input : Input) : Prop :=
  input = .rested ∨ ∃ number, input = .saved (outcomes number)

/-- There is something that carries a save on. -/
theorem AtSave.deed (stands : AtSave start errand outcomes past job) :
    ∃ input : Input, input.CarriesSaveOn outcomes ∧ ∃ deed, job.saveDeed? input = some deed ∧
      ∀ number outcome, deed = .saved number outcome → outcome = outcomes number := by
  have saves := stands.saves
  generalize phase : job.run.phase = current at saves
  generalize saveDeeds past = done at saves
  cases saves with
  | @saving failed more =>
    refine ⟨.saved (outcomes (failed + 1)), .inr ⟨failed + 1, rfl⟩, _,
      saveDeed_saving phase more _, ?_⟩
    intro number outcome same
    cases same
    rfl
  | @pausing failed more => exact ⟨.rested, .inl rfl, _, saveDeed_pausing phase, nofun⟩

/-- A save comes to its end if wherever it stands a deed can follow. -/
theorem SaveCourse.ends (reached : List Occurrence → Job → Prop)
    (follows : ∀ past job, reached past job → AtSave start errand outcomes past job →
      ∃ now input deed, reached (past ++ [⟨job, now, input⟩]) (job.advance now input).1 ∧
        job.saveDeed? input = some deed ∧
        ∀ number outcome, deed = .saved number outcome → outcome = outcomes number)
    (course : SaveCourse start past job none) (stands : AtSave start errand outcomes past job)
    (here : reached past job) :
    ∃ later last outcome, SaveCourse start (past ++ later) last (some outcome) ∧
      SaveEnded start errand outcomes (past ++ later) last outcome ∧
      reached (past ++ later) last := by
  -- The induction is on the deeds that are left.
  generalize bound : 2 * start.run.infraRetry.lastSave outcomes - (saveDeeds past).length = left
  induction left generalizing past job with
  | zero =>
    have short := stands.saves.length_lt
    omega
  | succ left inductionHypothesis =>
    obtain ⟨now, input, deed, there, does, obeys⟩ := follows past job here stands
    have further := course.next now input
    have after := stands.next now input fun number outcome same =>
      obeys number outcome (Option.some.inj (does.symm.trans same))
    generalize job.lastAnswer? now input = result at further after
    cases result with
    | some outcome => exact ⟨_, _, outcome, further, after, there⟩
    | none =>
      have grown : (saveDeeds (past ++ [⟨job, now, input⟩])).length =
          (saveDeeds past).length + 1 := by
        rw [saveDeeds_concat, does, List.length_append]
        rfl
      obtain ⟨later, last, outcome, whole, ended, reaches⟩ :=
        inductionHypothesis further after there (by omega)
      rw [List.append_assoc] at whole ended reaches
      exact ⟨_, last, outcome, whole, ended, reaches⟩

/-- A save that is carried on comes to its end. -/
theorem SaveCourse.carried (course : SaveCourse start past job none)
    (stands : AtSave start errand outcomes past job) :
    ∃ later last outcome, SaveCourse start (past ++ later) last (some outcome) ∧
      SaveEnded start errand outcomes (past ++ later) last outcome ∧
      ∀ occurrence ∈ later, occurrence.input.CarriesSaveOn outcomes := by
  let carried (done : List Occurrence) (_ : Job) : Prop := ∃ later, done = past ++ later ∧
    ∀ occurrence ∈ later, occurrence.input.CarriesSaveOn outcomes
  have follows (done : List Occurrence) (job : Job) (here : carried done job)
      (stands : AtSave start errand outcomes done job) :
      ∃ now input deed, carried (done ++ [⟨job, now, input⟩]) (job.advance now input).1 ∧
        job.saveDeed? input = some deed ∧
        ∀ number outcome, deed = .saved number outcome → outcome = outcomes number := by
    obtain ⟨later, rfl, carry⟩ := here
    obtain ⟨input, carries, deed, does⟩ := stands.deed
    refine ⟨⟨⟨0, 0⟩, 0⟩, input, deed, ⟨_, List.append_assoc .., ?_⟩, does⟩
    intro occurrence member
    rcases List.mem_append.mp member with old | new
    · exact carry occurrence old
    · rw [List.mem_singleton.mp new]
      exact carries
  obtain ⟨later, last, outcome, whole, ended, _, same, carry⟩ :=
    course.ends carried follows stands ⟨[], by simp, by simp⟩
  rw [← List.append_cancel_left same] at carry
  exact ⟨later, last, outcome, whole, ended, carry⟩

end

end Job

end WorkflowEngine
