/-
This file proves how the task of a step makes its attempts. It makes them one after the other, with
a pause between two of them, until an outcome settles the step, the policy allows no more, or a
pause is interrupted.
-/

import WorkflowEngine.Proofs.Execution.Tasks

namespace WorkflowEngine

namespace AttemptOutcome

/-- An outcome settles a step unless it is a retryable error or a timeout. -/
def settles : AttemptOutcome → Bool
  | .succeeded _ => true
  | .failed (.retryable _) => false
  | .failed (.fatal _) => true
  | .failed (.invalidParameters _) => true
  | .timedOut => false

def stepResult : AttemptOutcome → StepResult
  | .succeeded output => .succeeded output
  | .failed error => .failed error.message
  | .timedOut => .failed "step timed out"

end AttemptOutcome

namespace RetryPolicy

/-- The first outcome that settles the step is the last, if the policy allows as many. -/
def lastAttempt (policy : RetryPolicy) (outcomes : Nat → AttemptOutcome) : Nat :=
  ((List.range' 1 policy.limit).find? fun number => (outcomes number).settles).getD
    policy.limit

variable {policy : RetryPolicy} {outcomes : Nat → AttemptOutcome}

/-- The last attempt is the first one that settles the step or that exhausts the policy. -/
structure IsLast (policy : RetryPolicy) (outcomes : Nat → AttemptOutcome) (last : Nat) : Prop where
  positive : 0 < last
  allowed : last ≤ policy.limit
  earlier : ∀ number, 0 < number → number < last → (outcomes number).settles = false
  reached : (outcomes last).settles = true ∨ last = policy.limit

theorem lastAttempt_isLast (policy : RetryPolicy) (outcomes : Nat → AttemptOutcome) :
    policy.IsLast outcomes (policy.lastAttempt outcomes) := by
  have positive := policy.limit_positive
  unfold lastAttempt
  cases found : (List.range' 1 policy.limit).find? fun number =>
      (outcomes number).settles with
  | none =>
    refine ⟨positive, Nat.le_refl _, ?_, .inr rfl⟩
    intro number above below
    simpa using List.find?_eq_none.mp found number
      (List.mem_range'_1.mpr ⟨above, Nat.lt_add_left 1 below⟩)
  | some first =>
    obtain ⟨settles, member, earlier⟩ := List.find?_range'_eq_some.mp found
    obtain ⟨above, below⟩ := List.mem_range'_1.mp member
    have allowed : first ≤ policy.limit := by omega
    exact ⟨above, allowed, fun number above below => by simpa using earlier number above below,
      .inl settles⟩

theorem IsLast.unique {first second : Nat} (one : policy.IsLast outcomes first)
    (other : policy.IsLast outcomes second) : first = second := by
  have notBelow {low high : Nat} (lower : policy.IsLast outcomes low)
      (upper : policy.IsLast outcomes high) : ¬low < high := by
    intro below
    rcases lower.reached with settles | spent
    · rw [upper.earlier low lower.positive below] at settles
      cases settles
    · exact Nat.not_lt.mpr upper.allowed (spent ▸ below)
  exact Nat.le_antisymm (Nat.not_lt.mp (notBelow other one)) (Nat.not_lt.mp (notBelow one other))

/-- If an outcome settles the step, the attempts stop there at the latest. -/
theorem lastAttempt_eq_min {first : Nat} (positive : 0 < first)
    (settles : (outcomes first).settles = true)
    (earlier : ∀ number, 0 < number → number < first → (outcomes number).settles = false) :
    policy.lastAttempt outcomes = min policy.limit first := by
  have attempts := policy.limit_positive
  refine (policy.lastAttempt_isLast outcomes).unique ⟨Nat.lt_min.mpr ⟨attempts, positive⟩,
    Nat.min_le_left _ _, fun number above below => earlier number above (Nat.lt_min.mp below).2, ?_⟩
  rcases Nat.le_total policy.limit first with spent | settled
  · exact .inr (Nat.min_eq_left spent)
  · exact .inl ((Nat.min_eq_right settled).symm ▸ settles)

/-- If no outcome settles the step, the policy is exhausted. -/
theorem lastAttempt_unsettled
    (never : ∀ number, 0 < number → (outcomes number).settles = false) :
    policy.lastAttempt outcomes = policy.limit :=
  (policy.lastAttempt_isLast outcomes).unique
    ⟨policy.limit_positive, Nat.le_refl _,
      fun number above _ => never number above, .inr rfl⟩

/-- A policy without attempts allows one all the same. -/
example : lastAttempt ⟨0, 100, 10000⟩ (fun _ => .timedOut) = 1 := by decide

/-- The next attempt is the last if it settles the step or exhausts the policy. -/
theorem lastAttempt_next {made : Nat} (more : made < policy.lastAttempt outcomes) :
    (outcomes (made + 1)).settles = true ∨ policy.limit ≤ made + 1 ↔
      made + 1 = policy.lastAttempt outcomes := by
  obtain ⟨_, allowed, earlier, reached⟩ := policy.lastAttempt_isLast outcomes
  constructor
  · rintro (settles | spent)
    · by_contra another
      rw [earlier (made + 1) (Nat.succ_pos made) (Nat.lt_of_le_of_ne more another)] at settles
      cases settles
    · exact Nat.le_antisymm more (Nat.le_trans allowed spent)
  · intro last
    rw [last]
    exact reached.imp_right fun spent => Nat.le_of_eq spent.symm

end RetryPolicy

namespace StepTask

/-- An attempt has a number, and a pause takes some milliseconds. -/
inductive Deed where
  | attempted (number : Nat) (outcome : AttemptOutcome)
  | lacked
  | rested (milliseconds : UInt64)
  | interrupted
  deriving DecidableEq, Repr

def Deed.number? : Deed → Option Nat
  | .attempted number _ => some number
  | _ => none

/-- An attempt follows a sequence by having the outcome of its number. -/
def Deed.Follows (outcomes : Nat → AttemptOutcome) : Deed → Prop
  | .attempted number outcome => outcome = outcomes number
  | .lacked => False
  | .rested _ => True
  | .interrupted => True

def pause? (task : StepTask) : Option UInt64 :=
  match task.phase with
  | .pausing milliseconds => some milliseconds
  | _ => none

/-- After an attempt a task has ended, or it pauses as long as its policy says. -/
theorem attemptEnded_eq (task : StepTask) (outcome : AttemptOutcome) :
    task.attemptEnded outcome = { task with
      attempts := task.attempt
      phase :=
        if outcome.settles = true ∨ task.retry.attempts ≤ task.attempt then
          .ended outcome.stepResult
        else .pausing (task.retry.backoff task.attempt) } := by
  unfold attemptEnded
  cases outcome with
  | succeeded output => simp [AttemptOutcome.result, AttemptOutcome.settles, finish,
      AttemptOutcome.stepResult]
  | timedOut =>
    by_cases spent : task.retry.attempts ≤ task.attempt <;>
      simp [AttemptOutcome.result, AttemptOutcome.settles, finish, AttemptOutcome.stepResult, spent]
  | failed error =>
    by_cases spent : task.retry.attempts ≤ task.attempt <;> cases error <;>
      simp [AttemptOutcome.result, AttemptOutcome.settles, finish, AttemptOutcome.stepResult,
        NodeError.isRetryable, spent]

end StepTask

namespace RetryPolicy

open StepTask

variable {policy : RetryPolicy} {outcomes : Nat → AttemptOutcome}

/-- A task makes an attempt and a pause in each of these rounds. -/
def rounds (policy : RetryPolicy) (outcomes : Nat → AttemptOutcome) (made : Nat) : List Deed :=
  (List.range' 1 made).flatMap fun number =>
    [.attempted number (outcomes number), .rested (policy.backoff (.ofNat number))]

theorem rounds_succ (made : Nat) :
    policy.rounds outcomes (made + 1) = policy.rounds outcomes made ++
      [.attempted (made + 1) (outcomes (made + 1)),
        .rested (policy.backoff (.ofNat (made + 1)))] := by
  simp [rounds, List.range'_1_concat, Nat.add_comm 1 made]

@[simp] theorem rounds_length (made : Nat) : (policy.rounds outcomes made).length = 2 * made := by
  induction made with
  | zero => rfl
  | succ made inductionHypothesis =>
    rw [rounds_succ, List.length_append, inductionHypothesis]
    rfl

@[simp] theorem rounds_numbers (made : Nat) :
    (policy.rounds outcomes made).filterMap Deed.number? = List.range' 1 made := by
  induction made with
  | zero => rfl
  | succ made inductionHypothesis =>
    rw [rounds_succ, List.filterMap_append, inductionHypothesis, List.range'_1_concat,
      Nat.add_comm 1 made]
    rfl

theorem interrupted_not_mem_rounds (made : Nat) : .interrupted ∉ policy.rounds outcomes made := by
  simp [rounds]

/-- Each phase of a task tells which deeds and how many attempts are behind it. -/
inductive Retries (policy : RetryPolicy) (outcomes : Nat → AttemptOutcome) :
    List Deed → Nat → Phase → Prop where
  | attempting {made : Nat} (more : made < policy.lastAttempt outcomes) :
    Retries policy outcomes (policy.rounds outcomes made) made .attempting
  | pausing {made : Nat} (more : made + 1 < policy.lastAttempt outcomes) :
    Retries policy outcomes
      (policy.rounds outcomes made ++ [.attempted (made + 1) (outcomes (made + 1))])
      (made + 1) (.pausing (policy.backoff (.ofNat (made + 1))))
  | settled {made : Nat} (last : made + 1 = policy.lastAttempt outcomes) :
    Retries policy outcomes
      (policy.rounds outcomes made ++ [.attempted (made + 1) (outcomes (made + 1))])
      (made + 1) (.ended (outcomes (made + 1)).stepResult)
  | interrupted {made : Nat} (more : made + 1 < policy.lastAttempt outcomes) :
    Retries policy outcomes
      (policy.rounds outcomes made ++ [.attempted (made + 1) (outcomes (made + 1)), .interrupted])
      (made + 1) (.ended .interrupted)

namespace Retries

variable {deeds : List Deed} {count : Nat} {phase : Phase}

/-- A task that is new has done nothing. -/
theorem fresh : policy.Retries outcomes [] 0 .attempting :=
  .attempting (policy.lastAttempt_isLast outcomes).positive

/-- While a task makes an attempt its counter is below the number of the last attempt. -/
theorem attempting_lt (retries : policy.Retries outcomes deeds count .attempting) :
    count < policy.lastAttempt outcomes := by
  cases retries with
  | attempting more => exact more

theorem count_eq (retries : policy.Retries outcomes deeds count phase) :
    count = (deeds.length + 1) / 2 := by
  cases retries <;> simp only [rounds_length, List.length_append, List.length_cons,
    List.length_nil] <;> omega

theorem numbers (retries : policy.Retries outcomes deeds count phase) :
    deeds.filterMap Deed.number? = List.range' 1 count := by
  cases retries with
  | attempting => exact rounds_numbers _
  | _ => simp [rounds_numbers, Deed.number?, List.range'_1_concat, Nat.add_comm]

theorem phase_eq (retries : policy.Retries outcomes deeds count phase) : phase =
    if .interrupted ∈ deeds then .ended .interrupted
    else if deeds.length % 2 = 0 then .attempting
    else if count < policy.lastAttempt outcomes then .pausing (policy.backoff (.ofNat count))
    else .ended (outcomes count).stepResult := by
  cases retries with
  | attempting => simp [interrupted_not_mem_rounds]
  | pausing more => simp [interrupted_not_mem_rounds, more]
  | settled last => simp [interrupted_not_mem_rounds, last]
  | interrupted => simp

/-- The deeds of a task tell how many attempts it counts and in which phase it is. -/
theorem unique {other : Nat} {later : Phase} (retries : policy.Retries outcomes deeds count phase)
    (again : policy.Retries outcomes deeds other later) : count = other ∧ phase = later := by
  have counts : count = other := retries.count_eq.trans again.count_eq.symm
  exact ⟨counts, by rw [retries.phase_eq, again.phase_eq, counts]⟩

/-- The counter does not overflow, whatever the limit of the policy is. -/
theorem attempt_toNat {task : StepTask}
    (retries : policy.Retries outcomes deeds task.attempts.toNat .attempting) :
    task.attempt.toNat = task.attempts.toNat + 1 := by
  have less := retries.attempting_lt
  have allowed := (policy.lastAttempt_isLast outcomes).allowed
  have word := policy.limit_word
  rw [StepTask.attempt, UInt32.toNat_add]
  simp only [UInt32.size, UInt32.reduceToNat] at word ⊢
  omega

/-- The attempt that has the outcome of its number is followed by a pause or by the end. -/
theorem attempted {task : StepTask} (retry : task.retry = policy)
    (retries : policy.Retries outcomes deeds task.attempts.toNat .attempting) :
    policy.Retries outcomes
      (deeds ++ [.attempted task.attempt.toNat (outcomes task.attempt.toNat)])
      (task.attemptEnded (outcomes task.attempt.toNat)).attempts.toNat
      (task.attemptEnded (outcomes task.attempt.toNat)).phase := by
  have counted := retries.attempt_toNat
  have number : task.attempt = .ofNat (task.attempts.toNat + 1) := by
    rw [← counted, UInt32.ofNat_toNat]
  rw [attemptEnded_eq]
  simp only [retry, UInt32.le_iff_toNat_le, counted, attempts_toNat]
  rw [number]
  generalize task.attempts.toNat = made at retries
  cases retries with
  | attempting more =>
    split
    · next ends => exact .settled ((lastAttempt_next more).mp ends)
    · next another =>
      exact .pausing (Nat.lt_of_le_of_ne more (mt (lastAttempt_next more).mpr another))

theorem rested {milliseconds : UInt64}
    (retries : policy.Retries outcomes deeds count (.pausing milliseconds)) :
    policy.Retries outcomes (deeds ++ [.rested milliseconds]) count .attempting := by
  cases retries with
  | pausing more =>
    rw [List.append_assoc]
    exact rounds_succ _ ▸ .attempting more

theorem interrupt {milliseconds : UInt64}
    (retries : policy.Retries outcomes deeds count (.pausing milliseconds)) :
    policy.Retries outcomes (deeds ++ [.interrupted]) count (.ended .interrupted) := by
  cases retries with
  | pausing more =>
    rw [List.append_assoc]
    exact .interrupted more

end Retries

/-- A completed task ends with the outcome of its last attempt. -/
structure Completed (policy : RetryPolicy) (outcomes : Nat → AttemptOutcome) (deeds : List Deed)
    (count : Nat) (result : StepResult) : Prop where
  whole : deeds = policy.rounds outcomes (policy.lastAttempt outcomes - 1) ++
    [.attempted (policy.lastAttempt outcomes) (outcomes (policy.lastAttempt outcomes))]
  numbers : deeds.filterMap Deed.number? = List.range' 1 (policy.lastAttempt outcomes)
  count : count = policy.lastAttempt outcomes
  result : result = (outcomes (policy.lastAttempt outcomes)).stepResult

/-- A task that ends without an interrupted pause is completed. -/
theorem Retries.completed {deeds : List Deed} {count : Nat} {result : StepResult}
    (retries : policy.Retries outcomes deeds count (.ended result))
    (uninterrupted : .interrupted ∉ deeds) : policy.Completed outcomes deeds count result := by
  have numbers := retries.numbers
  cases retries with
  | @settled made last =>
    refine ⟨?_, last ▸ numbers, last, by rw [last]⟩
    rw [← last, Nat.add_sub_cancel]
  | interrupted => simp at uninterrupted

end RetryPolicy

end WorkflowEngine
