/-
This file proves that a task counts no more attempts than its policy allows, and that a step which
has succeeded was attempted.
-/

import WorkflowEngine.Proofs.Execution.Soundness

namespace WorkflowEngine

namespace StepTask

/-- A task that has not ended has an attempt left. -/
structure Counted (task : StepTask) : Prop where
  bounded : task.attempts ≤ task.retry.attempts
  unended : (∀ result, task.phase ≠ .ended result) → task.attempts < task.retry.attempts
  succeeded : ∀ output, task.phase = .ended (.succeeded output) → 1 ≤ task.attempts

variable {task after : StepTask}

/-- The next attempt is allowed, and its number does not overflow. -/
theorem attempt_allowed (less : task.attempts < task.retry.attempts) :
    1 ≤ task.attempt ∧ task.attempt ≤ task.retry.attempts := by
  have small := UInt32.lt_iff_toNat_lt.mp less
  have bound := task.retry.attempts.toNat_lt
  have counted : task.attempt.toNat = task.attempts.toNat + 1 := by
    rw [attempt, UInt32.toNat_add]
    exact Nat.mod_eq_of_lt (by simp only [UInt32.reduceToNat]; omega)
  rw [UInt32.le_iff_toNat_le, UInt32.le_iff_toNat_le, counted]
  exact ⟨Nat.le_add_left 1 _, small⟩

/-- A task that makes no attempt stays counted unless it succeeds. -/
theorem Counted.rephase (counted : task.Counted) (unended : ∀ result, task.phase ≠ .ended result)
    (attempts : after.attempts = task.attempts) (retry : after.retry = task.retry)
    (unsucceeded : ∀ output, after.phase ≠ .ended (.succeeded output)) : after.Counted := by
  have less := counted.unended unended
  rw [← attempts, ← retry] at less
  exact ⟨UInt32.le_of_lt less, fun _ => less, fun output ended => absurd ended (unsucceeded output)⟩

theorem Counted.attemptEnded (counted : task.Counted) (attempting : task.phase = .attempting)
    (outcome : AttemptOutcome) : (task.attemptEnded outcome).Counted := by
  obtain ⟨positive, allowed⟩ := attempt_allowed (counted.unended (by simp [attempting]))
  unfold StepTask.attemptEnded
  dsimp only
  split
  · exact ⟨allowed, fun unended => absurd rfl (unended _), fun _ _ => positive⟩
  · split
    · exact ⟨allowed, fun unended => absurd rfl (unended _), by simp [finish]⟩
    · next more =>
      simp only [Bool.or_eq_true, decide_eq_true_eq, not_or, UInt32.not_le] at more
      exact ⟨allowed, fun _ => more.2, by simp⟩

theorem Counted.lacksExecutor (counted : task.Counted) (attempting : task.phase = .attempting)
    (message : String) : (task.lacksExecutor message).Counted := by
  unfold StepTask.lacksExecutor
  dsimp only
  split
  · exact counted.rephase (by simp [attempting]) rfl rfl (by simp [finish])
  · exact counted.rephase (by simp [attempting]) rfl rfl (by simp)

theorem Counted.rested (counted : task.Counted) : task.rested.Counted := by
  unfold StepTask.rested
  split
  · next pausing => exact counted.rephase (by simp [pausing]) rfl rfl (by simp)
  · exact counted

theorem Counted.interrupt (counted : task.Counted) : task.interrupt.Counted := by
  unfold StepTask.interrupt
  split
  · next pausing => exact counted.rephase (by simp [pausing]) rfl rfl (by simp [finish])
  · exact counted

end StepTask

/-- A report has at most as many attempts as the policy allows. -/
structure StepReport.Within (report : StepReport) (retry : RetryPolicy) : Prop where
  bounded : report.attempts.toNat ≤ retry.limit
  succeeded : ∀ output, report.result = .succeeded output → 1 ≤ report.attempts

namespace Job

theorem touch_counted (job : Job) (input : Input) {task : StepTask} (counted : task.Counted) :
    (job.touch input task).Counted := by
  unfold touch
  split
  · split
    · next own => exact counted.attemptEnded own.2 _
    · exact counted
  · split
    · next own => exact counted.lacksExecutor own.2 _
    · exact counted
  · split
    · exact counted.rested
    · exact counted
  · split
    · exact counted.interrupt
    · exact counted
  · exact counted

theorem newTask_counted (job : Job) (index : Nat) (input : Json) :
    (job.newTask index input).Counted :=
  ⟨UInt32.zero_le, fun _ => RetryPolicy.attempts_positive _, by simp [newTask]⟩

section

variable {executor : Executor} {plan : Plan} {infraRetry : RetryPolicy} {timeoutMs : Nat}
  {id tenantId : Uuid} {triggerInput : Json} {past : List Occurrence} {job : Job}

/-- All along a course the tasks stay counted. -/
theorem Course.counted (wellFormed : plan.WellFormed)
    (course : Course (prepare executor plan infraRetry timeoutMs
      (.pending plan id tenantId triggerInput)) past job) : ∀ task ∈ job.tasks, task.Counted := by
  induction course with
  | start => simp [prepare]
  | @next past job course now input inductionHypothesis =>
    intro task member
    rcases (course.sound wellFormed).task_after member with
      ⟨earlier, old, rfl⟩ | ⟨index, _, rfl⟩
    · exact job.touch_counted input (inductionHypothesis earlier old)
    · exact job.newTask_counted index _

/-- A report that the run takes is within the policy of its step. -/
theorem Course.report_within (wellFormed : plan.WellFormed)
    (course : Course (prepare executor plan infraRetry timeoutMs
      (.pending plan id tenantId triggerInput)) past job) {now : Moment} {input : Input}
    {report : StepReport} (answered : job.answer? now input = some (.reported report))
    {step : PlanStep} (found : plan.steps[report.index]? = some step) :
    report.Within step.retry := by
  have taken : report ∈ Occurrence.reports ⟨job, now, input⟩ := by
    simp [Occurrence.reports, Occurrence.answer?, answered, Run.Input.reports]
  obtain ⟨task, member, result, ended, rfl⟩ := task_of_report taken
  have counted := course.counted wellFormed task member
  have policy := ((course.sound wellFormed).charged task member).2 step found
  constructor
  · rw [← policy, ← RetryPolicy.attempts_toNat]
    exact UInt32.le_iff_toNat_le.mp counted.bounded
  · intro output succeeded
    exact counted.succeeded output (ended.trans (congrArg StepTask.Phase.ended succeeded))

end

end Job

end WorkflowEngine
