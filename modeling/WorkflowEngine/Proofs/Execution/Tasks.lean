/-
This file proves what the moves of a task keep, and how it counts the lacks of an executor.
-/

import WorkflowEngine.Proofs.Execution.Course
import WorkflowEngine.Proofs.Workflow.Backoff

namespace WorkflowEngine

/-- A task keeps its step, its input and its policies. -/
structure StepTask.Alike (before after : StepTask) : Prop where
  index : after.index = before.index
  input : after.input = before.input
  retry : after.retry = before.retry
  infraRetry : after.infraRetry = before.infraRetry

namespace StepTask

theorem attemptEnded_alike (task : StepTask) (outcome : AttemptOutcome) :
    task.Alike (task.attemptEnded outcome) := by
  unfold attemptEnded
  dsimp only
  split
  · exact ⟨rfl, rfl, rfl, rfl⟩
  · split <;> exact ⟨rfl, rfl, rfl, rfl⟩

theorem lacksExecutor_alike (task : StepTask) (message : String) :
    task.Alike (task.lacksExecutor message) := by
  unfold lacksExecutor
  dsimp only
  split <;> exact ⟨rfl, rfl, rfl, rfl⟩

theorem rested_alike (task : StepTask) : task.Alike task.rested := by
  unfold rested
  split <;> exact ⟨rfl, rfl, rfl, rfl⟩

theorem interrupt_alike (task : StepTask) : task.Alike task.interrupt := by
  unfold interrupt
  split <;> exact ⟨rfl, rfl, rfl, rfl⟩

/-- A task that has not ended has lacked its executor less often than is allowed. -/
structure Measured (task : StepTask) : Prop where
  unended : (∀ result, task.phase ≠ .ended result) →
    task.unavailable < task.infraRetry.attempts
  starved : ∀ message, task.phase = .ended (.unavailable message) →
    task.infraRetry.attempts ≤ task.unavailable

theorem Measured.rephase {task : StepTask} (measured : task.Measured)
    (unended : ∀ result, task.phase ≠ .ended result) {after : StepTask}
    (unavailable : after.unavailable = task.unavailable)
    (infraRetry : after.infraRetry = task.infraRetry)
    (fed : ∀ message, after.phase ≠ .ended (.unavailable message)) : after.Measured := by
  refine ⟨?_, fun message starved => absurd starved (fed message)⟩
  intro _
  rw [unavailable, infraRetry]
  exact measured.unended unended

theorem Measured.attemptEnded {task : StepTask} (measured : task.Measured)
    (attempting : task.phase = .attempting) (outcome : AttemptOutcome) :
    (task.attemptEnded outcome).Measured ∧
      (task.attemptEnded outcome).unavailable = task.unavailable := by
  have unended : ∀ result, task.phase ≠ .ended result := by simp [attempting]
  unfold StepTask.attemptEnded
  dsimp only
  split
  · exact ⟨measured.rephase unended rfl rfl (by simp [finish]), rfl⟩
  · split
    · exact ⟨measured.rephase unended rfl rfl (by simp [finish]), rfl⟩
    · exact ⟨measured.rephase unended rfl rfl (by simp), rfl⟩

/-- A lack of the executor is counted, and the last one that is allowed ends the task. -/
theorem Measured.lacksExecutor {task : StepTask} (measured : task.Measured)
    (attempting : task.phase = .attempting) (message : String) :
    (task.lacksExecutor message).Measured ∧
      (task.lacksExecutor message).unavailable.toNat = task.unavailable.toNat + 1 := by
  have less := UInt32.lt_iff_toNat_lt.mp (measured.unended (by simp [attempting]))
  have bound := task.infraRetry.attempts.toNat_lt
  have counted : (task.unavailable + 1).toNat = task.unavailable.toNat + 1 := by
    rw [UInt32.toNat_add]
    simp only [UInt32.reduceToNat]
    omega
  unfold StepTask.lacksExecutor
  dsimp only
  split
  · next last => exact ⟨⟨fun unended => absurd rfl (unended _), fun _ _ => last⟩, counted⟩
  · next more => exact ⟨⟨fun _ => UInt32.not_le.mp more, by simp⟩, counted⟩

theorem Measured.rested {task : StepTask} (measured : task.Measured) :
    task.rested.Measured ∧ task.rested.unavailable = task.unavailable := by
  unfold StepTask.rested
  split
  · next pausing =>
    exact ⟨measured.rephase (by simp [pausing]) rfl rfl (by simp), rfl⟩
  · exact ⟨measured, rfl⟩

theorem Measured.interrupt {task : StepTask} (measured : task.Measured) :
    task.interrupt.Measured ∧ task.interrupt.unavailable = task.unavailable := by
  unfold StepTask.interrupt
  split
  · next pausing =>
    exact ⟨measured.rephase (by simp [pausing]) rfl rfl (by simp [finish]), rfl⟩
  · exact ⟨measured, rfl⟩

end StepTask

namespace Job

theorem touch_alike (job : Job) (input : Input) (task : StepTask) :
    task.Alike (job.touch input task) := by
  have untouched : task.Alike task := ⟨rfl, rfl, rfl, rfl⟩
  unfold touch
  split
  · split
    · exact task.attemptEnded_alike _
    · exact untouched
  · split
    · exact task.lacksExecutor_alike _
    · exact untouched
  · split
    · exact task.rested_alike
    · exact untouched
  · split
    · exact task.interrupt_alike
    · exact untouched
  · exact untouched

def Input.starves (input : Input) (task : StepTask) : Bool :=
  match input with
  | .executorMissing index => task.index == index && task.phase == .attempting
  | _ => false

/-- A touch keeps a task measured and counts the lack that it may find. -/
theorem touch_measured (job : Job) (input : Input) {task : StepTask} (measured : task.Measured) :
    (job.touch input task).Measured ∧ (job.touch input task).unavailable.toNat =
      task.unavailable.toNat + if input.starves task then 1 else 0 := by
  have kept {after : StepTask} (facts : after.Measured ∧ after.unavailable = task.unavailable) :
      after.Measured ∧ after.unavailable.toNat = task.unavailable.toNat + 0 :=
    ⟨facts.1, congrArg UInt32.toNat facts.2⟩
  cases input with
  | attemptEnded index outcome =>
    simp only [touch, Input.starves]
    split
    · next own => exact kept (measured.attemptEnded own.2 outcome)
    · exact kept ⟨measured, rfl⟩
  | executorMissing index =>
    simp only [touch]
    split
    · next own =>
      have starves : Input.starves (.executorMissing index) task = true := by
        simp [Input.starves, own]
      rw [starves]
      exact measured.lacksExecutor own.2 _
    · next other =>
      have fed : Input.starves (.executorMissing index) task = false := by
        simpa [Input.starves] using other
      rw [fed]
      exact kept ⟨measured, rfl⟩
  | pauseEnded index =>
    simp only [touch, Input.starves]
    split
    · exact kept measured.rested
    · exact kept ⟨measured, rfl⟩
  | pauseInterrupted index =>
    simp only [touch, Input.starves]
    split
    · exact kept measured.interrupt
    · exact kept ⟨measured, rfl⟩
  | _ => exact kept ⟨measured, rfl⟩

/-- Only a pause that may be interrupted ends interrupted. -/
theorem touch_interrupted (job : Job) (input : Input) {task : StepTask}
    (ended : (job.touch input task).phase = .ended .interrupted) :
    task.phase = .ended .interrupted ∨ job.interrupted = true := by
  unfold touch at ended
  split at ended
  · split at ended
    · unfold StepTask.attemptEnded at ended
      dsimp only at ended
      split at ended
      · simp [StepTask.finish] at ended
      · split at ended <;> simp [StepTask.finish] at ended
    · exact Or.inl ended
  · split at ended
    · unfold StepTask.lacksExecutor at ended
      dsimp only at ended
      split at ended <;> simp [StepTask.finish] at ended
    · exact Or.inl ended
  · split at ended
    · unfold StepTask.rested at ended
      split at ended
      · simp at ended
      · exact Or.inl ended
    · exact Or.inl ended
  · split at ended
    · next own => exact Or.inr own.2
    · exact Or.inl ended
  · exact Or.inl ended

end Job

end WorkflowEngine
