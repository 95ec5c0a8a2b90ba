/-
This file holds the task that makes the attempts of one step. Between two attempts the task pauses;
a run that halts interrupts the pause.
-/

import WorkflowEngine.Execution.Attempt
import WorkflowEngine.Workflow.RetryPolicy

namespace WorkflowEngine

/-- A step ends with an output, a failure, without an executor, or interrupted. -/
inductive StepResult where
  | succeeded (output : Json)
  | failed (message : String)
  | unavailable (message : String)
  | interrupted
  deriving DecidableEq, Repr

/-- A report gives the number of attempts that were made. -/
structure StepReport where
  index : Nat
  attempts : UInt32
  result : StepResult
  deriving DecidableEq, Repr

inductive StepTask.Phase where
  | attempting
  | pausing (milliseconds : UInt64)
  | ended (result : StepResult)
  deriving DecidableEq, Repr

/-- Attempts and lacks of an executor are counted apart. -/
structure StepTask where
  index : Nat
  input : Json
  retry : RetryPolicy
  infraRetry : RetryPolicy
  attempts : UInt32 := 0
  unavailable : UInt32 := 0
  phase : StepTask.Phase := .attempting
  deriving DecidableEq, Repr

namespace StepTask

/-- Attempts are counted from one. -/
def attempt (task : StepTask) : UInt32 :=
  task.attempts + 1

def finish (task : StepTask) (result : StepResult) : StepTask :=
  { task with phase := .ended result }

/-- A task without an executor tries again as the policy for the infrastructure says. -/
def lacksExecutor (task : StepTask) (message : String) : StepTask :=
  let task := { task with unavailable := task.unavailable + 1 }
  if task.infraRetry.attempts ≤ task.unavailable then task.finish (.unavailable message)
  else { task with phase := .pausing (task.infraRetry.backoff task.unavailable) }

/-- A retryable failure is followed by another attempt while the policy allows it. -/
def attemptEnded (task : StepTask) (outcome : AttemptOutcome) : StepTask :=
  let task := { task with attempts := task.attempt }
  match outcome.result with
  | .ok output => task.finish (.succeeded output)
  | .error failure =>
    if !failure.retryable || task.retry.attempts ≤ task.attempts then
      task.finish (.failed failure.message)
    else { task with phase := .pausing (task.retry.backoff task.attempts) }

def rested (task : StepTask) : StepTask :=
  match task.phase with
  | .pausing _ => { task with phase := .attempting }
  | _ => task

def interrupt (task : StepTask) : StepTask :=
  match task.phase with
  | .pausing _ => task.finish .interrupted
  | _ => task

def report? (task : StepTask) : Option StepReport :=
  match task.phase with
  | .ended result => some ⟨task.index, task.attempts, result⟩
  | _ => none

end StepTask

end WorkflowEngine
