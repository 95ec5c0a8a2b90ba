/-
This file proves how long a run pauses between two saves. It falls asleep for as long as the policy
for the infrastructure says, and goes on when that time has come, and not before.
-/

import WorkflowEngine.Proofs.Simulation.StepMoves
import WorkflowEngine.Proofs.Workflow.Backoff

namespace WorkflowEngine.Simulation

variable {S : Type}

/-- These are the moves of a run that pauses until it has rested. -/
def PauseMove (before : Simulation S) (id : Uuid) (milliseconds : Nat) :
    Simulation S → Prop :=
  before.Pause (.run id) milliseconds (before.Advanced id .rested)

/-- A run only pauses for the delay that its policy gives after so many failures. -/
theorem moveRun_pause [ExecutionStore S] {simulation : Simulation S} {id : Uuid} {job : Job}
    {errand : Errand} {failures : UInt32} (present : simulation.engine.jobs.get? id = some job)
    (phase : job.run.phase = .pausing errand failures) :
    PauseMove simulation id (job.run.infraRetry.delay failures.toNat)
      (simulation.moveRun id).simulation := by
  rw [← RetryPolicy.backoff_toNat]
  simp only [moveRun, present, phase]
  exact pause_move simulation (.run id) _ fun between same => same.advanced id .rested

end WorkflowEngine.Simulation
