/-
This file holds a run together with the tasks of its steps. The tasks move on independently of each
other and of the run; the run learns of a task when it takes its report.
-/

import WorkflowEngine.Execution.Run
import WorkflowEngine.Node.Catalog

namespace WorkflowEngine

/-- An executor runs the steps of the node types that it knows. -/
structure Executor where
  name : String
  catalog : Catalog
  deriving DecidableEq, Repr

/-- The snapshot is what others see of the run. -/
structure Job where
  executor : Executor
  run : Run
  snapshot : Execution
  timeoutMs : Nat
  tasks : List StepTask := []
  cancelRequested : Bool := false
  deriving DecidableEq, Repr

/-- These are the things that may happen to a job. -/
inductive Job.Input where
  | opened
  | saved (outcome : Except StoreError Unit)
  | rested
  | cancelRequested
  | cancelNoticed
  | expired
  | attemptEnded (index : Nat) (outcome : AttemptOutcome)
  | executorMissing (index : Nat)
  | pauseEnded (index : Nat)
  | pauseInterrupted (index : Nat)
  | joined (index : Nat)
  | died (index : Nat) (detail : String)

namespace Job

def prepare (executor : Executor) (plan : Plan) (infraRetry : RetryPolicy) (timeoutMs : Nat)
    (execution : Execution) : Job :=
  { executor := executor
    run := Run.prepare plan infraRetry execution
    snapshot := execution
    timeoutMs := timeoutMs }

def deadline (job : Job) : Nat :=
  job.run.openedAt + job.timeoutMs

/-- Pauses are interrupted from the request for a cancellation or from the first halt on. -/
def interrupted (job : Job) : Bool :=
  job.cancelRequested || job.run.halted.isSome

/-- A request for a cancellation is heard by a run that has not halted. -/
def hearsCancel (job : Job) : Bool :=
  job.cancelRequested && job.run.halted.isNone

/-- The deadline is heard by a run that has not halted. -/
def hearsDeadline (job : Job) (now : Moment) : Bool :=
  decide (job.deadline ≤ now.ticks) && job.run.halted.isNone

def task? (job : Job) (index : Nat) : Option StepTask :=
  job.tasks.find? fun task => task.index == index

def modifyTask (job : Job) (index : Nat) (change : StepTask → StepTask) : Job :=
  { job with tasks := job.tasks.map fun task => if task.index = index then change task else task }

def dropTask (job : Job) (index : Nat) : Job :=
  { job with tasks := job.tasks.filter fun task => task.index != index }

def newTask (job : Job) (index : Nat) (input : Json) : StepTask :=
  { index := index
    input := input
    retry := ((job.run.plan.steps[index]?).map PlanStep.retry).getD .standard
    infraRetry := job.run.infraRetry }

def absorb (job : Job) : Effect → Job
  | .publish snapshot => { job with snapshot := snapshot }
  | .launch index input => { job with tasks := job.tasks ++ [job.newTask index input] }
  | _ => job

def takeTurn (job : Job) (turn : Turn) : Job × List Effect :=
  (turn.effects.foldl absorb { job with run := turn.run }, turn.effects)

def answer (job : Job) (now : Moment) (input : Run.Input) : Job × List Effect :=
  job.takeTurn (job.run.advance now input)

def join (job : Job) (now : Moment) (index : Nat) : Job × List Effect :=
  match job.run.phase, (job.task? index).bind StepTask.report? with
  | .waiting, some report => (job.dropTask index).answer now (.reported report)
  | _, _ => (job, [])

/-- A run learns of a task that died only when it waits. -/
def bury (job : Job) (now : Moment) (index : Nat) (detail : String) : Job × List Effect :=
  match job.run.phase, job.task? index with
  | .waiting, some task =>
    if task.report?.isNone then (job.dropTask index).answer now (.lost index detail) else (job, [])
  | _, _ => (job, [])

/-- A pause that is interrupted does not end by itself. -/
def advance (job : Job) (now : Moment) : Input → Job × List Effect
  | .opened => job.answer now .opened
  | .saved outcome => job.answer now (.saved outcome)
  | .rested => job.answer now .rested
  | .cancelRequested => ({ job with cancelRequested := true }, [])
  | .cancelNoticed => if job.hearsCancel then job.answer now .cancelled else (job, [])
  | .expired => if job.hearsDeadline now then job.answer now .expired else (job, [])
  | .attemptEnded index outcome =>
    (job.modifyTask index fun task =>
      if task.phase = .attempting then task.attemptEnded outcome else task, [])
  | .executorMissing index =>
    let nodeType := ((job.run.plan.steps[index]?).map PlanStep.nodeType).getD ""
    (job.modifyTask index fun task =>
      if task.phase = .attempting then task.lacksExecutor (executorUnavailable nodeType)
      else task, [])
  | .pauseEnded index =>
    if job.interrupted then (job, []) else (job.modifyTask index StepTask.rested, [])
  | .pauseInterrupted index =>
    if job.interrupted then (job.modifyTask index StepTask.interrupt, []) else (job, [])
  | .joined index => job.join now index
  | .died index detail => job.bury now index detail

end Job

end WorkflowEngine
