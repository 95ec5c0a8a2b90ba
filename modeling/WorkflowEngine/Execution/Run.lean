/-
This file holds the run of one execution as a machine. The machine waits for the store, for a pause,
or for its steps, and each answer takes it to its next wait. What it tells others stands in the
effects of the turn, in order.
-/

import WorkflowEngine.Execution.Record
import WorkflowEngine.Execution.StepTask
import WorkflowEngine.Observation.Event
import WorkflowEngine.Observation.Metric
import WorkflowEngine.Store.Error

namespace WorkflowEngine

open Time

/-- A halted run starts nothing more; the first halt decides how the execution ends. -/
inductive Halt where
  | cancelled
  | failed (reason : FailureReason)
  deriving DecidableEq, Repr

/-- The clock in milliseconds never runs back. -/
structure Moment where
  wall : Timestamp
  ticks : Nat
  deriving DecidableEq, Repr

/-- The end of a run is fixed before the last records are saved. -/
structure Ending where
  finishedAt : Timestamp
  elapsedMs : Nat
  deriving DecidableEq, Repr

/-- An errand tells what a save belongs to and what is left to do after it. -/
inductive Errand where
  | opening
  | dispatching (index : Nat) (previous : StepRecord)
  | settling (index : Nat) (released : Bool) (halt : Option Halt)
  | skipping (index : Nat) (rest : List Nat) (halt : Option Halt)
  | sweeping (ending : Ending) (index : Nat) (rest : List Nat)
  | closing (ending : Ending)
  deriving DecidableEq, Repr

/-- A run that saves or pauses has counted the failures of this save so far. -/
inductive Run.Phase where
  | unopened
  | saving (errand : Errand) (failures : UInt32)
  | pausing (errand : Errand) (failures : UInt32)
  | waiting
  | closed
  deriving DecidableEq, Repr

structure Run where
  plan : Plan
  infraRetry : RetryPolicy
  execution : Execution
  waitingOn : List Nat
  ready : List Nat := []
  inFlight : List Nat := []
  halted : Option Halt := none
  openedAt : Nat := 0
  phase : Run.Phase := .unopened
  deriving DecidableEq, Repr

/-- An effect is told to observers, to the steps or to the gate. -/
inductive Effect where
  | measure (metric : Metric)
  | announce (event : Event)
  | publish (snapshot : Execution)
  | launch (index : Nat) (input : Json)
  | interrupt
  | releaseSlot
  deriving DecidableEq, Repr

/-- A turn is the run after an answer and what it has told on the way. -/
structure Turn where
  run : Run
  effects : List Effect := []
  deriving DecidableEq, Repr

namespace Turn

def andThen (turn : Turn) (next : Run → Turn) : Turn :=
  let later := next turn.run
  ⟨later.run, turn.effects ++ later.effects⟩

end Turn

/-- The answers for which a run waits. -/
inductive Run.Input where
  | opened
  | saved (outcome : Except StoreError Unit)
  | rested
  | reported (report : StepReport)
  | lost (index : Nat) (detail : String)
  | cancelled
  | expired

namespace Run

def prepare (plan : Plan) (infraRetry : RetryPolicy) (execution : Execution) : Run :=
  { plan := plan
    infraRetry := infraRetry
    execution := execution
    waitingOn := plan.steps.map fun step => step.predecessors.length }

def record (run : Run) (index : Nat) : StepRecord :=
  (run.execution.steps[index]?).getD (.pending "")

def modifyRecord (run : Run) (index : Nat) (change : StepRecord → StepRecord) : Run :=
  { run with execution :=
    { run.execution with steps := run.execution.steps.modify index change } }

def successors (run : Run) (index : Nat) : List Nat :=
  ((run.plan.steps[index]?).map PlanStep.successors).getD []

def announceExecution (run : Run) : Effect :=
  .announce (.execution
    ⟨run.execution.id, run.execution.tenantId, run.execution.workflowId, run.execution.status⟩)

def announceStep (run : Run) (index : Nat) : Effect :=
  let record := run.record index
  .announce (.step
    ⟨run.execution.id, run.execution.tenantId, record.nodeId, record.status, record.attempt⟩)

def stepSettled (run : Run) (index : Nat) : List Effect :=
  [.measure (.stepCompleted run.execution.tenantId (run.record index).status),
    run.announceStep index]

def snapshot (run : Run) : Effect :=
  .publish run.execution

def save (run : Run) (errand : Errand) : Run :=
  { run with phase := .saving errand 0 }

/-- A member that is missing reads as null. -/
def predecessorValue (run : Run) (predecessor : Predecessor) : Json :=
  let output := ((run.record predecessor.index).output).getD .null
  match predecessor.outputSlot with
  | some slot => (output.get? slot).getD .null
  | none => output

/-- An entry step gets the trigger input, and several values are gathered in an object. -/
def resolveInput (run : Run) (index : Nat) : Json :=
  match ((run.plan.steps[index]?).map PlanStep.predecessors).getD [] with
  | [] => run.execution.triggerInput
  | [predecessor] => run.predecessorValue predecessor
  | several => Json.ofMembers (several.map fun predecessor =>
      (predecessor.nodeId, run.predecessorValue predecessor))

/-- A halt interrupts the pauses of the steps. -/
def halt (run : Run) (halt : Halt) : Turn :=
  match run.halted with
  | some _ => ⟨run, []⟩
  | none => ⟨{ run with halted := some halt }, [.interrupt]⟩

def haltOnStore (run : Run) (activity : String) (error : StoreError) : Turn :=
  run.halt (.failed (.infrastructureError (activity ++ ": " ++ error.message)))

/-- Ready steps are held in order. -/
def enlist (index : Nat) : List Nat → List Nat
  | [] => [index]
  | first :: rest =>
    if index < first then index :: first :: rest
    else if index = first then first :: rest
    else first :: enlist index rest

def makeReady (run : Run) (index : Nat) : Run :=
  { run.modifyRecord index fun record => { record with status := .ready } with
    ready := enlist index run.ready }

def close (run : Run) (ending : Ending) : Turn :=
  let status := match run.halted with
    | none => ExecutionStatus.succeeded
    | some .cancelled => .cancelled
    | some (.failed _) => .failed
  let failure := match run.halted with
    | some (.failed reason) => some reason
    | _ => none
  let execution := { run.execution with
    status := status, failure := failure, finishedAt := some ending.finishedAt }
  ⟨{ run with execution := execution }.save (.closing ending), []⟩

/-- Steps that have not settled are cancelled one after the other. -/
def sweep (run : Run) (ending : Ending) : List Nat → Turn
  | [] => run.close ending
  | index :: rest =>
    let run := run.modifyRecord index fun record =>
      { record with status := .cancelled, finishedAt := some ending.finishedAt }
    ⟨run.save (.sweeping ending index rest), run.stepSettled index⟩

def unsettled (run : Run) : List Nat :=
  (List.range run.execution.steps.length).filter fun index =>
    !(run.record index).status.isSettled

def finish (run : Run) (now : Moment) : Turn :=
  run.sweep ⟨now.wall, now.ticks - run.openedAt⟩ run.unsettled

/-- The record is saved as running before the action is called. -/
def dispatch (run : Run) (now : Moment) (index : Nat) (rest : List Nat) : Turn :=
  let previous := run.record index
  let run := { run with ready := rest }.modifyRecord index fun record =>
    { record with status := .running, startedAt := some now.wall }
  ⟨run.save (.dispatching index previous), []⟩

/-- A run without steps in flight ends, and any other run waits. -/
def proceed (run : Run) (now : Moment) : Turn :=
  match run.halted, run.ready with
  | none, index :: rest =>
    if run.inFlight.length < run.plan.maxConcurrency then run.dispatch now index rest
    else if run.inFlight.isEmpty then run.finish now
    else ⟨{ run with phase := .waiting }, []⟩
  | _, _ =>
    if run.inFlight.isEmpty then run.finish now
    else ⟨{ run with phase := .waiting }, []⟩

/-- A step that waits for no other becomes ready unless the run has halted. -/
def releaseStep (run : Run) (index : Nat) : Run :=
  let left := (run.waitingOn[index]?).getD 0 - 1
  let run := { run with waitingOn := run.waitingOn.set index left }
  if left = 0 && (run.record index).status == .pending && run.halted.isNone then
    run.makeReady index
  else run

def releaseSuccessors (run : Run) (index : Nat) : Run :=
  (run.successors index).foldl releaseStep run

/-- A step that has not been started may be skipped. -/
def isSkippable (run : Run) (index : Nat) : Bool :=
  (run.record index).status == .pending || (run.record index).status == .ready

def markSkipped (run : Run) (now : Moment) (index : Nat) : Run :=
  { run.modifyRecord index fun record =>
      { record with status := .skipped, finishedAt := some now.wall } with
    ready := run.ready.filter fun other => other != index }

/-- The steps behind those of the queue follow them, nearest first. -/
def skipFrom (now : Moment) : Nat → Run → List Nat → Run × List Nat
  | 0, run, _ => (run, [])
  | _ + 1, run, [] => (run, [])
  | count + 1, run, index :: queue =>
    if run.isSkippable index then
      let (after, skipped) :=
        skipFrom now count (run.markSkipped now index) (queue ++ run.successors index)
      (after, index :: skipped)
    else skipFrom now count run queue

/-- Every edge of the plan is followed at most once. -/
def skipSuccessors (run : Run) (now : Moment) (index : Nat) : Run × List Nat :=
  skipFrom now run.plan.edgeCount run (run.successors index)

def settled (run : Run) (now : Moment) (halt : Option Halt) : Turn :=
  let turn := match halt with
    | some halt => run.halt halt
    | none => ⟨run, []⟩
  turn.andThen fun run => (Turn.mk run [run.snapshot]).andThen fun run => run.proceed now

def tellSkipped (run : Run) (now : Moment) (halt : Option Halt) : List Nat → Turn
  | [] => run.settled now halt
  | index :: rest => ⟨run.save (.skipping index rest halt), run.stepSettled index⟩

/-- The flag tells whether the steps behind are released. -/
def concluded (step : PlanStep) (record : StepRecord) :
    StepResult → StepRecord × Bool × Option Halt
  | .succeeded output => ({ record with status := .succeeded, output := some output }, true, none)
  | .failed message =>
    let failed := { record with status := .failed, error := some message }
    if step.tolerant then (failed, true, none)
    else (failed, false, some (.failed (.stepFailed step.nodeId message)))
  | .unavailable message =>
    ({ record with status := .failed, error := some message }, false,
      some (.failed (.infrastructureError message)))
  | .interrupted => ({ record with status := .cancelled }, false, some .cancelled)

def settle (run : Run) (now : Moment) (report : StepReport) : Turn :=
  match run.plan.steps[report.index]? with
  | none => ⟨run, []⟩
  | some step =>
    let record := { run.record report.index with
      attempt := report.attempts, finishedAt := some now.wall }
    let (record, released, halt) := concluded step record report.result
    let run := { run with inFlight := run.inFlight.erase report.index }.modifyRecord report.index
      fun _ => record
    ⟨run.save (.settling report.index released halt), run.stepSettled report.index⟩

def enter (run : Run) : Run :=
  (run.plan.steps.filter fun step => step.predecessors.isEmpty).foldl
    (fun run step => run.makeReady step.index) run

def start (run : Run) (now : Moment) : Turn :=
  let execution := { run.execution with status := .running, startedAt := some now.wall }
  ⟨{ run with execution := execution, openedAt := now.ticks }.save .opening,
    [.measure (.executionStarted run.execution.tenantId)]⟩

def checkSave (run : Run) (activity : String) : Except StoreError Unit → Turn
  | .ok () => ⟨run, []⟩
  | .error error => run.haltOnStore activity error

/-- An execution that could not be saved has failed. -/
def closeDown (run : Run) (ending : Ending) (outcome : Except StoreError Unit) : Turn :=
  let execution := match outcome with
    | .ok () => run.execution
    | .error error => { run.execution with
        status := .failed
        failure := some (.infrastructureError ("saving execution: " ++ error.message)) }
  let run := { run with execution := execution, phase := .closed }
  ⟨run, [.measure (.executionCompleted execution.tenantId execution.status),
    .measure (.executionDuration execution.tenantId ending.elapsedMs), run.announceExecution,
    .releaseSlot, run.snapshot]⟩

/-- The run goes on after the last answer of the store to a save. -/
def afterSave (run : Run) (now : Moment) (outcome : Except StoreError Unit) : Errand → Turn
  | .opening =>
    (run.checkSave "saving execution" outcome).andThen fun run =>
      (Turn.mk run.enter [run.announceExecution, run.snapshot]).andThen fun run => run.proceed now
  | .dispatching index previous =>
    match outcome with
    | .ok () =>
      let launched := { run with inFlight := run.inFlight ++ [index] }
      (Turn.mk launched [run.announceStep index, run.snapshot,
        .launch index (run.resolveInput index)]).andThen fun run => run.proceed now
    | .error error =>
      ((run.modifyRecord index fun _ => previous).haltOnStore "saving step" error).andThen
        fun run => run.proceed now
  | .settling index released halt =>
    (run.checkSave "saving step" outcome).andThen fun run =>
      if released then (run.releaseSuccessors index).settled now halt
      else if (run.record index).status = .failed then
        let (run, skipped) := run.skipSuccessors now index
        run.tellSkipped now halt skipped
      else run.settled now halt
  | .skipping _ rest halt =>
    (run.checkSave "saving step" outcome).andThen fun run => run.tellSkipped now halt rest
  | .sweeping ending _ rest => run.sweep ending rest
  | .closing ending => run.closeDown ending outcome

/-- A save that fails is repeated as the policy for the infrastructure says. -/
def saved (run : Run) (now : Moment) (errand : Errand) (failures : UInt32) :
    Except StoreError Unit → Turn
  | .ok () => run.afterSave now (.ok ()) errand
  | .error error =>
    let failures := failures + 1
    if run.infraRetry.attempts ≤ failures then run.afterSave now (.error error) errand
    else ⟨{ run with phase := .pausing errand failures }, []⟩

/-- An answer for which the run does not wait changes nothing. -/
def advance (run : Run) (now : Moment) (input : Input) : Turn :=
  match run.phase, input with
  | .unopened, .opened => run.start now
  | .saving errand failures, .saved outcome => run.saved now errand failures outcome
  | .pausing errand failures, .rested => ⟨{ run with phase := .saving errand failures }, []⟩
  | .waiting, .reported report => run.settle now report
  | .waiting, .lost index detail =>
    ({ run with inFlight := run.inFlight.erase index }.halt
      (.failed (.infrastructureError ("step task failed: " ++ detail)))).andThen
      fun run => run.proceed now
  | .waiting, .cancelled => (run.halt .cancelled).andThen fun run => run.proceed now
  | .waiting, .expired =>
    (run.halt (.failed .executionTimeout)).andThen fun run => run.proceed now
  | _, _ => ⟨run, []⟩

/-- The opening and the closing save no record of a step. -/
def target : Errand → Option Nat
  | .opening => none
  | .dispatching index _ => some index
  | .settling index _ _ => some index
  | .skipping index _ _ => some index
  | .sweeping _ index _ => some index
  | .closing _ => none

end Run

end WorkflowEngine
