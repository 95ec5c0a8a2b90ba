/-
This file holds the state of a simulation: an engine whose tasks take turns on one thread under a
clock that stands still while any task can go on.
-/

import WorkflowEngine.Engine.Progress
import WorkflowEngine.Engine.Start
import WorkflowEngine.Observation.Broadcast

namespace WorkflowEngine

open Time

/-- The caller waits beside the tasks. -/
inductive TaskName where
  | run (execution : Uuid)
  | step (execution : Uuid) (index : Nat)
  | action (serial : Nat)
  | caller
  deriving DecidableEq, Repr

/-- A timer wakes a task when it is due. -/
structure Timer where
  due : Nat
  name : TaskName
  deriving DecidableEq, Repr

/-- The result of an action wakes a step that has looked for it in vain. -/
structure PendingAttempt where
  action : Nat
  due : Nat
  result : Option ActionResult := none
  watched : Bool := false
  deriving DecidableEq, Repr

/-- An action belongs to an attempt of a step. -/
structure PendingAction where
  execution : Uuid
  index : Nat
  node : Node
  call : ActionCall
  paused : Bool := false
  deriving DecidableEq, Repr

/-- The observer keeps what was announced and measured, the events with their times. -/
structure Observer where
  events : List (Nat × Event) := []
  metrics : List Metric := []
  channel : Broadcast Event

/-- In one turn so many waits may be over at once. -/
def creditPerTurn : Nat := 128

/-- The last of the deferred tasks goes first when the queue is empty. -/
structure Simulation (S : Type) where
  engine : Engine S
  observer : Observer
  bench : Bench := {}
  start : Timestamp
  readings : Nat := 0
  ticks : Nat := 0
  queue : List TaskName := []
  deferred : List TaskName := []
  credit : Nat := creditPerTurn
  callerCredit : Nat := creditPerTurn
  timers : List Timer := []
  asleep : Table TaskName Nat := []
  attempts : Table (Uuid × Nat) PendingAttempt := []
  actions : Table Nat PendingAction := []
  actionsStarted : Nat := 0
  reported : Table Uuid (List Nat) := []
  snapshots : Table Uuid Execution := []

namespace Simulation

variable {S : Type}

def create (engine : Engine S) (capacity : Nat) (start : Timestamp) : Simulation S :=
  { engine := engine, observer := { channel := Broadcast.create capacity }, start := start }

/-- The time of day grows by a microsecond with every reading. -/
def wall (simulation : Simulation S) : Timestamp :=
  simulation.start.addMicroseconds simulation.readings

def now (simulation : Simulation S) : Moment :=
  ⟨simulation.wall, simulation.ticks⟩

def read (simulation : Simulation S) : Simulation S :=
  { simulation with readings := simulation.readings + 1 }

def wake (simulation : Simulation S) (name : TaskName) : Simulation S :=
  if simulation.queue.contains name then simulation
  else { simulation with queue := simulation.queue ++ [name] }

/-- A deferred task waits until the queue is empty or the round is over. -/
def defer (simulation : Simulation S) (name : TaskName) : Simulation S :=
  if simulation.deferred.head? = some name then simulation
  else { simulation with deferred := name :: simulation.deferred }

/-- The task that was deferred last wakes first. -/
def wakeDeferred (simulation : Simulation S) : Simulation S :=
  simulation.deferred.foldl (fun simulation name =>
    if name = .caller then simulation else simulation.wake name) { simulation with deferred := [] }

def spend (simulation : Simulation S) : Simulation S :=
  { simulation with credit := simulation.credit - 1 }

/-- Timers that are not due later stay in front. -/
def insertTimer (timer : Timer) : List Timer → List Timer
  | [] => [timer]
  | first :: rest =>
    if timer.due < first.due then timer :: first :: rest else first :: insertTimer timer rest

def setTimer (simulation : Simulation S) (due : Nat) (name : TaskName) : Simulation S :=
  { simulation with timers := insertTimer ⟨due, name⟩ simulation.timers }

def sleep (simulation : Simulation S) (name : TaskName) (milliseconds : Nat) : Simulation S :=
  let due := simulation.ticks + milliseconds
  { simulation.setTimer due name with asleep := simulation.asleep.insert name due }

def rise (simulation : Simulation S) (name : TaskName) : Simulation S :=
  match simulation.asleep.get? name with
  | none => simulation
  | some due => { simulation with
      asleep := simulation.asleep.erase name
      timers := simulation.timers.erase ⟨due, name⟩ }

def isOver (simulation : Simulation S) (due : Nat) : Bool :=
  decide (due ≤ simulation.ticks)

/-- The last snapshot of every execution is kept. -/
def observe (simulation : Simulation S) : Effect → Simulation S
  | .measure metric => { simulation with observer :=
      { simulation.observer with metrics := simulation.observer.metrics ++ [metric] } }
  | .announce event => { simulation with observer :=
      { simulation.observer with
        events := simulation.observer.events ++ [(simulation.ticks, event)]
        channel := simulation.observer.channel.send event } }
  | .publish snapshot =>
    { simulation with snapshots := simulation.snapshots.insert snapshot.id snapshot }
  | _ => simulation

/-- The step that has paused longest comes first. -/
def pausingSteps (simulation : Simulation S) (id : Uuid) (job : Job) : List Nat :=
  (simulation.asleep.filterMap fun entry =>
    match entry.1 with
    | .step execution index =>
      if execution = id ∧ (simulation.attempts.get? (id, index)).isNone ∧
          (job.task? index).isSome then some index else none
    | _ => none)

/-- Interrupted pauses end, and then a run hears its cancellation. -/
def stir (simulation : Simulation S) (id : Uuid) : Simulation S :=
  match simulation.engine.jobs.get? id with
  | none => simulation
  | some job =>
    let stirred :=
      if job.interrupted then (simulation.pausingSteps id job).foldl
        (fun simulation index => simulation.wake (.step id index)) simulation
      else simulation
    if job.run.phase = .waiting && job.hearsCancel then stirred.wake (.run id) else stirred

def react (id : Uuid) (simulation : Simulation S) : Effect → Simulation S
  | .launch index _ => simulation.wake (.step id index)
  | .interrupt => simulation.stir id
  | effect => simulation.observe effect

def takeOver (simulation : Simulation S) (id : Uuid) (outcome : Engine S × List Effect) :
    Simulation S :=
  outcome.2.foldl (react id) { simulation with engine := outcome.1 }

def advance (simulation : Simulation S) (id : Uuid) (input : Job.Input) : Simulation S :=
  simulation.read.takeOver id (simulation.engine.advance simulation.now id input)

def save [ExecutionStore S] (simulation : Simulation S) (id : Uuid) : Simulation S :=
  simulation.read.takeOver id (simulation.engine.save simulation.now id)

/-- This follows every call of the engine. -/
def settle (simulation : Simulation S) : Simulation S :=
  simulation.engine.jobs.foldl (fun simulation entry =>
    if entry.2.run.phase = .unopened then
      { simulation.wake (.run entry.1) with
        snapshots := simulation.snapshots.insert entry.1 entry.2.snapshot }
    else simulation.stir entry.1) simulation

def call {A : Type} (simulation : Simulation S) (request : Engine S → A × Engine S) :
    A × Simulation S :=
  let (answer, engine) := request simulation.engine
  (answer, { simulation.read with engine := engine }.settle)

end Simulation

end WorkflowEngine
