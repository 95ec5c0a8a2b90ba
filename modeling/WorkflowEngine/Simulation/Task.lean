/-
This file holds what a task does when it has its turn. A turn consists of small moves; it ends when
the task has to wait.
-/

import WorkflowEngine.Simulation.State

namespace WorkflowEngine.Simulation

variable {S : Type}

/-- A move leaves the simulation in a state in which the task goes on or waits. -/
structure Move (S : Type) where
  simulation : Simulation S
  goesOn : Bool

def continued (simulation : Simulation S) : Move S := ⟨simulation, true⟩

def yielded (simulation : Simulation S) : Move S := ⟨simulation, false⟩

def withCredit (simulation : Simulation S) (name : TaskName) (look : Simulation S → Move S) :
    Move S :=
  if simulation.credit = 0 then yielded (simulation.defer name) else look simulation

/-- A pause of no length ends at once. -/
def pause (simulation : Simulation S) (name : TaskName) (milliseconds : Nat)
    (resume : Simulation S → Simulation S) : Move S :=
  simulation.withCredit name fun simulation =>
    match simulation.asleep.get? name with
    | some due =>
      if simulation.isOver due then continued (resume (simulation.spend.rise name))
      else yielded simulation
    | none =>
      if milliseconds = 0 then continued (resume simulation.spend)
      else yielded (simulation.sleep name milliseconds)

/-- The earliest report comes first. -/
def nextReport? (simulation : Simulation S) (id : Uuid) : Option (Nat × Simulation S) :=
  match simulation.reported.get? id with
  | some (index :: rest) =>
    some (index, { simulation with reported := simulation.reported.insert id rest })
  | _ => none

/-- The timer is set once. -/
def watchDeadline (simulation : Simulation S) (id : Uuid) (job : Job) : Simulation S :=
  let timer : Timer := ⟨job.deadline, .run id⟩
  if job.run.halted.isSome || simulation.timers.contains timer then simulation
  else simulation.setTimer job.deadline (.run id)

/-- A waiting run looks for a report first, and for its deadline last. -/
def moveWaiting (simulation : Simulation S) (id : Uuid) (job : Job) : Move S :=
  simulation.withCredit (.run id) fun simulation =>
    match simulation.nextReport? id with
    | some (index, simulation) => continued (simulation.spend.advance id (.joined index))
    | none =>
      if job.hearsCancel then continued (simulation.advance id .cancelNoticed)
      else if job.hearsDeadline simulation.now then
        continued (simulation.spend.advance id .expired)
      else yielded (simulation.watchDeadline id job)

/-- An execution that has ended is kept for some time. -/
def forget (simulation : Simulation S) (id : Uuid) : Simulation S :=
  { simulation with
    engine := simulation.engine.evict id
    reported := simulation.reported.erase id
    timers := simulation.timers.filter fun timer => timer.name != .run id }

def moveRun [ExecutionStore S] (simulation : Simulation S) (id : Uuid) : Move S :=
  match simulation.engine.jobs.get? id with
  | none => yielded simulation
  | some job =>
    match job.run.phase with
    | .unopened => continued (simulation.advance id .opened)
    | .saving _ _ => continued (simulation.save id)
    | .pausing _ failures =>
      simulation.pause (.run id) (job.run.infraRetry.backoff failures).toNat
        fun simulation => simulation.advance id .rested
    | .waiting => simulation.moveWaiting id job
    | .closed =>
      simulation.pause (.run id) simulation.engine.config.terminalRetentionMs.toNat
        fun simulation => simulation.forget id

def actionCall (job : Job) (step : PlanStep) (task : StepTask) (timeoutMs : Nat) : ActionCall :=
  { workflowId := job.run.execution.workflowId
    tenantId := job.run.execution.tenantId
    nodeId := step.nodeId
    parameters := step.parameters
    attempt := task.attempt
    timeoutMs := timeoutMs
    input := task.input }

def spawnAction (simulation : Simulation S) (action : PendingAction) : Simulation S :=
  let serial := simulation.actionsStarted
  { simulation.wake (.action serial) with
    actions := simulation.actions.insert serial action
    actionsStarted := serial + 1 }

/-- A dropped action takes a place in the queue without effect. -/
def abort (simulation : Simulation S) (serial : Nat) : Simulation S :=
  let simulation := simulation.rise (.action serial)
  { simulation.wake (.action serial) with actions := simulation.actions.erase serial }

def beginAttempt (simulation : Simulation S) (id : Uuid) (index : Nat) (job : Job)
    (step : PlanStep) (task : StepTask) : Move S :=
  match job.executor.catalog.get? step.nodeType with
  | none => continued (simulation.advance id (.executorMissing index))
  | some node =>
    let timeoutMs := step.timeout.nanoseconds / 1000000
    let spawned := simulation.spawnAction
      { execution := id
        index := index
        node := node
        call := actionCall job step task timeoutMs }
    let attempt : PendingAttempt :=
      { action := simulation.actionsStarted, due := simulation.ticks + timeoutMs }
    continued { spawned with attempts := spawned.attempts.insert (id, index) attempt }

def endAttempt (simulation : Simulation S) (id : Uuid) (index : Nat) (outcome : AttemptOutcome) :
    Simulation S :=
  let risen := simulation.rise (.step id index)
  { risen with attempts := risen.attempts.erase (id, index) }.advance id
    (.attemptEnded index outcome)

/-- A step waits for the result of its attempt and for the end of its time. -/
def watch (simulation : Simulation S) (id : Uuid) (index : Nat) (pending : PendingAttempt) :
    Simulation S :=
  if pending.watched then simulation
  else
    { simulation.sleep (.step id index) (pending.due - simulation.ticks) with
      attempts := simulation.attempts.insert (id, index) { pending with watched := true } }

/-- An attempt without time is cut off before its action is called. -/
def moveAttempt (simulation : Simulation S) (id : Uuid) (index : Nat) (pending : PendingAttempt) :
    Move S :=
  simulation.withCredit (.step id index) fun simulation =>
    match pending.result with
    | some result => continued (simulation.spend.endAttempt id index (.ofResult result))
    | none =>
      if simulation.isOver pending.due then
        continued ((simulation.spend.abort pending.action).endAttempt id index .timedOut)
      else yielded (simulation.watch id index pending)

/-- A report wakes a run that waits. -/
def handIn (simulation : Simulation S) (id : Uuid) (job : Job) (index : Nat) : Simulation S :=
  let reports := (simulation.reported.get? id).getD []
  if reports.contains index then simulation
  else
    let handedIn := { simulation with
      reported := simulation.reported.insert id (reports ++ [index]) }
    if job.run.phase = .waiting then handedIn.wake (.run id) else handedIn

def moveStep (simulation : Simulation S) (id : Uuid) (index : Nat) : Move S :=
  match simulation.engine.jobs.get? id with
  | none => yielded simulation
  | some job =>
    match job.task? index, job.run.plan.steps[index]? with
    | some task, some step =>
      match task.phase with
      | .attempting =>
        match simulation.attempts.get? (id, index) with
        | some pending => simulation.moveAttempt id index pending
        | none => simulation.beginAttempt id index job step task
      | .pausing milliseconds =>
        let name := TaskName.step id index
        simulation.withCredit name fun simulation =>
          if job.interrupted then
            continued ((simulation.rise name).advance id (.pauseInterrupted index))
          else simulation.pause name milliseconds.toNat
            fun simulation => simulation.advance id (.pauseEnded index)
      | .ended _ => yielded (simulation.handIn id job index)
    | _, _ => yielded simulation

/-- A result wakes the step that watches its attempt. -/
def deliver (simulation : Simulation S) (serial : Nat) (action : PendingAction)
    (outcome : ActionResult × Bench) : Simulation S :=
  let key := (action.execution, action.index)
  let woken :=
    if (simulation.attempts.get? key).any PendingAttempt.watched then
      simulation.wake (.step action.execution action.index)
    else simulation
  { woken with
    bench := outcome.2
    actions := simulation.actions.erase serial
    attempts := simulation.attempts.update key fun pending =>
      { pending with result := some outcome.1 } }

def finishAction (simulation : Simulation S) (serial : Nat) (action : PendingAction) :
    Simulation S :=
  simulation.deliver serial action (action.node.finish action.call simulation.bench)

def moveAction (simulation : Simulation S) (serial : Nat) : Move S :=
  match simulation.actions.get? serial with
  | none => yielded simulation
  | some action =>
    let name := TaskName.action serial
    if action.paused then
      match simulation.asleep.get? name with
      | some due =>
        if simulation.isOver due then
          yielded ((simulation.rise name).finishAction serial action)
        else yielded simulation
      | none => yielded simulation
    else
      match action.node.start action.call simulation.bench with
      | (.ended result, bench) => yielded (simulation.deliver serial action (result, bench))
      | (.pausing 0, bench) => yielded ({ simulation with bench := bench }.finishAction serial action)
      | (.pausing milliseconds, bench) =>
        let started := { simulation with
          bench := bench
          actions := simulation.actions.insert serial { action with paused := true } }
        yielded (started.sleep name milliseconds)

def move [ExecutionStore S] (simulation : Simulation S) : TaskName → Move S
  | .run id => simulation.moveRun id
  | .step id index => simulation.moveStep id index
  | .action serial => simulation.moveAction serial
  | .caller => yielded simulation

end WorkflowEngine.Simulation
