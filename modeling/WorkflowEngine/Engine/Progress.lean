/-
This file holds how executions go on, how they are observed and how they are cancelled. An execution
that is not in memory any more is looked up in the store.
-/

import WorkflowEngine.Engine.Basic

namespace WorkflowEngine.Engine

variable {S : Type}

def job? (engine : Engine S) (executorName : String) (id : Uuid) : Option Job :=
  (engine.jobs.get? id).filter fun job => job.executor.name == executorName

def tracked (engine : Engine S) (executorName : String) : Nat :=
  (engine.jobs.filter fun entry => entry.2.executor.name == executorName).length

def absorb (tenantId : Uuid) (engine : Engine S) : Effect → Engine S
  | .releaseSlot => engine.modifyGate fun gate => gate.release tenantId
  | _ => engine

def advance (engine : Engine S) (now : Moment) (id : Uuid) (input : Job.Input) :
    Engine S × List Effect :=
  match engine.jobs.get? id with
  | none => (engine, [])
  | some job =>
    let (job, effects) := job.advance now input
    (effects.foldl (absorb job.run.execution.tenantId)
      { engine with jobs := engine.jobs.insert id job }, effects)

def performSave [ExecutionStore S] (run : Run) (errand : Errand) (store : S) :
    Except StoreError Unit × S :=
  match Run.target errand with
  | none => ExecutionStore.saveExecution run.execution store
  | some index => ExecutionStore.saveStep run.execution.id (run.record index) store

def save [ExecutionStore S] (engine : Engine S) (now : Moment) (id : Uuid) :
    Engine S × List Effect :=
  match engine.jobs.get? id with
  | none => (engine, [])
  | some job =>
    match job.run.phase with
    | .saving errand _ =>
      let (outcome, store) := performSave job.run errand engine.store
      { engine with store := store }.advance now id (.saved outcome)
    | _ => (engine, [])

/-- Only the job of an execution that has ended is forgotten. -/
def evict (engine : Engine S) (id : Uuid) : Engine S :=
  match engine.jobs.get? id with
  | some job =>
    if job.run.phase = .closed then { engine with jobs := engine.jobs.erase id } else engine
  | none => engine

def load [ExecutionStore S] (engine : Engine S) (id : Uuid) :
    Except EngineError Execution × Engine S :=
  let (loaded, store) := ExecutionStore.loadExecution id engine.store
  (loaded.mapError (.ofExecutionLookup id), { engine with store := store })

/-- The snapshot in memory is preferred to what the store holds. -/
def status [ExecutionStore S] (engine : Engine S) (id : Uuid) :
    Except EngineError Execution × Engine S :=
  match engine.job? engine.executor.name id with
  | some job => (.ok job.snapshot, engine)
  | none => engine.load id

/-- The answer tells whether the execution is in memory. -/
def requestCancel (engine : Engine S) (now : Moment) (executorName : String) (id : Uuid) :
    Bool × Engine S :=
  match engine.job? executorName id with
  | some _ => (true, (engine.advance now id .cancelRequested).1)
  | none => (false, engine)

/-- An execution that is not in memory has to be in the store. -/
def cancel [ExecutionStore S] (engine : Engine S) (now : Moment) (id : Uuid) :
    Except EngineError Unit × Engine S :=
  match engine.requestCancel now engine.executor.name id with
  | (true, engine) => (.ok (), engine)
  | (false, engine) =>
    let (loaded, engine) := engine.load id
    (loaded.map fun _ => (), engine)

end WorkflowEngine.Engine
