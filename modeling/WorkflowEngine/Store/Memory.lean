/-
This file holds a store that keeps every record in memory. It can be told to refuse its next writes.
-/

import WorkflowEngine.Store.Basic
import WorkflowEngine.Table

namespace WorkflowEngine

structure MemoryStore where
  definitions : Table Uuid Definition := []
  executions : Table Uuid Execution := []
  steps : Table (Uuid × String) StepRecord := []
  failingWrites : Nat := 0
  deriving DecidableEq, Repr

namespace MemoryStore

def putDefinition (store : MemoryStore) (definition : Definition) : MemoryStore :=
  { store with definitions := store.definitions.insert definition.id definition }

def failNextWrites (store : MemoryStore) (count : Nat) : MemoryStore :=
  { store with failingWrites := count }

def stepRecord? (store : MemoryStore) (executionId : Uuid) (nodeId : String) : Option StepRecord :=
  store.steps.get? (executionId, nodeId)

/-- The error of a write that fails as told. -/
def injectedFailure : StoreError := .unavailable "injected write failure"

/-- A write that is to fail changes nothing else. -/
def write (store : MemoryStore) (change : MemoryStore → MemoryStore) :
    Except StoreError Unit × MemoryStore :=
  match store.failingWrites with
  | 0 => (.ok (), change store)
  | left + 1 => (.error injectedFailure, { store with failingWrites := left })

def saveExecution (store : MemoryStore) (execution : Execution) :
    Except StoreError Unit × MemoryStore :=
  store.write fun store =>
    { store with executions := store.executions.insert execution.id execution }

def saveStep (store : MemoryStore) (executionId : Uuid) (step : StepRecord) :
    Except StoreError Unit × MemoryStore :=
  store.write fun store =>
    { store with steps := store.steps.insert (executionId, step.nodeId) step }

def definition (store : MemoryStore) (workflowId : Uuid) : Except StoreError Definition :=
  match store.definitions.get? workflowId with
  | some definition => .ok definition
  | none => .error (.notFound ("workflow " ++ workflowId.text))

/-- A step record that was saved for itself replaces the one saved with the execution. -/
def execution (store : MemoryStore) (executionId : Uuid) : Except StoreError Execution :=
  match store.executions.get? executionId with
  | some execution => .ok { execution with
      steps := execution.steps.map fun step =>
        (store.stepRecord? executionId step.nodeId).getD step }
  | none => .error (.notFound ("execution " ++ executionId.text))

end MemoryStore

instance : ExecutionStore MemoryStore where
  loadDefinition _ workflowId store := (store.definition workflowId, store)
  saveExecution execution store := store.saveExecution execution
  saveStep executionId step store := store.saveStep executionId step
  loadExecution executionId store := (store.execution executionId, store)

end WorkflowEngine
