/-
This file holds the state of the engine: what it has compiled and registered, what it runs, and the
gate and the store that it works with.
-/

import WorkflowEngine.Admission.Gate
import WorkflowEngine.Engine.Error
import WorkflowEngine.Execution.Job
import WorkflowEngine.Store.Basic
import WorkflowEngine.Workflow.Compiler

namespace WorkflowEngine

/-- Plans are told apart by the serial numbers of their compilations. -/
structure CompiledPlan where
  serial : Nat
  plan : Plan
  deriving DecidableEq, Repr

structure RegisteredWorkflow where
  definition : Definition
  compiled : CompiledPlan
  deriving DecidableEq, Repr

/-- Identifiers of executions are drawn one after the other. -/
structure IdSource where
  next : Nat
  deriving DecidableEq, Repr

namespace IdSource

def draw (source : IdSource) : Uuid × IdSource :=
  (⟨BitVec.ofNat 128 source.next⟩, ⟨source.next + 1⟩)

end IdSource

/-- The engine keeps a job for every execution that runs or has ended not long ago. -/
structure Engine (S : Type) where
  config : EngineConfig
  catalog : Catalog
  store : S
  gate : Gate
  ids : IdSource
  compilations : Nat := 0
  plans : Table (Uuid × UInt32) CompiledPlan := []
  workflows : Table Uuid RegisteredWorkflow := []
  webhooks : Table String Uuid := []
  jobs : Table Uuid Job := []

namespace Engine

variable {S : Type}

/-- Tenants without limits of their own have the default limits of the settings. -/
def create (config : EngineConfig) (catalog : Catalog) (store : S) (ids : IdSource) : Engine S :=
  { config := config
    catalog := catalog
    store := store
    gate := { tenants := { defaults := config.defaultTenantLimits } }
    ids := ids }

def compiler (engine : Engine S) : Compiler :=
  ⟨engine.catalog.nodeTypes, engine.config⟩

def executor (engine : Engine S) : Executor :=
  ⟨"engine", engine.catalog⟩

def modifyGate (engine : Engine S) (change : Gate → Gate) : Engine S :=
  { engine with gate := change engine.gate }

end Engine

end WorkflowEngine
