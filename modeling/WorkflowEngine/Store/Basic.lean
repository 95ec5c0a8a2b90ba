/-
This file holds what the engine asks of a store: it loads definitions, and it saves and loads the
records of executions. A store may change its state by any of these.
-/

import WorkflowEngine.Execution.Record
import WorkflowEngine.Store.Error
import WorkflowEngine.Workflow.Definition

namespace WorkflowEngine

open Time

/-- The header of an execution and its step records are saved apart. -/
class ExecutionStore (S : Type) where
  loadDefinition : Timestamp → Uuid → S → Except StoreError Definition × S
  saveExecution : Execution → S → Except StoreError Unit × S
  saveStep : Uuid → StepRecord → S → Except StoreError Unit × S
  loadExecution : Uuid → S → Except StoreError Execution × S

end WorkflowEngine
