/-
This file holds the errors of the calls of the engine.
-/

import WorkflowEngine.Admission.Error
import WorkflowEngine.Store.Error
import WorkflowEngine.Workflow.CompileError

namespace WorkflowEngine

inductive EngineError where
  | compile (error : CompileError)
  | admission (error : AdmissionError)
  | store (error : StoreError)
  | unknownExecution (id : Uuid)
  | unknownWorkflow (id : Uuid)
  deriving DecidableEq, Repr

namespace EngineError

def message : EngineError → String
  | .compile error => error.message
  | .admission error => error.message
  | .store error => error.message
  | .unknownExecution id => "execution " ++ id.text ++ " not found"
  | .unknownWorkflow id => "workflow " ++ id.text ++ " not found"

def ofDefinitionLookup (workflowId : Uuid) (error : StoreError) : EngineError :=
  if error.isNotFound then .unknownWorkflow workflowId else .store error

def ofExecutionLookup (executionId : Uuid) (error : StoreError) : EngineError :=
  if error.isNotFound then .unknownExecution executionId else .store error

end EngineError

end WorkflowEngine
