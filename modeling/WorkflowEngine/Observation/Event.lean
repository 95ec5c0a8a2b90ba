/-
This file holds the events that a run publishes when an execution or a step changes its state.
-/

import WorkflowEngine.Execution.Status

namespace WorkflowEngine

open Json

structure ExecutionEvent where
  executionId : Uuid
  tenantId : Uuid
  workflowId : Uuid
  status : ExecutionStatus
  deriving DecidableEq, Repr

structure StepEvent where
  executionId : Uuid
  tenantId : Uuid
  nodeId : String
  status : StepStatus
  attempt : UInt32
  deriving DecidableEq, Repr

inductive Event where
  | execution (event : ExecutionEvent)
  | step (event : StepEvent)
  deriving DecidableEq, Repr

namespace Event

def members : Event → List (String × Json)
  | .execution event =>
    [("kind", string "execution"), ("execution_id", ofUuid event.executionId),
      ("tenant_id", ofUuid event.tenantId), ("workflow_id", ofUuid event.workflowId),
      ("status", event.status.encode)]
  | .step event =>
    [("kind", string "step"), ("execution_id", ofUuid event.executionId),
      ("tenant_id", ofUuid event.tenantId), ("node_id", string event.nodeId),
      ("status", event.status.encode), ("attempt", ofUInt32 event.attempt)]

def encode (event : Event) : Json :=
  object event.members

end Event

end WorkflowEngine
