/-
This file holds the measurements that a run reports for its tenant.
-/

import WorkflowEngine.Execution.Status

namespace WorkflowEngine

open Json

inductive Metric where
  | executionStarted (tenantId : Uuid)
  | stepCompleted (tenantId : Uuid) (status : StepStatus)
  | executionCompleted (tenantId : Uuid) (status : ExecutionStatus)
  | executionDuration (tenantId : Uuid) (milliseconds : Nat)
  deriving DecidableEq, Repr

namespace Metric

def encode : Metric → Json
  | .executionStarted tenantId => array [string "started", ofUuid tenantId]
  | .stepCompleted tenantId status => array [string "step", ofUuid tenantId, status.encode]
  | .executionCompleted tenantId status =>
    array [string "completed", ofUuid tenantId, status.encode]
  | .executionDuration tenantId milliseconds =>
    array [string "duration", ofUuid tenantId, ofNat milliseconds]

end Metric

end WorkflowEngine
