/-
This file holds the records of executions and of their steps.
-/

import WorkflowEngine.Execution.Status
import WorkflowEngine.Workflow.Plan

namespace WorkflowEngine

open Json Time

/-- A step, the infrastructure or the time can be the reason. -/
inductive FailureReason where
  | stepFailed (nodeId message : String)
  | infrastructureError (message : String)
  | executionTimeout
  deriving DecidableEq, Repr

namespace FailureReason

def cases : List String := ["step_failed", "infrastructure_error", "execution_timeout"]

def decode? (value : Json) : Option FailureReason := do
  let tagged ← Tagged.read? .name "reason" cases value
  match tagged.tag with
  | "step_failed" => do
    let record ← Record.read? [.required "node_id" .text, .required "message" .text] tagged.content
    some (.stepFailed (← record.required "node_id" text?) (← record.required "message" text?))
  | "infrastructure_error" => do
    let record ← Record.read? [.required "message" .text] tagged.content
    some (.infrastructureError (← record.required "message" text?))
  | _ => if tagged.isUnit then some .executionTimeout else none

/-- A reason is a tagged record. -/
def format : Format FailureReason :=
  ⟨.tagged "reason" cases fun value => (decode? value).isSome, decode?⟩

def encode : FailureReason → Json
  | .stepFailed nodeId message =>
    object [("reason", string "step_failed"), ("node_id", string nodeId),
      ("message", string message)]
  | .infrastructureError message =>
    object [("reason", string "infrastructure_error"), ("message", string message)]
  | .executionTimeout => object [("reason", string "execution_timeout")]

end FailureReason

/-- A step record holds the state of a step, the attempts made so far and their result. -/
structure StepRecord where
  nodeId : String
  status : StepStatus := .pending
  attempt : UInt32 := 0
  output : Option Json := none
  error : Option String := none
  startedAt : Option Timestamp := none
  finishedAt : Option Timestamp := none
  deriving DecidableEq, Repr

namespace StepRecord

def pending (nodeId : String) : StepRecord :=
  { nodeId := nodeId }

def fields : List Field := [
  .required "node_id" .text, .required "status" StepStatus.format.shape,
  .required "attempt" .uint32, .optional "output" .any, .optional "error" .text,
  .nullable "started_at" .timestamp, .nullable "finished_at" .timestamp]

def decode? (value : Json) : Option StepRecord := do
  let record ← Record.read? fields value
  some {
    nodeId := ← record.required "node_id" text?
    status := ← record.required "status" StepStatus.decode?
    attempt := ← record.required "attempt" uint32?
    output := ← record.optional "output" any?
    error := ← record.optional "error" text?
    startedAt := ← record.present "started_at" timestamp?
    finishedAt := ← record.present "finished_at" timestamp? }

/-- A step record is a record. -/
def format : Format StepRecord := ⟨.record fields, decode?⟩

def encode (step : StepRecord) : Json :=
  object ([("node_id", string step.nodeId), ("status", step.status.encode),
      ("attempt", ofUInt32 step.attempt)] ++
    optionalMember "output" step.output ++
    optionalMember "error" (step.error.map string) ++
    [("started_at", ofOption (step.startedAt.map ofTimestamp)),
      ("finished_at", ofOption (step.finishedAt.map ofTimestamp))])

end StepRecord

/-- The steps stand in the order of the plan. -/
structure Execution where
  id : Uuid
  tenantId : Uuid
  workflowId : Uuid
  workflowVersion : UInt32
  status : ExecutionStatus := .pending
  triggerInput : Json
  failure : Option FailureReason := none
  startedAt : Option Timestamp := none
  finishedAt : Option Timestamp := none
  steps : List StepRecord
  deriving DecidableEq, Repr

namespace Execution

def pending (plan : Plan) (id tenantId : Uuid) (triggerInput : Json) : Execution :=
  { id := id
    tenantId := tenantId
    workflowId := plan.workflowId
    workflowVersion := plan.version
    triggerInput := triggerInput
    steps := plan.steps.map fun step => .pending step.nodeId }

def step? (execution : Execution) (nodeId : String) : Option StepRecord :=
  execution.steps.find? fun step => step.nodeId == nodeId

def fields : List Field := [
  .required "id" .uuid, .required "tenant_id" .uuid, .required "workflow_id" .uuid,
  .required "workflow_version" .uint32, .required "status" ExecutionStatus.format.shape,
  .required "trigger_input" .any, .optional "failure" FailureReason.format.shape,
  .nullable "started_at" .timestamp, .nullable "finished_at" .timestamp,
  .required "steps" (.list StepRecord.format.shape)]

def decode? (value : Json) : Option Execution := do
  let record ← Record.read? fields value
  some {
    id := ← record.required "id" uuid?
    tenantId := ← record.required "tenant_id" uuid?
    workflowId := ← record.required "workflow_id" uuid?
    workflowVersion := ← record.required "workflow_version" uint32?
    status := ← record.required "status" ExecutionStatus.decode?
    triggerInput := ← record.required "trigger_input" any?
    failure := ← record.optional "failure" FailureReason.decode?
    startedAt := ← record.present "started_at" timestamp?
    finishedAt := ← record.present "finished_at" timestamp?
    steps := ← record.required "steps" (list? StepRecord.decode?) }

/-- An execution is a record. -/
def format : Format Execution := ⟨.record fields, decode?⟩

def encode (execution : Execution) : Json :=
  object ([("id", ofUuid execution.id), ("tenant_id", ofUuid execution.tenantId),
      ("workflow_id", ofUuid execution.workflowId),
      ("workflow_version", ofUInt32 execution.workflowVersion),
      ("status", execution.status.encode), ("trigger_input", execution.triggerInput)] ++
    optionalMember "failure" (execution.failure.map FailureReason.encode) ++
    [("started_at", ofOption (execution.startedAt.map ofTimestamp)),
      ("finished_at", ofOption (execution.finishedAt.map ofTimestamp)),
      ("steps", array (execution.steps.map StepRecord.encode))])

end Execution

end WorkflowEngine
