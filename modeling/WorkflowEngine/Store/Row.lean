/-
This file holds the rows of the four tables of the database.
-/

import WorkflowEngine.Json.Record

namespace WorkflowEngine

open Json Time

structure WorkflowRow where
  id : Uuid
  name : String
  version : Int32
  definition : Json
  createdAt : Timestamp
  deriving DecidableEq, Repr

structure TenantRow where
  id : Uuid
  name : String
  maxConcurrentExecutions : Int32
  maxStepsPerWorkflow : Int32
  deriving DecidableEq, Repr

/-- The node rows carry no position; the order of the steps stands in the execution row. -/
structure ExecutionRow where
  id : Uuid
  workflowId : Uuid
  workflowVersion : Int32
  tenantId : Uuid
  status : String
  triggerInput : Json
  stepOrder : List String
  failure : Option Json
  startedAt : Option Timestamp
  finishedAt : Option Timestamp
  deriving DecidableEq, Repr

structure NodeRow where
  executionId : Uuid
  nodeId : String
  status : String
  attempt : Int32
  output : Option Json
  error : Option String
  startedAt : Option Timestamp
  finishedAt : Option Timestamp
  deriving DecidableEq, Repr

namespace WorkflowRow

def fields : List Field := [
  .required "id" .uuid, .required "name" .text, .required "version" .int32,
  .required "definition" .any, .required "created_at" .timestamp]

def decode? (value : Json) : Option WorkflowRow := do
  let record ← Record.read? fields value
  some {
    id := ← record.required "id" uuid?
    name := ← record.required "name" text?
    version := ← record.required "version" int32?
    definition := ← record.required "definition" any?
    createdAt := ← record.required "created_at" timestamp? }

/-- A workflow row is a record. -/
def format : Format WorkflowRow := ⟨.record fields, decode?⟩

def encode (row : WorkflowRow) : Json :=
  object [("id", ofUuid row.id), ("name", string row.name), ("version", ofInt32 row.version),
    ("definition", row.definition), ("created_at", ofTimestamp row.createdAt)]

end WorkflowRow

namespace TenantRow

def fields : List Field := [
  .required "id" .uuid, .required "name" .text, .required "max_concurrent_executions" .int32,
  .required "max_steps_per_workflow" .int32]

def decode? (value : Json) : Option TenantRow := do
  let record ← Record.read? fields value
  some {
    id := ← record.required "id" uuid?
    name := ← record.required "name" text?
    maxConcurrentExecutions := ← record.required "max_concurrent_executions" int32?
    maxStepsPerWorkflow := ← record.required "max_steps_per_workflow" int32? }

/-- A tenant row is a record. -/
def format : Format TenantRow := ⟨.record fields, decode?⟩

def encode (row : TenantRow) : Json :=
  object [("id", ofUuid row.id), ("name", string row.name),
    ("max_concurrent_executions", ofInt32 row.maxConcurrentExecutions),
    ("max_steps_per_workflow", ofInt32 row.maxStepsPerWorkflow)]

end TenantRow

namespace ExecutionRow

def fields : List Field := [
  .required "id" .uuid, .required "workflow_id" .uuid, .required "workflow_version" .int32,
  .required "tenant_id" .uuid, .required "status" .text, .required "trigger_input" .any,
  .required "step_order" (.list .text), .nullable "failure" .any,
  .nullable "started_at" .timestamp, .nullable "finished_at" .timestamp]

def decode? (value : Json) : Option ExecutionRow := do
  let record ← Record.read? fields value
  some {
    id := ← record.required "id" uuid?
    workflowId := ← record.required "workflow_id" uuid?
    workflowVersion := ← record.required "workflow_version" int32?
    tenantId := ← record.required "tenant_id" uuid?
    status := ← record.required "status" text?
    triggerInput := ← record.required "trigger_input" any?
    stepOrder := ← record.required "step_order" (list? text?)
    failure := ← record.present "failure" any?
    startedAt := ← record.present "started_at" timestamp?
    finishedAt := ← record.present "finished_at" timestamp? }

/-- An execution row is a record. -/
def format : Format ExecutionRow := ⟨.record fields, decode?⟩

def encode (row : ExecutionRow) : Json :=
  object [("id", ofUuid row.id), ("workflow_id", ofUuid row.workflowId),
    ("workflow_version", ofInt32 row.workflowVersion), ("tenant_id", ofUuid row.tenantId),
    ("status", string row.status), ("trigger_input", row.triggerInput),
    ("step_order", array (row.stepOrder.map string)), ("failure", ofOption row.failure),
    ("started_at", ofOption (row.startedAt.map ofTimestamp)),
    ("finished_at", ofOption (row.finishedAt.map ofTimestamp))]

end ExecutionRow

namespace NodeRow

def fields : List Field := [
  .required "execution_id" .uuid, .required "node_id" .text, .required "status" .text,
  .required "attempt" .int32, .nullable "output" .any, .nullable "error" .text,
  .nullable "started_at" .timestamp, .nullable "finished_at" .timestamp]

def decode? (value : Json) : Option NodeRow := do
  let record ← Record.read? fields value
  some {
    executionId := ← record.required "execution_id" uuid?
    nodeId := ← record.required "node_id" text?
    status := ← record.required "status" text?
    attempt := ← record.required "attempt" int32?
    output := ← record.present "output" any?
    error := ← record.present "error" text?
    startedAt := ← record.present "started_at" timestamp?
    finishedAt := ← record.present "finished_at" timestamp? }

/-- A node row is a record. -/
def format : Format NodeRow := ⟨.record fields, decode?⟩

def encode (row : NodeRow) : Json :=
  object [("execution_id", ofUuid row.executionId), ("node_id", string row.nodeId),
    ("status", string row.status), ("attempt", ofInt32 row.attempt),
    ("output", ofOption row.output), ("error", ofOption (row.error.map string)),
    ("started_at", ofOption (row.startedAt.map ofTimestamp)),
    ("finished_at", ofOption (row.finishedAt.map ofTimestamp))]

end NodeRow

end WorkflowEngine
