/-
This file holds the limits of tenants and the table that gives them.
-/

import WorkflowEngine.Json.Record

namespace WorkflowEngine

open Json

/-- A tenant may run so many executions at once, of workflows with so many steps. -/
structure TenantLimits where
  maxConcurrentExecutions : UInt64
  maxStepsPerWorkflow : UInt64
  deriving DecidableEq, Repr

namespace TenantLimits

/-- These limits hold without other settings. -/
def standard : TenantLimits := ⟨10, 100⟩

def fields : List Field := [
  .required "max_concurrent_executions" .uint64, .required "max_steps_per_workflow" .uint64]

def decode? (value : Json) : Option TenantLimits := do
  let record ← Record.read? fields value
  some {
    maxConcurrentExecutions := ← record.required "max_concurrent_executions" uint64?
    maxStepsPerWorkflow := ← record.required "max_steps_per_workflow" uint64? }

/-- Limits are a record. -/
def format : Format TenantLimits := ⟨.record fields, decode?⟩

def encode (limits : TenantLimits) : Json :=
  object [("max_concurrent_executions", ofUInt64 limits.maxConcurrentExecutions),
    ("max_steps_per_workflow", ofUInt64 limits.maxStepsPerWorkflow)]

end TenantLimits

end WorkflowEngine
