/-
This file holds the workflows that the engine knows. A plan is compiled once for every version of a
workflow, and a registered workflow binds its webhook.
-/

import WorkflowEngine.Engine.Basic

namespace WorkflowEngine.Engine

open Time

variable {S : Type}

/-- A plan that is known for the workflow and its version is given again. -/
def compile (engine : Engine S) (definition : Definition) :
    Except CompileError CompiledPlan × Engine S :=
  match engine.plans.get? (definition.id, definition.version) with
  | some compiled => (.ok compiled, engine)
  | none =>
    match engine.compiler.compile definition with
    | .error error => (.error error, engine)
    | .ok plan =>
      let compiled := ⟨engine.compilations, plan⟩
      (.ok compiled, { engine with
        compilations := engine.compilations + 1
        plans := engine.plans.insert (definition.id, definition.version) compiled })

def unbindWebhook (engine : Engine S) (webhookId : String) : Engine S :=
  { engine with
    webhooks := engine.webhooks.erase webhookId
    gate := engine.gate.unregisterWebhook webhookId }

def bindWebhook (engine : Engine S) (workflowId : Uuid) (webhook : Webhook) : Engine S :=
  { engine with
    webhooks := engine.webhooks.insert webhook.id workflowId
    gate := engine.gate.registerWebhook webhook }

/-- The webhook of the definition registered so far stays if the new one keeps it. -/
def unbindPrevious (engine : Engine S) (definition : Definition) : Engine S :=
  match (engine.workflows.get? definition.id).bind fun registered =>
      registered.definition.webhook? with
  | none => engine
  | some previous =>
    if definition.webhook?.map Webhook.id = some previous.id then engine
    else engine.unbindWebhook previous.id

def register (engine : Engine S) (definition : Definition) :
    Except CompileError RegisteredWorkflow × Engine S :=
  match engine.compile definition with
  | (.error error, engine) => (.error error, engine)
  | (.ok compiled, engine) =>
    let engine := engine.unbindPrevious definition
    let engine := match definition.webhook? with
      | some webhook => engine.bindWebhook definition.id webhook
      | none => engine
    let registered := ⟨definition, compiled⟩
    (.ok registered, { engine with workflows := engine.workflows.insert definition.id registered })

/-- The answer tells whether the workflow was known. -/
def unregister (engine : Engine S) (workflowId : Uuid) : Bool × Engine S :=
  match engine.workflows.get? workflowId with
  | none => (false, engine)
  | some registered =>
    let engine := { engine with workflows := engine.workflows.erase workflowId }
    let engine := match registered.definition.webhook? with
      | some webhook => engine.unbindWebhook webhook.id
      | none => engine
    (true, { engine with plans := engine.plans.filter fun entry => entry.1.1 != workflowId })

def workflow? (engine : Engine S) (workflowId : Uuid) : Option RegisteredWorkflow :=
  engine.workflows.get? workflowId

/-- Workflows are ordered by the time of their creation and then by identifier. -/
def notAfter (left right : RegisteredWorkflow) : Bool :=
  ((left.definition.createdAt.compare right.definition.createdAt).then
    (left.definition.id.compare right.definition.id)) != .gt

def listWorkflows (engine : Engine S) : List RegisteredWorkflow :=
  (engine.workflows.map Prod.snd).mergeSort notAfter

/-- A workflow that is not registered is loaded from the store and registered. -/
def planFor [ExecutionStore S] (engine : Engine S) (now : Timestamp) (workflowId : Uuid) :
    Except EngineError CompiledPlan × Engine S :=
  match engine.workflow? workflowId with
  | some registered => (.ok registered.compiled, engine)
  | none =>
    let (loaded, store) := ExecutionStore.loadDefinition now workflowId engine.store
    let engine := { engine with store := store }
    match loaded with
    | .error error => (.error (.ofDefinitionLookup workflowId error), engine)
    | .ok definition =>
      let (registered, engine) := engine.register definition
      (match registered with
        | .error error => .error (.compile error)
        | .ok registered => .ok registered.compiled, engine)

end WorkflowEngine.Engine
