/-
This file holds the ways in which an execution is started. Every start passes the gate, and a start
that is refused leaves no execution behind.
-/

import WorkflowEngine.Engine.Registration

namespace WorkflowEngine.Engine

open Time

variable {S : Type}

def launch (engine : Engine S) (executor : Executor) (plan : Plan) (tenantId : Uuid)
    (input : Json) : Uuid × Engine S :=
  let (id, ids) := engine.ids.draw
  let execution := Execution.pending plan id tenantId input
  let job := Job.prepare executor plan engine.config.infraRetry
    engine.config.executionTimeoutMs.toNat execution
  (id, { engine with ids := ids, jobs := engine.jobs.insert id job })

/-- The slot of the tenant is reserved before the execution starts. -/
def startOn (engine : Engine S) (executor : Executor) (plan : Plan) (tenantId : Uuid)
    (input : Json) : Except AdmissionError Uuid × Engine S :=
  match engine.gate.reserve tenantId with
  | (.error error, gate) => (.error error, { engine with gate := gate })
  | (.ok (), gate) =>
    let (id, engine) := { engine with gate := gate }.launch executor plan tenantId input
    (.ok id, engine)

def startExecution (engine : Engine S) (plan : Plan) (tenantId : Uuid) (input : Json) :
    Except AdmissionError Uuid × Engine S :=
  match engine.gate.checkStepLimit tenantId plan.length with
  | .error error => (.error error, engine)
  | .ok () => engine.startOn engine.executor plan tenantId input

def startWorkflow [ExecutionStore S] (engine : Engine S) (now : Timestamp)
    (workflowId tenantId : Uuid) (input : Json) : Except EngineError Uuid × Engine S :=
  match engine.planFor now workflowId with
  | (.error error, engine) => (.error error, engine)
  | (.ok compiled, engine) =>
    let (started, engine) := engine.startExecution compiled.plan tenantId input
    (started.mapError .admission, engine)

/-- A plan with too many steps gives the slot back. -/
def admitAndLaunch (engine : Engine S) (webhook : Webhook) (plan : Plan)
    (request : WebhookRequest) : Except EngineError Uuid × Engine S :=
  match engine.gate.admission webhook.id webhook.tenantId request with
  | (.error error, gate) => (.error (.admission error), { engine with gate := gate })
  | (.ok input, gate) =>
    match gate.checkStepLimit webhook.tenantId plan.length with
    | .error error =>
      (.error (.admission error), { engine with gate := gate.release webhook.tenantId })
    | .ok () =>
      let (id, engine) := { engine with gate := gate }.launch engine.executor plan
        webhook.tenantId input
      (.ok id, engine)

def triggerWebhook [ExecutionStore S] (engine : Engine S) (now : Timestamp) (webhookId : String)
    (request : WebhookRequest) : Except EngineError Uuid × Engine S :=
  match engine.webhooks.get? webhookId, engine.gate.webhook? webhookId with
  | some workflowId, some webhook =>
    match engine.planFor now workflowId with
    | (.error error, engine) => (.error error, engine)
    | (.ok compiled, engine) => engine.admitAndLaunch webhook compiled.plan request
  | _, _ => (.error (.admission (.unknownWebhook webhookId)), engine)

end WorkflowEngine.Engine
