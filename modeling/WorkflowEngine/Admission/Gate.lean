/-
This file holds the gate that every new execution passes. The gate keeps the webhooks, one window
of admitted requests for each webhook, and the number of running executions of each tenant.
-/

import WorkflowEngine.Admission.Error
import WorkflowEngine.Admission.Request
import WorkflowEngine.Tenant.Registry

namespace WorkflowEngine

open Json Time

/-- A window counts the requests that were admitted since its start. -/
structure RateWindow where
  start : Timestamp
  count : UInt32
  limit : UInt32
  deriving DecidableEq, Repr

namespace RateWindow

def encode (window : RateWindow) : Json :=
  object [("window_start", ofTimestamp window.start), ("count", ofUInt32 window.count),
    ("limit", ofUInt32 window.limit)]

end RateWindow

/-- A quota shows a limit and its use. -/
structure TenantQuota where
  maxConcurrentExecutions : UInt64
  currentRunning : Nat
  deriving DecidableEq, Repr

namespace TenantQuota

def encode (quota : TenantQuota) : Json :=
  object [("max_concurrent_executions", ofUInt64 quota.maxConcurrentExecutions),
    ("current_running", ofNat quota.currentRunning)]

end TenantQuota

structure Gate where
  tenants : TenantRegistry
  webhooks : Table String Webhook := []
  windows : Table String RateWindow := []
  running : Table Uuid Nat := []

/-- A checked call gives its answer and the gate after it. -/
abbrev Gate.Checked (A : Type) := Except AdmissionError A × Gate

namespace Gate

def registerWebhook (gate : Gate) (webhook : Webhook) : Gate :=
  { gate with webhooks := gate.webhooks.insert webhook.id webhook }

def unregisterWebhook (gate : Gate) (webhookId : String) : Gate :=
  { gate with
    webhooks := gate.webhooks.erase webhookId
    windows := gate.windows.erase webhookId }

def webhook? (gate : Gate) (webhookId : String) : Option Webhook :=
  gate.webhooks.get? webhookId

def window? (gate : Gate) (webhookId : String) : Option RateWindow :=
  gate.windows.get? webhookId

/-- The length of a window in seconds is bounded by the greatest word of 32 bits. -/
def windowSeconds (rate : RateLimit) : Nat :=
  min rate.windowSecs.toNat (UInt32.size - 1)

/-- A request at or past the end of the window opens a new one. -/
def currentWindow (gate : Gate) (webhookId : String) (rate : RateLimit) (now : Timestamp) :
    RateWindow :=
  match gate.window? webhookId with
  | none => ⟨now, 0, rate.limit⟩
  | some window =>
    if (window.start.addSeconds (windowSeconds rate)).le now then ⟨now, 0, rate.limit⟩
    else { window with limit := rate.limit }

/-- A refused request is not counted. -/
def checkRateLimit (gate : Gate) (webhookId : String) (rate : RateLimit) (now : Timestamp) :
    Checked Unit :=
  let window := gate.currentWindow webhookId rate now
  if window.limit ≤ window.count then
    let retryAfter := (window.start.addSeconds (windowSeconds rate)).durationSince now
    (.error (.rateLimited webhookId retryAfter),
      { gate with windows := gate.windows.insert webhookId window })
  else
    (.ok (), { gate with
      windows := gate.windows.insert webhookId { window with count := window.count + 1 } })

def runningCount (gate : Gate) (tenantId : Uuid) : Nat :=
  (gate.running.get? tenantId).getD 0

/-- The tenant has an entry afterwards in any case. -/
def reserve (gate : Gate) (tenantId : Uuid) : Checked Unit :=
  let limit := (gate.tenants.limits tenantId).maxConcurrentExecutions
  let count := gate.runningCount tenantId
  if limit.toNat ≤ count then
    (.error (.tenantAtCapacity tenantId limit),
      { gate with running := gate.running.insert tenantId count })
  else (.ok (), { gate with running := gate.running.insert tenantId (count + 1) })

/-- The first half of a release takes one from the entry of the tenant. -/
def decrement (gate : Gate) (tenantId : Uuid) : Gate :=
  { gate with running := gate.running.update tenantId fun count => count - 1 }

/-- The second half of a release removes an entry of zero. -/
def removeIdle (gate : Gate) (tenantId : Uuid) : Gate :=
  if gate.running.get? tenantId = some 0 then
    { gate with running := gate.running.erase tenantId }
  else gate

def release (gate : Gate) (tenantId : Uuid) : Gate :=
  (gate.decrement tenantId).removeIdle tenantId

/-- The tenant of the admission owns the webhook. -/
def admission (gate : Gate) (webhookId : String) (tenantId : Uuid) (request : WebhookRequest) :
    Checked Json :=
  match gate.webhook? webhookId with
  | none => (.error (.unknownWebhook webhookId), gate)
  | some webhook =>
    if webhook.tenantId ≠ tenantId then (.error .authenticationFailed, gate)
    else if !webhook.auth.accepts request then (.error .authenticationFailed, gate)
    else
      match gate.checkRateLimit webhookId webhook.rateLimit request.receivedAt with
      | (.error error, gate) => (.error error, gate)
      | (.ok (), gate) =>
        match gate.reserve tenantId with
        | (.error error, gate) => (.error error, gate)
        | (.ok (), gate) => (.ok request.triggerInput, gate)

def checkStepLimit (gate : Gate) (tenantId : Uuid) (steps : Nat) : Except AdmissionError Unit :=
  let limit := (gate.tenants.limits tenantId).maxStepsPerWorkflow
  if limit.toNat < steps then .error (.stepLimitExceeded steps limit) else .ok ()

def quota (gate : Gate) (tenantId : Uuid) : TenantQuota :=
  ⟨(gate.tenants.limits tenantId).maxConcurrentExecutions, gate.runningCount tenantId⟩

end Gate

end WorkflowEngine
