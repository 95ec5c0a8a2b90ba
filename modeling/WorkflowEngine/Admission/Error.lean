/-
This file holds the reasons for which a new execution is refused before it starts.
-/

import WorkflowEngine.Time.Duration
import WorkflowEngine.Uuid

namespace WorkflowEngine

open Time

inductive AdmissionError where
  | unknownWebhook (webhookId : String)
  | authenticationFailed
  | rateLimited (webhookId : String) (retryAfter : Duration)
  | tenantAtCapacity (tenantId : Uuid) (limit : UInt64)
  | stepLimitExceeded (steps : Nat) (limit : UInt64)
  deriving DecidableEq, Repr

namespace AdmissionError

def reason : AdmissionError → String
  | .unknownWebhook _ => "unknown_webhook"
  | .authenticationFailed => "authentication_failed"
  | .rateLimited _ _ => "rate_limited"
  | .tenantAtCapacity _ _ => "tenant_at_capacity"
  | .stepLimitExceeded _ _ => "step_limit_exceeded"

def message : AdmissionError → String
  | .unknownWebhook webhookId => "no webhook registered under '" ++ webhookId ++ "'"
  | .authenticationFailed => "webhook authentication failed"
  | .rateLimited webhookId retryAfter =>
    "webhook '" ++ webhookId ++ "' is rate limited; retry in " ++ retryAfter.text
  | .tenantAtCapacity tenantId limit =>
    "tenant " ++ tenantId.text ++ " is at its limit of " ++ toString limit.toNat ++
      " concurrent executions"
  | .stepLimitExceeded steps limit =>
    "workflow has " ++ toString steps ++ " steps; tenant limit is " ++ toString limit.toNat

end AdmissionError

end WorkflowEngine
