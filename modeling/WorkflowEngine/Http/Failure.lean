/-
This file holds the failures of HTTP calls and their responses.
-/

import WorkflowEngine.Engine.Error
import WorkflowEngine.Http.Message

namespace WorkflowEngine

open Json Time

inductive HttpFailure where
  | engine (error : EngineError)
  | database (error : DatabaseError)
  | notFound (subject : String)
  deriving DecidableEq, Repr

namespace HttpFailure

def message : HttpFailure → String
  | .engine error => error.message
  | .database error => "database error: " ++ error.message
  | .notFound subject => subject ++ " not found"

def admissionStatus : AdmissionError → Nat
  | .unknownWebhook _ => 404
  | .authenticationFailed => 401
  | .rateLimited _ _ => 429
  | .tenantAtCapacity _ _ => 429
  | .stepLimitExceeded _ _ => 422

def status : HttpFailure → Nat
  | .engine (.compile _) => 400
  | .engine (.admission error) => admissionStatus error
  | .engine (.unknownExecution _) => 404
  | .engine (.unknownWorkflow _) => 404
  | .engine (.store _) => 500
  | .database _ => 500
  | .notFound _ => 404

def reason : HttpFailure → Option String
  | .engine (.compile _) => some "invalid_workflow"
  | .engine (.admission error) => some error.reason
  | _ => none

/-- This is the least whole number of seconds after which the caller is admitted. -/
def retryAfter : HttpFailure → Option Nat
  | .engine (.admission (.rateLimited _ wait)) => some wait.secondsRoundedUp
  | _ => none

def response (failure : HttpFailure) : HttpResponse :=
  { status := failure.status
    body := some (object [("error", string failure.message),
      ("reason", ofOption (failure.reason.map string)), ("status", ofNat failure.status)])
    retryAfter := failure.retryAfter }

end HttpFailure

end WorkflowEngine
