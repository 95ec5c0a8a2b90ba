/-
This file holds the errors with which an action fails.
-/

namespace WorkflowEngine

/-- Only a retryable failure gives rise to another attempt. -/
inductive NodeError where
  | retryable (detail : String)
  | fatal (detail : String)
  | invalidParameters (detail : String)
  deriving DecidableEq, Repr

namespace NodeError

def message : NodeError → String
  | .retryable detail => "retryable node error: " ++ detail
  | .fatal detail => "fatal node error: " ++ detail
  | .invalidParameters detail => "invalid parameters: " ++ detail

def isRetryable : NodeError → Bool
  | .retryable _ => true
  | .fatal _ => false
  | .invalidParameters _ => false

end NodeError

end WorkflowEngine
