/-
This file holds the outcome of one attempt of a step.
-/

import WorkflowEngine.Node.Catalog
import WorkflowEngine.Text.Quoted

namespace WorkflowEngine

inductive AttemptOutcome where
  | succeeded (output : Json)
  | failed (error : NodeError)
  | timedOut
  deriving DecidableEq, Repr

/-- A failed attempt says whether another one may follow. -/
structure AttemptFailure where
  message : String
  retryable : Bool
  deriving DecidableEq, Repr

namespace AttemptOutcome

/-- The text of a panic. Tasks are not numbered in it. -/
def panicText (message : String) : String :=
  "node action aborted: task <id> panicked with message " ++ Text.Quoted.text message

/-- A panic is a fatal failure. -/
def ofResult : ActionResult → AttemptOutcome
  | .output value => .succeeded value
  | .failure error => .failed error
  | .panic message => .failed (.fatal (panicText message))

/-- A timeout may be retried. -/
def result : AttemptOutcome → Except AttemptFailure Json
  | .succeeded output => .ok output
  | .failed error => .error ⟨error.message, error.isRetryable⟩
  | .timedOut => .error ⟨"step timed out", true⟩

/-- An action that is not faster than its time is cut off. -/
def attempt (node : Node) (call : ActionCall) (bench : Bench) : AttemptOutcome × Nat × Bench :=
  if call.timeoutMs = 0 then (.timedOut, 0, bench)
  else
    match node.start call bench with
    | (.ended result, bench) => (ofResult result, 0, bench)
    | (.pausing milliseconds, bench) =>
      if milliseconds < call.timeoutMs then
        let (result, bench) := node.finish call bench
        (ofResult result, milliseconds, bench)
      else (.timedOut, call.timeoutMs, bench)

end AttemptOutcome

def executorUnavailable (nodeType : String) : String :=
  "no executor available for node type '" ++ nodeType ++ "'"

end WorkflowEngine
