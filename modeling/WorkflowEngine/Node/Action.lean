/-
This file holds what an action is called with and how it goes on. An action either ends at once or
pauses and ends after the pause.
-/

import WorkflowEngine.Json.Record
import WorkflowEngine.Node.Error

namespace WorkflowEngine

/-- A call belongs to one attempt of a step, which is cut off when its time is over. -/
structure ActionCall where
  workflowId : Uuid
  tenantId : Uuid
  nodeId : String
  parameters : Json
  attempt : UInt32
  timeoutMs : Nat
  input : Json
  deriving DecidableEq, Repr

/-- An action that panics gives the message of its panic. -/
inductive ActionResult where
  | output (value : Json)
  | failure (error : NodeError)
  | panic (message : String)
  deriving DecidableEq, Repr

/-- An action that has started pauses for some milliseconds or has ended. -/
inductive ActionProgress where
  | pausing (milliseconds : Nat)
  | ended (result : ActionResult)
  deriving DecidableEq, Repr

end WorkflowEngine
