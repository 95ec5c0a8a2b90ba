/-
This file holds the actions that every workflow may use. `passthrough` returns its input, `set` adds
fixed members to an object, and `delay` returns its input after a pause.
-/

import WorkflowEngine.Json.Printer
import WorkflowEngine.Node.Action

namespace WorkflowEngine.Builtin

/-- Null counts as an empty object. -/
def set (parameters input : Json) : ActionResult :=
  match (parameters.get? "values").bind Json.members? with
  | none => .failure (.invalidParameters "`values` must be an object")
  | some values =>
    match input with
    | .object members => .output (Json.merged members values)
    | .null => .output (Json.merged [] values)
    | other => .failure (.fatal ("set expects an object input, got " ++ other.render))

def delayTime? (parameters : Json) : Option Nat :=
  (parameters.get? "ms").bind Json.nat?

def delay (parameters : Json) : ActionProgress :=
  match delayTime? parameters with
  | some milliseconds => .pausing milliseconds
  | none => .ended (.failure (.invalidParameters "`ms` must be a non-negative integer"))

end WorkflowEngine.Builtin
