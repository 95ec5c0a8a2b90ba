/-
This file holds the catalog of node types. The compiler refuses types that it does not hold, and a
step finds its action in it.
-/

import WorkflowEngine.Node.Builtin
import WorkflowEngine.Node.Mock
import WorkflowEngine.Text.Quoted

namespace WorkflowEngine

inductive Node where
  | passthrough
  | set
  | delay
  | mock (double : Mock)
  | scripted
  deriving DecidableEq, Repr

namespace Node

def start (node : Node) (call : ActionCall) (bench : Bench) : ActionProgress × Bench :=
  match node with
  | .passthrough => (.ended (.output call.input), bench)
  | .set => (.ended (Builtin.set call.parameters call.input), bench)
  | .delay => (Builtin.delay call.parameters, bench)
  | .mock double => double.start call.input bench
  | .scripted => (Script.start call, bench)

def finish (node : Node) (call : ActionCall) (bench : Bench) : ActionResult × Bench :=
  match node with
  | .passthrough => (.output call.input, bench)
  | .set => (Builtin.set call.parameters call.input, bench)
  | .delay => (.output call.input, bench)
  | .mock double => double.finish bench
  | .scripted => (Script.finish call, bench)

/-- The number beside the result is the time in milliseconds. -/
def perform (node : Node) (call : ActionCall) (bench : Bench) : ActionResult × Nat × Bench :=
  match node.start call bench with
  | (.ended result, bench) => (result, 0, bench)
  | (.pausing milliseconds, bench) =>
    let (result, bench) := node.finish call bench
    (result, milliseconds, bench)

end Node

abbrev Catalog := Table String Node

namespace Catalog

def builtin : Catalog :=
  [("passthrough", .passthrough), ("set", .set), ("delay", .delay)]

def nodeTypes (catalog : Catalog) : List String :=
  (catalog.map Prod.fst).mergeSort fun left right => left ≤ right

def summary (catalog : Catalog) : String :=
  "NodeCatalog \x7b node_types: " ++ Text.Quoted.list catalog.nodeTypes ++ " \x7d"

end Catalog

end WorkflowEngine
