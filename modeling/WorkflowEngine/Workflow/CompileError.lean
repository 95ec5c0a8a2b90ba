/-
This file holds the reasons for which a definition is refused.
-/

namespace WorkflowEngine

/-- An edge leaves its source and enters its target. -/
inductive EdgeSide where
  | source
  | target
  deriving DecidableEq, Repr

/-- A cycle is given as a closed path. -/
inductive CompileError where
  | duplicateNode (nodeId : String)
  | unknownNodeReference (nodeId : String) (side : EdgeSide)
  | cycleDetected (cycle : List String)
  | unknownNodeType (nodeId nodeType : String)
  deriving DecidableEq, Repr

namespace CompileError

def sideName : EdgeSide → String
  | .source => "from"
  | .target => "to"

def message : CompileError → String
  | .duplicateNode nodeId => "duplicate node ID: '" ++ nodeId ++ "'"
  | .unknownNodeReference nodeId side =>
    "edge references unknown node '" ++ nodeId ++ "' (" ++ sideName side ++ " side)"
  | .cycleDetected cycle => "workflow graph contains a cycle: " ++ " -> ".intercalate cycle
  | .unknownNodeType nodeId nodeType =>
    "node '" ++ nodeId ++ "' has unknown type '" ++ nodeType ++ "'"

end CompileError

end WorkflowEngine
