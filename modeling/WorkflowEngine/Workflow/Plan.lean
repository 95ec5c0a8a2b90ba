/-
This file holds compiled plans.
-/

import WorkflowEngine.Workflow.RetryPolicy

namespace WorkflowEngine

open Json Time

/-- A dependency may read a member of the output only. -/
structure Predecessor where
  nodeId : String
  index : Nat
  outputSlot : Option String
  deriving DecidableEq, Repr

/-- A step is a node at its place in the order, with its policies resolved. -/
structure PlanStep where
  index : Nat
  nodeId : String
  nodeType : String
  parameters : Json
  predecessors : List Predecessor
  successors : List Nat
  retry : RetryPolicy
  timeout : Duration
  tolerant : Bool
  deriving DecidableEq, Repr

/-- A plan lists its steps in the order of the graph. -/
structure Plan where
  workflowId : Uuid
  version : UInt32
  steps : List PlanStep
  entryNodes : List String
  maxConcurrency : Nat
  deriving DecidableEq, Repr

namespace Predecessor

def encode (predecessor : Predecessor) : Json :=
  object [("node_id", string predecessor.nodeId), ("index", ofNat predecessor.index),
    ("output_slot", ofOption (predecessor.outputSlot.map string))]

end Predecessor

namespace PlanStep

def encode (step : PlanStep) : Json :=
  object [("index", ofNat step.index), ("node_id", string step.nodeId),
    ("node_type", string step.nodeType), ("parameters", step.parameters),
    ("upstream", array (step.predecessors.map Predecessor.encode)),
    ("downstream", array (step.successors.map ofNat)), ("retry", step.retry.encode),
    ("timeout", ofDuration step.timeout), ("tolerant", bool step.tolerant)]

end PlanStep

namespace Plan

def step? (plan : Plan) (nodeId : String) : Option PlanStep :=
  plan.steps.find? fun step => step.nodeId == nodeId

def stepOrder (plan : Plan) : List String :=
  plan.steps.map PlanStep.nodeId

def length (plan : Plan) : Nat :=
  plan.steps.length

def edgeCount (plan : Plan) : Nat :=
  (plan.steps.flatMap PlanStep.successors).length

def encode (plan : Plan) : Json :=
  object [("workflow_id", ofUuid plan.workflowId), ("version", ofUInt32 plan.version),
    ("steps", array (plan.steps.map PlanStep.encode)),
    ("entry_nodes", array (plan.entryNodes.map string)),
    ("max_concurrency", ofNat plan.maxConcurrency)]

end Plan

end WorkflowEngine
