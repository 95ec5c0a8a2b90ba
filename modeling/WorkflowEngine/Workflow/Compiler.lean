/-
This file compiles definitions into plans. A definition is refused for the first rule that it
breaks: distinct identifiers, known ends of edges, no cycle, known node types.
-/

import WorkflowEngine.Workflow.CompileError
import WorkflowEngine.Workflow.Definition
import WorkflowEngine.Workflow.EngineConfig
import WorkflowEngine.Workflow.Graph
import WorkflowEngine.Workflow.Plan

namespace WorkflowEngine

open Time

namespace Definition

def nodeIds (definition : Definition) : List String :=
  definition.nodes.map NodeSpec.id

def firstRepeated? (seen : List String) : List String → Option String
  | [] => none
  | first :: rest => if seen.contains first then some first else firstRepeated? (first :: seen) rest

/-- The source of an edge is looked at before its target. -/
def unknownReference? (ids : List String) : List Edge → Option CompileError
  | [] => none
  | edge :: rest =>
    if !ids.contains edge.source then some (.unknownNodeReference edge.source .source)
    else if !ids.contains edge.target then some (.unknownNodeReference edge.target .target)
    else unknownReference? ids rest

def graph (definition : Definition) : Graph :=
  .ofEdges definition.nodeIds (definition.edges.map fun edge => (edge.source, edge.target))

/-- Node types are not looked at. -/
def order (definition : Definition) : Except CompileError (List String) :=
  match firstRepeated? [] definition.nodeIds with
  | some id => .error (.duplicateNode id)
  | none =>
    match unknownReference? definition.nodeIds definition.edges with
    | some error => .error error
    | none =>
      match definition.graph.order with
      | .ok order => .ok order
      | .error cycle => .error (.cycleDetected cycle)

/-- Only the first edge between two nodes counts. -/
def firstEdges (definition : Definition) : List Edge :=
  definition.edges.eraseDupsBy fun left right =>
    left.source == right.source && left.target == right.target

end Definition

/-- The compiler knows the node types of the catalog and the defaults of the engine. -/
structure Compiler where
  nodeTypes : List String
  config : EngineConfig

namespace Compiler

def unknownType? (compiler : Compiler) (definition : Definition) : Option CompileError :=
  (definition.nodes.find? fun node => !compiler.nodeTypes.contains node.nodeType).map fun node =>
    .unknownNodeType node.id node.nodeType

/-- A node goes before its workflow, and the workflow before the engine. -/
def retryPolicy (compiler : Compiler) (definition : Definition) (node : NodeSpec) : RetryPolicy :=
  node.retry.getD (definition.settings.defaultRetry.getD compiler.config.defaultRetry)

/-- A node goes before its workflow, and the workflow before the engine. -/
def timeout (compiler : Compiler) (definition : Definition) (node : NodeSpec) : Duration :=
  match node.timeoutMs.or definition.settings.defaultTimeoutMs with
  | some milliseconds => .ofMilliseconds milliseconds.toNat
  | none => compiler.config.defaultStepTimeout

/-- At least one step may run at once. -/
def maxConcurrency (compiler : Compiler) (definition : Definition) : Nat :=
  match definition.settings.maxConcurrency with
  | some count => max count.toNat 1
  | none => max compiler.config.defaultMaxConcurrency.toNat 1

/-- The dependencies stand in the order of the plan. -/
def predecessors (definition : Definition) (order : List String) (nodeId : String) :
    List Predecessor :=
  ((definition.firstEdges.filter fun edge => edge.target == nodeId).map fun edge =>
      (⟨edge.source, order.idxOf edge.source, edge.outputSlot⟩ : Predecessor)).mergeSort
    fun left right => left.index ≤ right.index

def successors (definition : Definition) (order : List String) (nodeId : String) : List Nat :=
  ((definition.firstEdges.filter fun edge => edge.source == nodeId).map fun edge =>
      order.idxOf edge.target).mergeSort
    fun left right => left ≤ right

def step (compiler : Compiler) (definition : Definition) (order : List String) (index : Nat)
    (node : NodeSpec) : PlanStep :=
  { index := index
    nodeId := node.id
    nodeType := node.nodeType
    parameters := node.parameters
    predecessors := predecessors definition order node.id
    successors := successors definition order node.id
    retry := compiler.retryPolicy definition node
    timeout := compiler.timeout definition node
    tolerant := node.tolerant }

def orderedNodes (definition : Definition) (order : List String) : List NodeSpec :=
  order.filterMap fun id => definition.nodes.find? fun node => node.id == id

def plan (compiler : Compiler) (definition : Definition) (order : List String) : Plan :=
  let steps := (orderedNodes definition order).mapIdx (compiler.step definition order)
  { workflowId := definition.id
    version := definition.version
    steps := steps
    entryNodes := (steps.filter fun step => step.predecessors.isEmpty).map PlanStep.nodeId
    maxConcurrency := compiler.maxConcurrency definition }

def compile (compiler : Compiler) (definition : Definition) : Except CompileError Plan :=
  match definition.order with
  | .error error => .error error
  | .ok order =>
    match compiler.unknownType? definition with
    | some error => .error error
    | none => .ok (compiler.plan definition order)

end Compiler

end WorkflowEngine
