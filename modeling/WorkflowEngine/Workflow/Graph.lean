/-
This file orders the nodes of a directed graph. Nodes are peeled off as soon as their predecessors
are placed, the least one first by number of predecessors and then by identifier. Where nodes
remain, a walk along predecessors finds a cycle.
-/

import WorkflowEngine.Table

namespace WorkflowEngine

/-- Nodes are named, and parallel edges count once. -/
structure Graph where
  nodes : List String
  edges : List (String × String)
  deriving DecidableEq, Repr

namespace Graph

/-- Repeated edges count once. -/
def ofEdges (nodes : List String) (edges : List (String × String)) : Graph :=
  ⟨nodes, edges.eraseDups⟩

def successors (graph : Graph) (node : String) : List String :=
  (graph.edges.filter fun edge => edge.1 == node).map Prod.snd

def predecessors (graph : Graph) (node : String) : List String :=
  (graph.edges.filter fun edge => edge.2 == node).map Prod.fst

def degree (graph : Graph) (node : String) : Nat :=
  (graph.predecessors node).length

/-- Entries are ordered by degree and then by identifier. -/
def before (left right : Nat × String) : Bool :=
  left.1 < right.1 || (left.1 == right.1 && left.2 < right.2)

def enqueue (entry : Nat × String) : List (Nat × String) → List (Nat × String)
  | [] => [entry]
  | first :: rest => if before entry first then entry :: first :: rest else first :: enqueue entry rest

/-- The table `entering` counts the edges that are still to be removed. -/
structure Peeling where
  ready : List (Nat × String)
  entering : Table String Nat
  placed : List String

/-- Peeling starts with the nodes that no edge enters. -/
def startPeeling (graph : Graph) : Peeling :=
  { ready := (graph.nodes.filter fun node => graph.degree node == 0).foldl
      (fun ready node => enqueue (0, node) ready) []
    entering := graph.nodes.map fun node => (node, graph.degree node)
    placed := [] }

/-- A node is ready after its last edge is removed. -/
def release (graph : Graph) (peeling : Peeling) (node : String) : Peeling :=
  match peeling.entering.get? node with
  | some (left + 1) =>
    { peeling with
      entering := peeling.entering.insert node left
      ready := if left = 0 then enqueue (graph.degree node, node) peeling.ready else peeling.ready }
  | _ => peeling

/-- The least ready node is placed, as often as the count allows. -/
def peel (graph : Graph) : Nat → Peeling → Peeling
  | 0, peeling => peeling
  | count + 1, peeling =>
    match peeling.ready with
    | [] => peeling
    | (_, node) :: rest =>
      peel graph count ((graph.successors node).foldl (release graph)
        { peeling with ready := rest, placed := peeling.placed ++ [node] })

/-- Every node is placed at most once. -/
def peeled (graph : Graph) : Peeling :=
  graph.peel graph.nodes.length graph.startPeeling

def remaining (peeling : Peeling) : List String :=
  (peeling.entering.filter fun entry => entry.2 != 0).map Prod.fst

def least? : List String → Option String
  | [] => none
  | first :: rest => some (rest.foldl (fun least text => if text < least then text else least) first)

def leastPredecessor? (graph : Graph) (within : List String) (node : String) : Option String :=
  least? ((graph.predecessors node).filter fun source => within.contains source)

/-- The path has its newest node first, so it follows the edges. -/
def walk (graph : Graph) (within : List String) : Nat → List String → String → List String
  | 0, path, _ => path
  | fuel + 1, path, node =>
    if path.contains node then (path.takeWhile fun visited => visited != node) ++ [node]
    else
      match graph.leastPredecessor? within node with
      | some source => walk graph within fuel (node :: path) source
      | none => node :: path

/-- The least node of the cycle comes first and closes it. -/
def closed (cycle : List String) : List String :=
  match least? cycle with
  | none => []
  | some least =>
    (cycle.dropWhile fun node => node != least) ++ (cycle.takeWhile fun node => node != least) ++
      [least]

def findCycle (graph : Graph) (within : List String) : List String :=
  match least? within with
  | none => []
  | some start => closed (graph.walk within (within.length + 1) [] start)

def order (graph : Graph) : Except (List String) (List String) :=
  let result := graph.peeled
  if result.placed.length = graph.nodes.length then .ok result.placed
  else .error (graph.findCycle (remaining result))

end Graph

end WorkflowEngine
