/-
This file compiles definitions with every lookup checked. No lookup misses, whatever the definition,
so the checked compiler always answers what the compiler answers.
-/

import WorkflowEngine.Proofs.Workflow.CheckedPeeling
import WorkflowEngine.Proofs.Workflow.PlanShape

namespace WorkflowEngine

namespace Definition

def order? (definition : Definition) : Option (Except CompileError (List String)) :=
  match firstRepeated? [] definition.nodeIds with
  | some id => some (.error (.duplicateNode id))
  | none =>
    match unknownReference? definition.nodeIds definition.edges with
    | some error => some (.error error)
    | none => do
      match ← definition.graph.order? with
      | .ok order => some (.ok order)
      | .error cycle => some (.error (.cycleDetected cycle))

theorem order_checked (definition : Definition) : definition.order? = some definition.order := by
  unfold order? Definition.order
  cases repeated : firstRepeated? [] definition.nodeIds with
  | some id => rfl
  | none =>
    cases unknown : unknownReference? definition.nodeIds definition.edges with
    | some error => rfl
    | none =>
      have proper := graph_proper (firstRepeated_none repeated).1 (unknownReference_none unknown)
      simp only [Graph.order_checked proper, Option.bind_eq_bind, Option.bind_some]
      cases definition.graph.order <;> rfl

def specs (definition : Definition) : Table String NodeSpec :=
  definition.nodes.map fun node => (node.id, node)

end Definition

namespace Compiler

def places (order : List String) : Table String Nat :=
  order.zipIdx

def join? (order : List String) (edge : Edge) : Option (Nat × Nat) := do
  let source ← (places order).get? edge.source
  let target ← (places order).get? edge.target
  some (source, target)

/-- An edge without a place fails. -/
def predecessors? (definition : Definition) (order : List String) (nodeId : String) :
    Option (List Predecessor) := do
  let entering ← (definition.firstEdges.filter fun edge => edge.target == nodeId).mapM fun edge =>
    (join? order edge).map fun joined =>
      (⟨edge.source, joined.1, edge.outputSlot⟩ : Predecessor)
  some (entering.mergeSort fun left right => left.index ≤ right.index)

/-- An edge without a place fails. -/
def successors? (definition : Definition) (order : List String) (nodeId : String) :
    Option (List Nat) := do
  let leaving ← (definition.firstEdges.filter fun edge => edge.source == nodeId).mapM fun edge =>
    (join? order edge).map Prod.snd
  some (leaving.mergeSort fun left right => left ≤ right)

/-- Every edge of the step needs a place. -/
def step? (compiler : Compiler) (definition : Definition) (order : List String) (index : Nat)
    (node : NodeSpec) : Option PlanStep := do
  let predecessors ← predecessors? definition order node.id
  let successors ← successors? definition order node.id
  some {
    index := index
    nodeId := node.id
    nodeType := node.nodeType
    parameters := node.parameters
    predecessors := predecessors
    successors := successors
    retry := compiler.retryPolicy definition node
    timeout := compiler.timeout definition node
    tolerant := node.tolerant }

/-- Every node of the plan has to be found. -/
def plan? (compiler : Compiler) (definition : Definition) (order : List String) : Option Plan := do
  let nodes ← order.mapM fun id => definition.specs.get? id
  let steps ← nodes.zipIdx.mapM fun entry => compiler.step? definition order entry.2 entry.1
  some {
    workflowId := definition.id
    version := definition.version
    steps := steps
    entryNodes := (steps.filter fun step => step.predecessors.isEmpty).map PlanStep.nodeId
    maxConcurrency := compiler.maxConcurrency definition }

/-- Every lookup and every subtraction is checked. -/
def compile? (compiler : Compiler) (definition : Definition) :
    Option (Except CompileError Plan) := do
  match ← definition.order? with
  | .error error => some (.error error)
  | .ok order =>
    match compiler.unknownType? definition with
    | some error => some (.error error)
    | none =>
      let plan ← compiler.plan? definition order
      some (.ok plan)

theorem mapM_some {A B : Type} {items : List A} (find : A → Option B) (value : A → B)
    (found : ∀ item ∈ items, find item = some (value item)) :
    items.mapM find = some (items.map value) := by
  induction items with
  | nil => rfl
  | cons first rest inductionHypothesis =>
    have tail := inductionHypothesis fun item member => found item (List.mem_cons_of_mem _ member)
    simp [found first List.mem_cons_self, tail]

theorem places_get {order : List String} {name : String} (member : name ∈ order) :
    (places order).get? name = some (order.idxOf name) := by
  have shifted (start : Nat) :
      Table.get? (order.zipIdx start) name = some (start + order.idxOf name) := by
    induction order generalizing start with
    | nil => cases member
    | cons first rest inductionHypothesis =>
      by_cases same : first = name
      · simp [Table.get?, same]
      · have inRest := (List.mem_cons.mp member).resolve_left (Ne.symm same)
        simp only [List.zipIdx_cons, Table.get?, if_neg same, inductionHypothesis inRest,
          List.idxOf_cons_ne _ same, Nat.succ_eq_add_one]
        congr 1
        omega
  simpa [places] using shifted 0

theorem specs_get (definition : Definition) (id : String) :
    definition.specs.get? id = definition.nodes.find? fun node => node.id == id := by
  unfold Definition.specs
  induction definition.nodes with
  | nil => rfl
  | cons first rest inductionHypothesis =>
    by_cases same : first.id = id
    · simp [Table.get?, same]
    · simp [Table.get?, same, inductionHypothesis]

variable {compiler : Compiler} {definition : Definition} {order : List String}

/-- Both ends of an edge have a place in the order. -/
theorem join_checked (ordered : definition.Ordered order) {edge : Edge}
    (kept : edge ∈ definition.firstEdges) :
    join? order edge = some (order.idxOf edge.source, order.idxOf edge.target) := by
  have ends := ordered.endsKnown edge (Definition.mem_firstEdges kept)
  simp [join?, places_get ends.1, places_get ends.2]

theorem predecessors_checked (ordered : definition.Ordered order) (nodeId : String) :
    predecessors? definition order nodeId = some (predecessors definition order nodeId) := by
  have joined (edge : Edge)
      (member : edge ∈ definition.firstEdges.filter fun edge => edge.target == nodeId) :
      ((join? order edge).map fun joined =>
        (⟨edge.source, joined.1, edge.outputSlot⟩ : Predecessor)) =
          some ⟨edge.source, order.idxOf edge.source, edge.outputSlot⟩ := by
    rw [join_checked ordered (List.mem_filter.mp member).1]
    rfl
  have entering := mapM_some _ _ joined
  simp only [predecessors?, predecessors, entering, Option.bind_eq_bind, Option.bind_some]

theorem successors_checked (ordered : definition.Ordered order) (nodeId : String) :
    successors? definition order nodeId = some (successors definition order nodeId) := by
  have joined (edge : Edge)
      (member : edge ∈ definition.firstEdges.filter fun edge => edge.source == nodeId) :
      (join? order edge).map Prod.snd = some (order.idxOf edge.target) := by
    rw [join_checked ordered (List.mem_filter.mp member).1]
    rfl
  have leaving := mapM_some _ _ joined
  simp only [successors?, successors, leaving, Option.bind_eq_bind, Option.bind_some]

theorem step_checked (ordered : definition.Ordered order) (index : Nat) (node : NodeSpec) :
    compiler.step? definition order index node =
      some (compiler.step definition order index node) := by
  simp [step?, step, predecessors_checked ordered, successors_checked ordered]

/-- Every name of the order is the name of a node, so the nodes are found in turn. -/
theorem orderedNodes_checked (ordered : definition.Ordered order) :
    (order.mapM fun id => definition.specs.get? id) = some (orderedNodes definition order) := by
  have known (name : String) (member : name ∈ order) : name ∈ definition.nodeIds :=
    ordered.perm.mem_iff.mp member
  clear ordered
  induction order with
  | nil => rfl
  | cons first rest inductionHypothesis =>
    have tail := inductionHypothesis fun name member => known name (List.mem_cons_of_mem _ member)
    obtain ⟨node, member, named⟩ := List.mem_map.mp (known first List.mem_cons_self)
    have isSome : (definition.nodes.find? fun node => node.id == first).isSome :=
      List.find?_isSome.mpr ⟨node, member, by simpa using named⟩
    obtain ⟨chosen, found⟩ := Option.isSome_iff_exists.mp isSome
    rw [List.mapM_cons, specs_get, found, tail]
    simp [orderedNodes, found]

theorem plan_checked (ordered : definition.Ordered order) :
    compiler.plan? definition order = some (compiler.plan definition order) := by
  have built (entry : NodeSpec × Nat) (_ : entry ∈ (orderedNodes definition order).zipIdx) :
      compiler.step? definition order entry.2 entry.1 =
        some (compiler.step definition order entry.2 entry.1) :=
    step_checked ordered entry.2 entry.1
  have steps := mapM_some _ _ built
  simp only [plan?, plan, orderedNodes_checked ordered, steps, Option.bind_eq_bind,
    Option.bind_some, List.mapIdx_eq_zipIdx_map]

/-- No lookup of the compiler misses and no subtraction underflows. -/
theorem compile_checked (compiler : Compiler) (definition : Definition) :
    compiler.compile? definition = some (compiler.compile definition) := by
  simp only [compile?, compile, Definition.order_checked, Option.bind_eq_bind, Option.bind_some]
  cases found : definition.order with
  | error error => rfl
  | ok order =>
    cases compiler.unknownType? definition with
    | some error => rfl
    | none => simp only [plan_checked (Definition.order_ordered found), Option.bind_some]

end Compiler

end WorkflowEngine
