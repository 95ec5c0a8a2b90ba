/-
This file proves that it does not matter in which order the nodes and the edges of a definition are
listed. As long as parallel edges stay in order, the plan and the reported cycle are the same ones.
-/

import WorkflowEngine.Proofs.Workflow.CanonicalOrder
import WorkflowEngine.Proofs.Workflow.PlanEdges
import WorkflowEngine.Proofs.Workflow.ReportedCycle

namespace WorkflowEngine

namespace Graph

/-- The least text of a list is the one of every list with the same texts. -/
theorem least?_congr {texts others : List String} (same : ∀ text, text ∈ texts ↔ text ∈ others) :
    least? texts = least? others := by
  cases texts with
  | nil =>
    have empty : others = [] := by simpa [List.eq_nil_iff_forall_not_mem] using same
    rw [empty]
  | cons first rest =>
    obtain ⟨least, inTexts, found⟩ := least?_some (List.mem_cons_self : first ∈ first :: rest)
    obtain ⟨other, inOthers, chosen⟩ := least?_some ((same first).mp List.mem_cons_self)
    have below := least?_le found other ((same other).mpr inOthers)
    have above := least?_le chosen least ((same least).mp inTexts)
    rw [found, chosen, String.le_antisymm below above]

variable {graph other : Graph}

/-- A walk depends on what the edges join and on which nodes it may enter. -/
theorem walk_congr (joins : graph.Joins = other.Joins) {within rest : List String}
    (same : ∀ node, node ∈ within ↔ node ∈ rest) (fuel : Nat) (path : List String)
    (node : String) : graph.walk within fuel path node = other.walk rest fuel path node := by
  induction fuel generalizing path node with
  | zero => rfl
  | succ fuel inductionHypothesis =>
    have least : graph.leastPredecessor? within node = other.leastPredecessor? rest node := by
      apply least?_congr
      intro source
      have edge : (source, node) ∈ graph.edges ↔ (source, node) ∈ other.edges :=
        iff_of_eq (congrFun (congrFun joins source) node)
      simp [mem_predecessors, edge, same source]
    simp only [walk, least]
    split
    · rfl
    · split
      · exact inductionHypothesis _ _
      · rfl

/-- The cycle that is found depends on what the edges join. -/
theorem findCycle_congr (joins : graph.Joins = other.Joins) {within rest : List String}
    (perm : within.Perm rest) : graph.findCycle within = other.findCycle rest := by
  have same (node : String) : node ∈ within ↔ node ∈ rest := perm.mem_iff
  rw [findCycle, findCycle, least?_congr same, perm.length_eq]
  simp only [walk_congr joins same]

/-- Proper graphs with one precedence are ordered in one way, or have the same cycle. -/
theorem order_congr (proper : graph.Proper) (otherProper : other.Proper)
    (same : graph.precedence = other.precedence) : graph.order = other.order := by
  have joins : graph.Joins = other.Joins := congrArg Precedence.joins same
  have nodes : graph.nodes.Perm other.nodes :=
    (List.perm_ext_iff_of_nodup proper.nodesDistinct otherProper.nodesDistinct).mpr fun node =>
      iff_of_eq (congrFun (congrArg Precedence.knows same) node)
  have placed : graph.peeled.placed = other.peeled.placed :=
    (peeled_greedy proper).unique (same ▸ peeled_greedy otherProper)
  have left : (remaining graph.peeled).Perm (remaining other.peeled) := by
    apply (List.perm_ext_iff_of_nodup (remaining_nodup proper) (remaining_nodup otherProper)).mpr
    intro node
    rw [mem_remaining proper, mem_remaining otherProper, nodes.mem_iff, placed]
  rw [order, order, placed, nodes.length_eq, findCycle_congr joins left]

end Graph

namespace Definition

/-- Parallel edges keep their order in a relisting. -/
structure Relists (definition : Definition) (nodes : List NodeSpec) (edges : List Edge) : Prop where
  nodesPerm : nodes.Perm definition.nodes
  edgesPerm : edges.Perm definition.edges
  parallel : ∀ source target,
    (edges.filter fun edge => edge.source == source && edge.target == target) =
      definition.edges.filter fun edge => edge.source == source && edge.target == target

def relisted (definition : Definition) (nodes : List NodeSpec) (edges : List Edge) : Definition :=
  { definition with nodes, edges }

variable {definition : Definition} {nodes : List NodeSpec} {edges : List Edge}

/-- Only pairs of nodes that edges join have to be looked at. -/
theorem relists_iff : definition.Relists nodes edges ↔
    nodes.Perm definition.nodes ∧ edges.Perm definition.edges ∧ ∀ kept ∈ definition.edges,
      (edges.filter fun edge => edge.source == kept.source && edge.target == kept.target) =
        definition.edges.filter fun edge =>
          edge.source == kept.source && edge.target == kept.target := by
  constructor
  · rintro ⟨nodesPerm, edgesPerm, parallel⟩
    exact ⟨nodesPerm, edgesPerm, fun kept _ => parallel kept.source kept.target⟩
  · rintro ⟨nodesPerm, edgesPerm, parallel⟩
    refine ⟨nodesPerm, edgesPerm, fun source target => ?_⟩
    by_cases joined : ∃ kept ∈ definition.edges, kept.source = source ∧ kept.target = target
    · obtain ⟨kept, member, rfl, rfl⟩ := joined
      exact parallel kept member
    · have perm := edgesPerm.filter fun edge => edge.source == source && edge.target == target
      have empty : (definition.edges.filter fun edge =>
          edge.source == source && edge.target == target) = [] := by
        rw [List.filter_eq_nil_iff]
        intro kept member same
        exact joined ⟨kept, member, by simpa using same⟩
      rw [empty] at perm ⊢
      exact perm.eq_nil

instance : Decidable (definition.Relists nodes edges) :=
  decidable_of_iff' _ relists_iff

namespace Relists

theorem nodeIds (relists : definition.Relists nodes edges) :
    (definition.relisted nodes edges).nodeIds.Perm definition.nodeIds :=
  relists.nodesPerm.map NodeSpec.id

theorem knows (relists : definition.Relists nodes edges)
    (known : ∀ edge ∈ definition.edges, definition.Knows edge) :
    ∀ edge ∈ (definition.relisted nodes edges).edges,
      (definition.relisted nodes edges).Knows edge := by
  intro edge member
  obtain ⟨source, target⟩ := known edge (relists.edgesPerm.mem_iff.mp member)
  exact ⟨relists.nodeIds.mem_iff.mpr source, relists.nodeIds.mem_iff.mpr target⟩

/-- Definitions that list the same nodes and edges have one precedence. -/
theorem precedence (relists : definition.Relists nodes edges) :
    (definition.relisted nodes edges).precedence = definition.precedence := by
  have knows : (· ∈ (definition.relisted nodes edges).nodeIds) = (· ∈ definition.nodeIds) :=
    funext fun node => propext relists.nodeIds.mem_iff
  have joins : (definition.relisted nodes edges).Joins = definition.Joins := by
    funext source target
    simp only [Joins, relisted, relists.edgesPerm.mem_iff]
  have counts : (definition.relisted nodes edges).predecessorCount =
      definition.predecessorCount := by
    funext node
    exact congrArg Finset.card
      (List.toFinset_eq_of_perm _ _ ((relists.edgesPerm.filter _).map Edge.source))
  rw [Definition.precedence, Definition.precedence, knows, joins, counts]

/-- Definitions with the same nodes and edges are ordered in one way. -/
theorem order (relists : definition.Relists nodes edges) (distinct : definition.nodeIds.Nodup)
    (known : ∀ edge ∈ definition.edges, definition.Knows edge) :
    (definition.relisted nodes edges).order = definition.order := by
  have distinctToo := relists.nodeIds.nodup_iff.mpr distinct
  have knownToo := relists.knows known
  have proper := graph_proper distinct known
  have properToo := graph_proper distinctToo knownToo
  have same : (definition.relisted nodes edges).graph.precedence = definition.graph.precedence := by
    rw [graph_precedence proper, graph_precedence properToo, relists.precedence]
  simp only [Definition.order, firstRepeated_distinct distinct, firstRepeated_distinct distinctToo,
    unknownReference_known known, unknownReference_known knownToo,
    Graph.order_congr properToo proper same]

/-- The first edge between two nodes is the same one. -/
theorem firstEdge (relists : definition.Relists nodes edges) (source target : String) :
    (definition.relisted nodes edges).firstEdge? source target =
      definition.firstEdge? source target := by
  rw [firstEdge?, firstEdge?, ← List.head?_filter, ← List.head?_filter]
  exact congrArg List.head? (relists.parallel source target)

/-- The same edges are kept. -/
theorem firstEdges (relists : definition.Relists nodes edges) :
    (definition.relisted nodes edges).firstEdges.Perm definition.firstEdges := by
  have apart (any : Definition) : any.firstEdges.Nodup :=
    (firstEdges_distinct any).imp fun different same =>
      different ⟨(congrArg Edge.source same).symm, (congrArg Edge.target same).symm⟩
  apply (List.perm_ext_iff_of_nodup (apart _) (apart _)).mpr
  intro edge
  rw [mem_firstEdges_iff, mem_firstEdges_iff, relists.firstEdge]

/-- The same node is found under a name. -/
theorem find (relists : definition.Relists nodes edges) (distinct : definition.nodeIds.Nodup)
    (name : String) : (nodes.find? fun node => node.id == name) =
      definition.nodes.find? fun node => node.id == name := by
  have single (any : List NodeSpec) (apart : (any.map NodeSpec.id).Nodup) :
      (any.filter fun node => node.id == name).length ≤ 1 := by
    have few := List.nodup_iff_count_le_one.mp apart name
    rwa [List.count, List.countP_map, List.countP_eq_length_filter] at few
  rw [← List.head?_filter, ← List.head?_filter]
  have perm := relists.nodesPerm.filter fun node => node.id == name
  have few := single definition.nodes distinct
  generalize (definition.nodes.filter fun node => node.id == name) = found at perm few
  match found with
  | [] => rw [perm.eq_nil]
  | [node] => rw [List.perm_singleton.mp perm]
  | _ :: _ :: _ => simp at few

end Relists

end Definition

namespace Compiler

variable {compiler : Compiler} {definition : Definition} {nodes : List NodeSpec}
  {edges : List Edge} {order : List String}

/-- Every order that fits a definition gives one plan, however the definition is listed. -/
theorem plan_relisted (relists : definition.Relists nodes edges)
    (distinct : definition.nodeIds.Nodup) (ordered : definition.Ordered order) :
    compiler.plan (definition.relisted nodes edges) order = compiler.plan definition order := by
  have found : orderedNodes (definition.relisted nodes edges) order =
      orderedNodes definition order := by
    simp only [orderedNodes, Definition.relisted, relists.find distinct]
  have before (name : String) : predecessors (definition.relisted nodes edges) order name =
      predecessors definition order name := by
    apply mergeSort_congr Predecessor.index ((relists.firstEdges.filter _).map _)
    exact ((List.mergeSort_perm _ _).map Predecessor.index).nodup_iff.mp
      (predecessors_nodup ordered name)
  have behind (name : String) : successors (definition.relisted nodes edges) order name =
      successors definition order name := by
    apply mergeSort_congr id ((relists.firstEdges.filter _).map _)
    rw [List.map_id]
    exact (List.mergeSort_perm _ _).nodup_iff.mp (successors_nodup ordered name)
  have steps : compiler.step (definition.relisted nodes edges) order =
      compiler.step definition order := by
    funext index node
    simp only [step, before, behind]
    rfl
  simp only [plan, found, steps]
  rfl

/-- If one listing has no node of an unknown type, the other one has none either. -/
theorem unknownType_relisted (relists : definition.Relists nodes edges)
    (typed : compiler.unknownType? definition = none) :
    compiler.unknownType? (definition.relisted nodes edges) = none := by
  simp only [unknownType?, Option.map_eq_none_iff, List.find?_eq_none] at typed ⊢
  exact fun node member => typed node (relists.nodesPerm.mem_iff.mp member)

/-- A definition that compiles has the same plan however it is listed. -/
theorem compile_relisted (relists : definition.Relists nodes edges) {plan : Plan}
    (compiled : compiler.compile definition = .ok plan) :
    compiler.compile (definition.relisted nodes edges) = .ok plan := by
  obtain ⟨⟨distinct, known, _, _⟩, _⟩ := compile_accepts compiled
  obtain ⟨order, found, typed, rfl⟩ := compile_inversion compiled
  simp only [compile, relists.order distinct known, found, unknownType_relisted relists typed]
  rw [plan_relisted relists distinct (Definition.order_ordered found)]

/-- Each step of a plan is the next one behind the steps before it. -/
theorem step_next {plan : Plan} (compiled : compiler.compile definition = .ok plan) {index : Nat}
    {step : PlanStep} (found : plan.steps[index]? = some step) :
    definition.precedence.Next (plan.stepOrder.take index) step.nodeId := by
  obtain ⟨⟨distinct, known, _, _⟩, _⟩ := compile_accepts compiled
  obtain ⟨order, ordered, _, rfl⟩ := compile_inversion compiled
  have proper := Definition.graph_proper distinct known
  have names : (compiler.plan definition order).stepOrder = order :=
    plan_names (Definition.order_ordered ordered)
  have placed : order[index]? = some step.nodeId := by
    rw [← names, Plan.stepOrder, List.getElem?_map, found, Option.map_some]
  have greedy := Graph.order_greedy proper (Definition.graph_order ordered)
  rw [Definition.graph_precedence proper] at greedy
  rw [names]
  exact greedy.next_at placed

/-- Neither plans nor reported cycles depend on the order of a listing. -/
theorem compile_canonical (compiler : Compiler) (definition : Definition) :
    (∀ plan, compiler.compile definition = .ok plan →
      ∀ (index : Nat) (step : PlanStep), plan.steps[index]? = some step →
        definition.precedence.Next (plan.stepOrder.take index) step.nodeId) ∧
    ∀ nodes edges, definition.Relists nodes edges →
      (∀ plan, compiler.compile definition = .ok plan →
        compiler.compile (definition.relisted nodes edges) = .ok plan) ∧
      (definition.nodeIds.Nodup → (∀ edge ∈ definition.edges, definition.Knows edge) →
        ¬definition.Acyclic → ∃ cycle,
          compiler.compile definition = .error (.cycleDetected cycle) ∧
          compiler.compile (definition.relisted nodes edges) = .error (.cycleDetected cycle)) := by
  refine ⟨fun plan compiled index step found => step_next compiled found, ?_⟩
  intro nodes edges relists
  refine ⟨fun plan compiled => compile_relisted relists compiled, ?_⟩
  intro distinct known cyclic
  obtain ⟨node, around⟩ := not_forall_not.mp cyclic
  obtain ⟨cycle, failed, _⟩ := Definition.reported_cycle_real distinct known around
  refine ⟨cycle, ?_, ?_⟩
  · rw [compile, failed]
  · rw [compile, relists.order distinct known, failed]

/-- The nodes are listed backward, and the edges but for the parallel ones. -/
theorem woven_pursued_canonical :
    (∃ plan, compile ⟨["passthrough"], {}⟩ woven = .ok plan ∧
      plan.stepOrder = ["a", "b", "c"] ∧ woven.precedence.Next ["a"] "b" ∧
      compile ⟨["passthrough"], {}⟩ (woven.relisted woven.nodes.reverse
        [⟨"a", "c", some "left"⟩, ⟨"a", "c", some "right"⟩, ⟨"a", "b", none⟩, ⟨"b", "c", none⟩]) =
          .ok plan) ∧
    compile ⟨["passthrough"], {}⟩ Definition.pursued =
      .error (.cycleDetected ["a", "b", "c", "a"]) ∧
    compile ⟨["passthrough"], {}⟩ (Definition.pursued.relisted Definition.pursued.nodes.reverse
      Definition.pursued.edges.reverse) = .error (.cycleDetected ["a", "b", "c", "a"]) := by
  have ordered : woven.order = .ok ["a", "b", "c"] := by decide +kernel
  have typed : unknownType? ⟨["passthrough"], {}⟩ woven = none := by decide +kernel
  have compiled : compile ⟨["passthrough"], {}⟩ woven =
      .ok (plan ⟨["passthrough"], {}⟩ woven ["a", "b", "c"]) := by
    simp only [compile, ordered, typed]
  have names : (plan ⟨["passthrough"], {}⟩ woven ["a", "b", "c"]).stepOrder = ["a", "b", "c"] :=
    plan_names (Definition.order_ordered ordered)
  obtain ⟨least, relist⟩ := compile_canonical ⟨["passthrough"], {}⟩ woven
  have failed : compile ⟨["passthrough"], {}⟩ Definition.pursued =
      .error (.cycleDetected ["a", "b", "c", "a"]) := by decide +kernel
  refine ⟨⟨_, compiled, names, ?_, (relist _ _ (by decide +kernel)).1 _ compiled⟩, failed, ?_⟩
  · have second : (plan ⟨["passthrough"], {}⟩ woven ["a", "b", "c"]).stepOrder[1]? = some "b" := by
      rw [names]
      rfl
    rw [Plan.stepOrder, List.getElem?_map, Option.map_eq_some_iff] at second
    obtain ⟨step, found, named⟩ := second
    have next := least _ compiled 1 step found
    rwa [names, named] at next
  · have around : ¬Definition.pursued.Acyclic := fun acyclic => acyclic "a"
      (.tail (.tail (.single ⟨⟨"a", "b", none⟩, by decide, rfl, rfl⟩)
        ⟨⟨"b", "c", none⟩, by decide, rfl, rfl⟩) ⟨⟨"c", "a", none⟩, by decide, rfl, rfl⟩)
    obtain ⟨cycle, accused, same⟩ := ((compile_canonical ⟨["passthrough"], {}⟩
      Definition.pursued).2 Definition.pursued.nodes.reverse Definition.pursued.edges.reverse
        (by decide +kernel)).2 (by decide)
        (by simp [Definition.pursued, Definition.Knows, Definition.nodeIds]) around
    rw [failed] at accused
    cases accused
    exact same

end Compiler

end WorkflowEngine
