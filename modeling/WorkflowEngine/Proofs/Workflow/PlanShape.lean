/-
This file proves that compiled plans are well formed: steps stand at their indices, dependencies
lead backward, and what a step depends on and what it feeds are the same edges.
-/

import WorkflowEngine.Proofs.Workflow.Peeling
import WorkflowEngine.Workflow.Compiler

namespace WorkflowEngine

/-- The edge between two steps stands in the lists of both, and leads to a later step. -/
structure Plan.WellFormed (plan : Plan) : Prop where
  placed : ∀ {index : Nat} {step : PlanStep}, plan.steps[index]? = some step → step.index = index
  namesDistinct : (plan.steps.map PlanStep.nodeId).Nodup
  backward : ∀ {index : Nat} {step : PlanStep}, plan.steps[index]? = some step →
    ∀ predecessor ∈ step.predecessors, predecessor.index < index
  predecessorsDistinct : ∀ {index : Nat} {step : PlanStep}, plan.steps[index]? = some step →
    (step.predecessors.map Predecessor.index).Nodup
  successorsDistinct : ∀ {index : Nat} {step : PlanStep}, plan.steps[index]? = some step →
    step.successors.Nodup
  successorsInside : ∀ {index : Nat} {step : PlanStep}, plan.steps[index]? = some step →
    ∀ successor ∈ step.successors, successor < plan.steps.length
  linked : ∀ {source target : Nat} {first second : PlanStep}, plan.steps[source]? = some first →
    plan.steps[target]? = some second →
      (target ∈ first.successors ↔ source ∈ second.predecessors.map Predecessor.index)
  room : 1 ≤ plan.maxConcurrency

/-- An edge of a plan leads from a step to one that reads its output. -/
def Plan.Edge (plan : Plan) (source target : Nat) : Prop :=
  ∃ step, plan.steps[source]? = some step ∧ target ∈ step.successors

namespace Plan.WellFormed

variable {plan : Plan}

theorem edge_inside (wellFormed : plan.WellFormed) {source target : Nat}
    (edge : plan.Edge source target) : target < plan.steps.length := by
  obtain ⟨step, found, member⟩ := edge
  exact wellFormed.successorsInside found target member

/-- The number of steps that may run at once is free as long as there is one. -/
theorem resize (wellFormed : plan.WellFormed) {count : Nat} (positive : 1 ≤ count) :
    ({ plan with maxConcurrency := count } : Plan).WellFormed :=
  { wellFormed with room := positive }

/-- The edges that enter a step are its dependencies. -/
theorem edge_iff (wellFormed : plan.WellFormed) {source target : Nat} {step : PlanStep}
    (found : plan.steps[target]? = some step) :
    plan.Edge source target ↔ source ∈ step.predecessors.map Predecessor.index := by
  constructor
  · rintro ⟨first, foundFirst, member⟩
    exact (wellFormed.linked foundFirst found).mp member
  · intro member
    obtain ⟨predecessor, inside, same⟩ := List.mem_map.mp member
    have earlier := wellFormed.backward found predecessor inside
    have bound := (List.getElem?_eq_some_iff.mp found).1
    have present : source < plan.steps.length := by omega
    have foundFirst := List.getElem?_eq_getElem present
    exact ⟨_, foundFirst, (wellFormed.linked foundFirst found).mpr member⟩

end Plan.WellFormed

namespace Definition

theorem eraseDupsBy_subset {A : Type} (alike : A → A → Bool) :
    (items : List A) → items.eraseDupsBy alike ⊆ items
  | [] => by simp
  | first :: rest => by
    rw [List.eraseDupsBy_cons]
    apply List.cons_subset_cons
    exact List.Subset.trans
      (eraseDupsBy_subset alike (rest.filter fun item => alike item first = false))
      (List.filter_subset_self rest)
termination_by items => items.length
decreasing_by
  simp only [List.length_cons]
  exact Nat.lt_succ_of_le (List.length_filter_le _ _)

theorem eraseDupsBy_pairwise {A : Type} (alike : A → A → Bool) :
    (items : List A) →
      (items.eraseDupsBy alike).Pairwise fun earlier later => alike later earlier = false
  | [] => by simp
  | first :: rest => by
    rw [List.eraseDupsBy_cons, List.pairwise_cons]
    refine ⟨?_, eraseDupsBy_pairwise alike (rest.filter fun item => alike item first = false)⟩
    intro item member
    have kept := eraseDupsBy_subset alike _ member
    simpa using (List.mem_filter.mp kept).2
termination_by items => items.length
decreasing_by
  simp only [List.length_cons]
  exact Nat.lt_succ_of_le (List.length_filter_le _ _)

theorem firstRepeated_none {seen names : List String} (absent : firstRepeated? seen names = none) :
    names.Nodup ∧ ∀ name ∈ names, name ∉ seen := by
  induction names generalizing seen with
  | nil => simp
  | cons first rest inductionHypothesis =>
    simp only [firstRepeated?] at absent
    split at absent
    · cases absent
    · next fresh =>
      obtain ⟨distinct, apart⟩ := inductionHypothesis absent
      refine ⟨List.nodup_cons.mpr ⟨?_, distinct⟩, ?_⟩
      · intro member
        exact apart first member List.mem_cons_self
      · intro name member
        rcases List.mem_cons.mp member with rfl | inRest
        · simpa using fresh
        · exact fun held => apart name inRest (List.mem_cons_of_mem _ held)

theorem unknownReference_none {ids : List String} {edges : List Edge}
    (absent : unknownReference? ids edges = none) :
    ∀ edge ∈ edges, edge.source ∈ ids ∧ edge.target ∈ ids := by
  induction edges with
  | nil => simp
  | cons first rest inductionHypothesis =>
    simp only [unknownReference?] at absent
    split at absent
    · cases absent
    · next source =>
      split at absent
      · cases absent
      · next target =>
        intro edge member
        rcases List.mem_cons.mp member with rfl | inRest
        · exact ⟨by simpa using source, by simpa using target⟩
        · exact inductionHypothesis absent edge inRest

/-- An edge that is kept belongs to the definition. -/
theorem mem_firstEdges {definition : Definition} {edge : Edge}
    (kept : edge ∈ definition.firstEdges) : edge ∈ definition.edges :=
  eraseDupsBy_subset _ definition.edges kept

theorem firstEdges_distinct (definition : Definition) :
    definition.firstEdges.Pairwise fun earlier later =>
      ¬(later.source = earlier.source ∧ later.target = earlier.target) := by
  apply (eraseDupsBy_pairwise _ definition.edges).imp
  intro earlier later different
  simpa using different

/-- The order of a definition holds its nodes once, and its edges lead forward. -/
structure Ordered (definition : Definition) (order : List String) : Prop where
  perm : order.Perm definition.nodeIds
  distinct : order.Nodup
  endsKnown : ∀ edge ∈ definition.edges, edge.source ∈ order ∧ edge.target ∈ order
  forward : ∀ edge ∈ definition.edges, order.idxOf edge.source < order.idxOf edge.target

/-- The edges of the graph are the pairs of nodes that the edges of the definition join. -/
theorem mem_graph_edges (definition : Definition) (pair : String × String) :
    pair ∈ definition.graph.edges ↔
      ∃ edge ∈ definition.edges, (edge.source, edge.target) = pair := by
  simp [graph, Graph.ofEdges, List.mem_eraseDups]

/-- Distinct nodes and known ends of edges make a proper graph. -/
theorem graph_proper {definition : Definition} (distinct : definition.nodeIds.Nodup)
    (endsKnown : ∀ edge ∈ definition.edges,
      edge.source ∈ definition.nodeIds ∧ edge.target ∈ definition.nodeIds) :
    definition.graph.Proper := by
  refine ⟨distinct, ?_, ?_⟩
  · apply (eraseDupsBy_pairwise (· == ·) _).imp
    intro earlier later different same
    simp [same] at different
  · intro pair member
    obtain ⟨edge, inEdges, rfl⟩ := (mem_graph_edges definition pair).mp member
    exact endsKnown edge inEdges

theorem order_ordered {definition : Definition} {order : List String}
    (found : definition.order = .ok order) : definition.Ordered order := by
  simp only [Definition.order] at found
  split at found
  · cases found
  · next unrepeated =>
    split at found
    · cases found
    · next known =>
      have nodesDistinct := (firstRepeated_none unrepeated).1
      have ends := unknownReference_none known
      have proper := graph_proper nodesDistinct ends
      split at found
      · next placed orderFound =>
        cases found
        obtain ⟨perm, forward⟩ := Graph.order_sound proper orderFound
        refine ⟨perm, perm.nodup_iff.mpr nodesDistinct, ?_, ?_⟩
        · intro edge member
          exact ⟨perm.mem_iff.mpr (ends edge member).1, perm.mem_iff.mpr (ends edge member).2⟩
        · intro edge member
          exact forward _ ((mem_graph_edges definition _).mpr ⟨edge, member, rfl⟩)
      · cases found

end Definition

namespace Compiler

theorem orderedNodes_names {definition : Definition} {order : List String}
    (known : ∀ name ∈ order, name ∈ definition.nodeIds) :
    (orderedNodes definition order).map NodeSpec.id = order := by
  induction order with
  | nil => rfl
  | cons first rest inductionHypothesis =>
    obtain ⟨node, member, named⟩ := List.mem_map.mp (known first List.mem_cons_self)
    have found : (definition.nodes.find? fun node => node.id == first).isSome := by
      rw [List.find?_isSome]
      exact ⟨node, member, by simpa using named⟩
    obtain ⟨chosen, equal⟩ := Option.isSome_iff_exists.mp found
    have name : chosen.id = first := by simpa using List.find?_some equal
    simp only [orderedNodes, List.filterMap_cons, equal, List.map_cons, name]
    congr 1
    exact inductionHypothesis fun name inRest => known name (List.mem_cons_of_mem _ inRest)

variable {compiler : Compiler} {definition : Definition} {order : List String}

/-- The step at a place of the plan is built from the node at that place of the order. -/
theorem plan_step (ordered : definition.Ordered order) {index : Nat} {step : PlanStep}
    (found : (compiler.plan definition order).steps[index]? = some step) :
    ∃ node ∈ definition.nodes, order[index]? = some node.id ∧
      step = compiler.step definition order index node := by
  simp only [plan, List.getElem?_mapIdx, Option.map_eq_some_iff] at found
  obtain ⟨node, placed, rfl⟩ := found
  have member : node ∈ definition.nodes := by
    have inside := List.mem_of_getElem? placed
    simp only [orderedNodes, List.mem_filterMap] at inside
    obtain ⟨name, _, chosen⟩ := inside
    exact List.mem_of_find?_eq_some chosen
  refine ⟨node, member, ?_, rfl⟩
  have names := orderedNodes_names fun name inOrder => ordered.perm.mem_iff.mp inOrder
  rw [← names, List.getElem?_map, placed]
  rfl

/-- The steps of the plan carry the names of the order. -/
theorem plan_names (ordered : definition.Ordered order) :
    (compiler.plan definition order).steps.map PlanStep.nodeId = order := by
  have names := orderedNodes_names fun name inOrder => ordered.perm.mem_iff.mp inOrder
  refine Eq.trans (List.ext_getElem? fun index => ?_) names
  simp [plan, step, Option.map_map, Function.comp_def]

theorem plan_length (ordered : definition.Ordered order) :
    (compiler.plan definition order).steps.length = order.length := by
  simpa using congrArg List.length (plan_names ordered)

/-- The place of a name in the order is the one that the order gives back. -/
theorem idxOf_eq_iff (ordered : definition.Ordered order) {name other : String} {index : Nat}
    (placed : order[index]? = some name) : order.idxOf other = index ↔ other = name := by
  obtain ⟨inside, rfl⟩ := List.getElem?_eq_some_iff.mp placed
  constructor
  · intro equal
    subst equal
    exact (List.getElem_idxOf _).symm
  · intro equal
    rw [equal]
    exact ordered.distinct.idxOf_getElem _ inside

theorem mem_predecessors {name : String} {predecessor : Predecessor} :
    predecessor ∈ predecessors definition order name ↔
      ∃ edge ∈ definition.firstEdges, edge.target = name ∧
        predecessor = ⟨edge.source, order.idxOf edge.source, edge.outputSlot⟩ := by
  simp only [predecessors, List.mem_mergeSort, List.mem_map, List.mem_filter, beq_iff_eq]
  constructor
  · rintro ⟨edge, ⟨member, target⟩, rfl⟩
    exact ⟨edge, member, target, rfl⟩
  · rintro ⟨edge, member, target, rfl⟩
    exact ⟨edge, ⟨member, target⟩, rfl⟩

theorem mem_successors {name : String} {place : Nat} :
    place ∈ successors definition order name ↔
      ∃ edge ∈ definition.firstEdges, edge.source = name ∧ order.idxOf edge.target = place := by
  simp only [successors, List.mem_mergeSort, List.mem_map, List.mem_filter, beq_iff_eq]
  constructor
  · rintro ⟨edge, ⟨member, source⟩, rfl⟩
    exact ⟨edge, member, source, rfl⟩
  · rintro ⟨edge, member, source, rfl⟩
    exact ⟨edge, ⟨member, source⟩, rfl⟩

theorem predecessors_nodup (ordered : definition.Ordered order) (name : String) :
    ((predecessors definition order name).map Predecessor.index).Nodup := by
  have perm := (List.mergeSort_perm ((definition.firstEdges.filter fun edge =>
    edge.target == name).map fun edge =>
      (⟨edge.source, order.idxOf edge.source, edge.outputSlot⟩ : Predecessor))
    fun left right => left.index ≤ right.index).map Predecessor.index
  simp only [predecessors]
  rw [perm.nodup_iff, List.map_map]
  have chosen := (Definition.firstEdges_distinct definition).filter fun edge => edge.target == name
  rw [List.Nodup, List.pairwise_map]
  apply chosen.imp_of_mem
  intro earlier later inEarlier inLater different same
  simp only [List.mem_filter, beq_iff_eq] at inEarlier inLater
  have known := (ordered.endsKnown earlier (Definition.mem_firstEdges inEarlier.1)).1
  have source := (List.idxOf_inj known).mp same
  exact different ⟨source.symm, inLater.2.trans inEarlier.2.symm⟩

theorem successors_nodup (ordered : definition.Ordered order) (name : String) :
    (successors definition order name).Nodup := by
  have perm := List.mergeSort_perm ((definition.firstEdges.filter fun edge =>
    edge.source == name).map fun edge => order.idxOf edge.target) fun left right => left ≤ right
  simp only [successors]
  rw [perm.nodup_iff]
  have chosen := (Definition.firstEdges_distinct definition).filter fun edge => edge.source == name
  rw [List.Nodup, List.pairwise_map]
  apply chosen.imp_of_mem
  intro earlier later inEarlier inLater different same
  simp only [List.mem_filter, beq_iff_eq] at inEarlier inLater
  have known := (ordered.endsKnown earlier (Definition.mem_firstEdges inEarlier.1)).2
  have target := (List.idxOf_inj known).mp same
  exact different ⟨inLater.2.trans inEarlier.2.symm, target.symm⟩

/-- The plan of an order is well formed. -/
theorem plan_wellFormed (ordered : definition.Ordered order) :
    (compiler.plan definition order).WellFormed := by
  constructor
  · intro index step found
    obtain ⟨node, _, _, rfl⟩ := plan_step ordered found
    rfl
  · rw [plan_names ordered]
    exact ordered.distinct
  · intro index step found predecessor member
    obtain ⟨node, _, named, rfl⟩ := plan_step ordered found
    obtain ⟨edge, kept, target, rfl⟩ := mem_predecessors.mp member
    have inEdges := Definition.mem_firstEdges kept
    have place := (idxOf_eq_iff ordered named).mpr target
    rw [← place]
    exact ordered.forward edge inEdges
  · intro index step found
    obtain ⟨node, _, _, rfl⟩ := plan_step ordered found
    exact predecessors_nodup ordered node.id
  · intro index step found
    obtain ⟨node, _, _, rfl⟩ := plan_step ordered found
    exact successors_nodup ordered node.id
  · intro index step found successor member
    obtain ⟨node, _, _, rfl⟩ := plan_step ordered found
    obtain ⟨edge, kept, _, rfl⟩ := mem_successors.mp member
    rw [plan_length ordered]
    exact List.idxOf_lt_length_iff.mpr (ordered.endsKnown edge (Definition.mem_firstEdges kept)).2
  · intro source target first second foundFirst foundSecond
    obtain ⟨node, _, named, rfl⟩ := plan_step ordered foundFirst
    obtain ⟨node', _, named', rfl⟩ := plan_step ordered foundSecond
    simp only [step, mem_successors, List.mem_map, mem_predecessors]
    constructor
    · rintro ⟨edge, kept, starts, place⟩
      exact ⟨_, ⟨edge, kept, (idxOf_eq_iff ordered named').mp place, rfl⟩,
        (idxOf_eq_iff ordered named).mpr starts⟩
    · rintro ⟨_, ⟨edge, kept, reaches, rfl⟩, place⟩
      exact ⟨edge, kept, (idxOf_eq_iff ordered named).mp place,
        (idxOf_eq_iff ordered named').mpr reaches⟩
  · simp only [plan, maxConcurrency]
    split <;> exact Nat.le_max_right _ _

/-- Every compiled plan is well formed. -/
theorem compile_wellFormed {plan : Plan} (compiled : compiler.compile definition = .ok plan) :
    plan.WellFormed := by
  simp only [compile] at compiled
  split at compiled
  · cases compiled
  · next order found =>
    split at compiled
    · cases compiled
    · cases compiled
      exact plan_wellFormed (Definition.order_ordered found)

end Compiler

end WorkflowEngine
