/-
This file proves that a compiled plan depicts the edges of its definition. Nodes that edges join are
steps of which each lists the other one, in ascending order and with the slot of the first edge.
-/

import WorkflowEngine.Proofs.Sorting
import WorkflowEngine.Proofs.Workflow.Acceptance

namespace WorkflowEngine

namespace Definition

def firstEdge? (definition : Definition) (source target : String) : Option Edge :=
  definition.edges.find? fun edge => edge.source == source && edge.target == target

variable {definition : Definition}

/-- There is a first edge between two nodes exactly if an edge joins them. -/
theorem joins_iff_firstEdge {source target : String} :
    definition.Joins source target ↔ ∃ edge, definition.firstEdge? source target = some edge := by
  rw [← Option.isSome_iff_exists, firstEdge?, List.find?_isSome]
  simp [Joins]

/-- Of the items with one key the first one is kept. -/
theorem mem_eraseDupsBy {A K : Type} [BEq K] [LawfulBEq K] (key : A → K) (item : A) :
    (items : List A) → (item ∈ items.eraseDupsBy (fun left right => key left == key right) ↔
      items.find? (fun other => key other == key item) = some item)
  | [] => by simp
  | first :: rest => by
    rw [List.eraseDupsBy_cons, List.mem_cons,
      mem_eraseDupsBy key item (rest.filter fun other => (key other == key first) = false),
      List.find?_filter, List.find?_cons]
    cases alike : key first == key item with
    | true =>
      have same : key first = key item := eq_of_beq alike
      have none : rest.find? (fun other => decide
          (decide ((key other == key first) = false) = true ∧
            (key other == key item) = true)) = none := by
        simp [List.find?_eq_none, same]
      rw [none]
      simp [eq_comm]
    | false =>
      have different : key first ≠ key item := by simpa using alike
      have others : (fun other => decide (decide ((key other == key first) = false) = true ∧
          (key other == key item) = true)) = fun other => key other == key item := by
        funext other
        by_cases same : key other = key item
        · simp [same, Ne.symm different]
        · simp [same]
      rw [others]
      constructor
      · rintro (rfl | found)
        · exact absurd rfl different
        · exact found
      · exact .inr
termination_by items => items.length
decreasing_by
  simp only [List.length_cons]
  exact Nat.lt_succ_of_le (List.length_filter_le _ _)

/-- An edge is kept exactly if it is the first one between its ends. -/
theorem mem_firstEdges_iff {edge : Edge} : edge ∈ definition.firstEdges ↔
    definition.firstEdge? edge.source edge.target = some edge :=
  mem_eraseDupsBy (fun edge : Edge => (edge.source, edge.target)) edge definition.edges

theorem firstEdge_ends {source target : String} {edge : Edge}
    (first : definition.firstEdge? source target = some edge) :
    edge.source = source ∧ edge.target = target := by
  simpa using List.find?_some first

/-- Two nodes are joined exactly if an edge between them is kept. -/
theorem joins_iff_kept {source target : String} : definition.Joins source target ↔
    ∃ edge ∈ definition.firstEdges, edge.source = source ∧ edge.target = target := by
  rw [joins_iff_firstEdge]
  constructor
  · rintro ⟨edge, first⟩
    obtain ⟨rfl, rfl⟩ := firstEdge_ends first
    exact ⟨edge, mem_firstEdges_iff.mpr first, rfl, rfl⟩
  · rintro ⟨edge, kept, rfl, rfl⟩
    exact ⟨edge, mem_firstEdges_iff.mp kept⟩

end Definition

/-- A plan depicts a definition if its edges are exactly those of the definition. -/
structure Plan.Depicts (plan : Plan) (definition : Definition) : Prop where
  placed : ∀ (index : Nat) (step : PlanStep), plan.steps[index]? = some step → step.index = index
  distinct : plan.stepOrder.Nodup
  inside : ∀ (index : Nat) (step : PlanStep), plan.steps[index]? = some step →
    (∀ successor ∈ step.successors, successor < plan.steps.length) ∧
      ∀ predecessor ∈ step.predecessors, predecessor.index < plan.steps.length
  linked : ∀ (source target : Nat) (first second : PlanStep), plan.steps[source]? = some first →
    plan.steps[target]? = some second →
      (target ∈ first.successors ↔ source ∈ second.predecessors.map Predecessor.index) ∧
      (source ∈ second.predecessors.map Predecessor.index ↔
        definition.Joins first.nodeId second.nodeId)
  carried : ∀ (source target : Nat) (first second : PlanStep), plan.steps[source]? = some first →
    plan.steps[target]? = some second → ∀ predecessor ∈ second.predecessors,
      predecessor.index = source → source < target ∧ predecessor.nodeId = first.nodeId ∧
        (definition.firstEdge? first.nodeId second.nodeId).map Edge.outputSlot =
          some predecessor.outputSlot
  ascending : ∀ (index : Nat) (step : PlanStep), plan.steps[index]? = some step →
    (step.predecessors.map Predecessor.index).Pairwise (· < ·) ∧ step.successors.Pairwise (· < ·)
  entries : plan.entryNodes =
    (plan.steps.filter fun step => step.predecessors.isEmpty).map PlanStep.nodeId
  entered : plan.steps ≠ [] → plan.entryNodes ≠ []
  room : 1 ≤ plan.maxConcurrency

namespace Compiler

variable {compiler : Compiler} {definition : Definition} {order : List String}

/-- A plan that is compiled is the one of the order that is found. -/
theorem compile_inversion {plan : Plan} (compiled : compiler.compile definition = .ok plan) :
    ∃ order, definition.order = .ok order ∧ compiler.unknownType? definition = none ∧
      plan = compiler.plan definition order := by
  simp only [compile] at compiled
  split at compiled
  · cases compiled
  · next order found =>
    split at compiled
    · cases compiled
    · next typed => exact ⟨order, found, typed, (Except.ok.inj compiled).symm⟩

/-- The dependencies of a node are listed by their places. -/
theorem predecessors_ascending (ordered : definition.Ordered order) (name : String) :
    ((predecessors definition order name).map Predecessor.index).Pairwise (· < ·) := by
  rw [List.pairwise_map]
  apply mergeSort_ascending
  exact ((List.mergeSort_perm _ _).map Predecessor.index).nodup_iff.mp
    (predecessors_nodup ordered name)

/-- The steps that read a node are listed by their places. -/
theorem successors_ascending (ordered : definition.Ordered order) (name : String) :
    (successors definition order name).Pairwise (· < ·) := by
  apply mergeSort_ascending id
  rw [List.map_id]
  exact (List.mergeSort_perm _ _).nodup_iff.mp (successors_nodup ordered name)

/-- A plan that is not empty begins with a step without dependencies. -/
theorem first_entered (ordered : definition.Ordered order) {step : PlanStep}
    (first : (compiler.plan definition order).steps[0]? = some step) : step.predecessors = [] := by
  rw [List.eq_nil_iff_forall_not_mem]
  intro predecessor member
  exact Nat.not_lt_zero _ ((plan_wellFormed ordered).backward first predecessor member)

/-- The plan of an order depicts its definition. -/
theorem plan_depicts (ordered : definition.Ordered order) :
    (compiler.plan definition order).Depicts definition := by
  have wellFormed : (compiler.plan definition order).WellFormed := plan_wellFormed ordered
  refine
    { placed := fun index step found => wellFormed.placed found
      distinct := wellFormed.namesDistinct
      inside := fun index step found => ⟨wellFormed.successorsInside found, ?_⟩
      linked := fun source target first second foundFirst foundSecond =>
        ⟨wellFormed.linked foundFirst foundSecond, ?_⟩
      carried := ?_
      ascending := ?_
      entries := rfl
      entered := ?_
      room := wellFormed.room }
  · intro predecessor member
    have earlier := wellFormed.backward found predecessor member
    exact Nat.lt_trans earlier (List.getElem?_eq_some_iff.mp found).1
  · obtain ⟨node, _, named, rfl⟩ := plan_step ordered foundFirst
    obtain ⟨reader, _, _, rfl⟩ := plan_step ordered foundSecond
    simp only [step, List.mem_map, mem_predecessors, Definition.joins_iff_kept]
    constructor
    · rintro ⟨_, ⟨edge, kept, target, rfl⟩, place⟩
      exact ⟨edge, kept, (idxOf_eq_iff ordered named).mp place, target⟩
    · rintro ⟨edge, kept, source, target⟩
      exact ⟨_, ⟨edge, kept, target, rfl⟩, (idxOf_eq_iff ordered named).mpr source⟩
  · intro source target first second foundFirst foundSecond predecessor member place
    have forward := wellFormed.backward foundSecond predecessor member
    obtain ⟨node, _, named, rfl⟩ := plan_step ordered foundFirst
    obtain ⟨reader, _, _, rfl⟩ := plan_step ordered foundSecond
    obtain ⟨edge, kept, reaches, rfl⟩ := mem_predecessors.mp member
    have starts : edge.source = node.id := (idxOf_eq_iff ordered named).mp place
    have first := Definition.mem_firstEdges_iff.mp kept
    rw [starts, reaches] at first
    refine ⟨place ▸ forward, starts, ?_⟩
    simp only [step, first, Option.map_some]
  · intro index step found
    obtain ⟨node, _, _, rfl⟩ := plan_step ordered found
    exact ⟨predecessors_ascending ordered node.id, successors_ascending ordered node.id⟩
  · intro nonempty
    obtain ⟨step, rest, listed⟩ := List.exists_cons_of_ne_nil nonempty
    have first : (compiler.plan definition order).steps[0]? = some step := by
      rw [listed, List.getElem?_cons_zero]
    have alone := first_entered ordered first
    change ((compiler.plan definition order).steps.filter
      fun step => step.predecessors.isEmpty).map PlanStep.nodeId ≠ []
    simp [listed, alone]

/-- Every compiled plan depicts its definition. -/
theorem compile_depicts {plan : Plan} (compiled : compiler.compile definition = .ok plan) :
    plan.Depicts definition := by
  obtain ⟨order, found, _, rfl⟩ := compile_inversion compiled
  exact plan_depicts (Definition.order_ordered found)

/-- Two edges join the same nodes, and the nodes are listed backward. -/
def woven : Definition where
  id := .nil
  name := "woven"
  nodes := [{ id := "c", nodeType := "passthrough" }, { id := "b", nodeType := "passthrough" },
    { id := "a", nodeType := "passthrough" }]
  edges := [⟨"b", "c", none⟩, ⟨"a", "c", some "left"⟩, ⟨"a", "b", none⟩, ⟨"a", "c", some "right"⟩]
  createdAt := ⟨0, 0⟩

/-- The last step reads the left slot of the first one, and then the step between. -/
theorem woven_depicted : ∃ plan, compile ⟨["passthrough"], {}⟩ woven = .ok plan ∧
    plan.Depicts woven ∧ plan.steps.map PlanStep.predecessors =
      [[], [⟨"a", 0, none⟩], [⟨"a", 0, some "left"⟩, ⟨"b", 1, none⟩]] := by
  have compiled : compile ⟨["passthrough"], {}⟩ woven =
      .ok (plan ⟨["passthrough"], {}⟩ woven ["a", "b", "c"]) := by
    have ordered : woven.order = .ok ["a", "b", "c"] := by decide +kernel
    have typed : unknownType? ⟨["passthrough"], {}⟩ woven = none := by decide +kernel
    simp only [compile, ordered, typed]
  have kept : woven.firstEdges =
      [⟨"b", "c", none⟩, ⟨"a", "c", some "left"⟩, ⟨"a", "b", none⟩] := by decide +kernel
  have named : (orderedNodes woven ["a", "b", "c"]).map NodeSpec.id = ["a", "b", "c"] := by
    decide +kernel
  have listed : (plan ⟨["passthrough"], {}⟩ woven ["a", "b", "c"]).steps.map
      PlanStep.predecessors = ((orderedNodes woven ["a", "b", "c"]).map NodeSpec.id).map
        (predecessors woven ["a", "b", "c"]) := rfl
  refine ⟨_, compiled, compile_depicts compiled, ?_⟩
  rw [listed, named]
  simp [predecessors, kept, List.mergeSort, List.MergeSort.Internal.splitInTwo, List.idxOf,
    List.findIdx, List.findIdx.go]

end Compiler

end WorkflowEngine
