/-
This file proves which definitions compile, and that a definition that does not compile is refused
for the first rule it breaks and for the first item that breaks it.
-/

import WorkflowEngine.Proofs.Workflow.Acyclicity
import WorkflowEngine.Proofs.Workflow.CheckedCompiler

namespace WorkflowEngine

namespace Definition

/-- An edge joins its source to its target, and parallel edges join them once. -/
def Joins (definition : Definition) (source target : String) : Prop :=
  ∃ edge ∈ definition.edges, edge.source = source ∧ edge.target = target

/-- No path of edges leads back to its start. -/
def Acyclic (definition : Definition) : Prop :=
  ∀ node, ¬Relation.TransGen definition.Joins node node

/-- An edge is known if both its ends are nodes. -/
def Knows (definition : Definition) (edge : Edge) : Prop :=
  edge.source ∈ definition.nodeIds ∧ edge.target ∈ definition.nodeIds

theorem graph_joins (definition : Definition) : definition.graph.Joins = definition.Joins := by
  funext source target
  simp [Graph.Joins, mem_graph_edges, Joins]

theorem graph_acyclic_iff (definition : Definition) :
    definition.graph.Acyclic ↔ definition.Acyclic := by
  simp [Graph.Acyclic, Acyclic, graph_joins]

theorem firstRepeated_some {seen names : List String} {name : String}
    (found : firstRepeated? seen names = some name) :
    ∃ earlier later, names = earlier ++ name :: later ∧ earlier.Nodup ∧
      (∀ other ∈ earlier, other ∉ seen) ∧ (name ∈ earlier ∨ name ∈ seen) := by
  induction names generalizing seen with
  | nil => cases found
  | cons first rest inductionHypothesis =>
    simp only [firstRepeated?] at found
    split at found
    · next held =>
      cases found
      exact ⟨[], rest, rfl, List.nodup_nil, by simp, .inr (by simpa using held)⟩
    · next fresh =>
      obtain ⟨earlier, later, rfl, distinct, apart, repeated⟩ := inductionHypothesis found
      have unseen : first ∉ seen := by simpa using fresh
      refine ⟨first :: earlier, later, rfl, List.nodup_cons.mpr ⟨?_, distinct⟩, ?_, ?_⟩
      · exact fun member => apart first member List.mem_cons_self
      · intro other member
        rcases List.mem_cons.mp member with rfl | inRest
        · exact unseen
        · exact fun held => apart other inRest (List.mem_cons_of_mem _ held)
      · simp only [List.mem_cons] at repeated ⊢
        tauto

theorem unknownReference_some {ids : List String} {edges : List Edge} {error : CompileError}
    (found : unknownReference? ids edges = some error) :
    ∃ earlier edge later, edges = earlier ++ edge :: later ∧
      (∀ other ∈ earlier, other.source ∈ ids ∧ other.target ∈ ids) ∧
      (edge.source ∉ ids ∧ error = .unknownNodeReference edge.source .source ∨
        edge.source ∈ ids ∧ edge.target ∉ ids ∧
          error = .unknownNodeReference edge.target .target) := by
  induction edges with
  | nil => cases found
  | cons first rest inductionHypothesis =>
    simp only [unknownReference?] at found
    split at found
    · next source =>
      cases found
      exact ⟨[], first, rest, rfl, by simp, .inl ⟨by simpa using source, rfl⟩⟩
    · next source =>
      have sourceKnown : first.source ∈ ids := by simpa using source
      split at found
      · next target =>
        cases found
        exact ⟨[], first, rest, rfl, by simp, .inr ⟨sourceKnown, by simpa using target, rfl⟩⟩
      · next target =>
        have targetKnown : first.target ∈ ids := by simpa using target
        obtain ⟨earlier, edge, later, rfl, known, unknown⟩ := inductionHypothesis found
        refine ⟨first :: earlier, edge, later, rfl, ?_, unknown⟩
        intro other member
        rcases List.mem_cons.mp member with rfl | inRest
        · exact ⟨sourceKnown, targetKnown⟩
        · exact known other inRest

end Definition

namespace Compiler

/-- A definition is accepted if it follows every rule. -/
structure Accepts (compiler : Compiler) (definition : Definition) : Prop where
  distinct : definition.nodeIds.Nodup
  known : ∀ edge ∈ definition.edges, definition.Knows edge
  acyclic : definition.Acyclic
  typed : ∀ node ∈ definition.nodes, node.nodeType ∈ compiler.nodeTypes

/-- The error names the first of the listed items that breaks the rule. -/
inductive Refuses (compiler : Compiler) (definition : Definition) : CompileError → Prop
  | duplicate (id : String) (earlier later : List String)
      (listed : definition.nodeIds = earlier ++ id :: later)
      (distinct : earlier.Nodup) (repeated : id ∈ earlier) :
      Refuses compiler definition (.duplicateNode id)
  | source (edge : Edge) (earlier later : List Edge) (distinct : definition.nodeIds.Nodup)
      (listed : definition.edges = earlier ++ edge :: later)
      (known : ∀ other ∈ earlier, definition.Knows other)
      (missing : edge.source ∉ definition.nodeIds) :
      Refuses compiler definition (.unknownNodeReference edge.source .source)
  | target (edge : Edge) (earlier later : List Edge) (distinct : definition.nodeIds.Nodup)
      (listed : definition.edges = earlier ++ edge :: later)
      (known : ∀ other ∈ earlier, definition.Knows other)
      (sourceKnown : edge.source ∈ definition.nodeIds)
      (missing : edge.target ∉ definition.nodeIds) :
      Refuses compiler definition (.unknownNodeReference edge.target .target)
  | cycle (cycle : List String) (distinct : definition.nodeIds.Nodup)
      (known : ∀ edge ∈ definition.edges, definition.Knows edge)
      (cyclic : ¬definition.Acyclic) :
      Refuses compiler definition (.cycleDetected cycle)
  | nodeType (node : NodeSpec) (earlier later : List NodeSpec)
      (distinct : definition.nodeIds.Nodup)
      (known : ∀ edge ∈ definition.edges, definition.Knows edge)
      (acyclic : definition.Acyclic)
      (listed : definition.nodes = earlier ++ node :: later)
      (typed : ∀ other ∈ earlier, other.nodeType ∈ compiler.nodeTypes)
      (missing : node.nodeType ∉ compiler.nodeTypes) :
      Refuses compiler definition (.unknownNodeType node.id node.nodeType)

variable {compiler : Compiler} {definition : Definition}

/-- No definition is both refused and accepted. -/
theorem Refuses.not_accepts {error : CompileError} (refused : compiler.Refuses definition error) :
    ¬compiler.Accepts definition := by
  intro accepted
  cases refused with
  | duplicate id earlier later listed _ repeated =>
    have distinct := accepted.distinct
    rw [listed] at distinct
    exact (List.nodup_append.mp distinct).2.2 id repeated id List.mem_cons_self rfl
  | source edge _ _ _ listed _ missing =>
    exact missing (accepted.known edge (by simp [listed])).1
  | target edge _ _ _ listed _ _ missing =>
    exact missing (accepted.known edge (by simp [listed])).2
  | cycle _ _ _ cyclic => exact cyclic accepted.acyclic
  | nodeType node _ _ _ _ _ listed _ missing =>
    exact missing (accepted.typed node (by simp [listed]))

/-- An order that fails breaks a rule about nodes and edges. -/
theorem order_refuses {error : CompileError} (failed : definition.order = .error error) :
    compiler.Refuses definition error := by
  unfold Definition.order at failed
  cases repeated : Definition.firstRepeated? [] definition.nodeIds with
  | some id =>
    simp only [repeated] at failed
    cases failed
    obtain ⟨earlier, later, listed, distinct, _, occurs⟩ := Definition.firstRepeated_some repeated
    exact .duplicate id earlier later listed distinct (occurs.resolve_right (by simp))
  | none =>
    have distinct := (Definition.firstRepeated_none repeated).1
    cases unknown : Definition.unknownReference? definition.nodeIds definition.edges with
    | some reference =>
      simp only [repeated, unknown] at failed
      cases failed
      obtain ⟨earlier, edge, later, listed, known, ⟨missing, rfl⟩ | ⟨source, missing, rfl⟩⟩ :=
        Definition.unknownReference_some unknown
      · exact .source edge earlier later distinct listed known missing
      · exact .target edge earlier later distinct listed known source missing
    | none =>
      have known := Definition.unknownReference_none unknown
      cases ordered : definition.graph.order with
      | ok order => simp [repeated, unknown, ordered] at failed
      | error cycle =>
        simp only [repeated, unknown, ordered] at failed
        cases failed
        refine .cycle cycle distinct known fun acyclic => ?_
        obtain ⟨order, found⟩ := (Graph.order_isOk_iff (Definition.graph_proper distinct known)).mpr
          (definition.graph_acyclic_iff.mpr acyclic)
        simp [found] at ordered

/-- An order that is found shows the rules about nodes and edges. -/
theorem order_follows {order : List String} (found : definition.order = .ok order) :
    definition.nodeIds.Nodup ∧ (∀ edge ∈ definition.edges, definition.Knows edge) ∧
      definition.Acyclic := by
  have ordered := Definition.order_ordered found
  refine ⟨ordered.perm.nodup_iff.mp ordered.distinct, ?_, ?_⟩
  · intro edge member
    have ends := ordered.endsKnown edge member
    exact ⟨ordered.perm.mem_iff.mp ends.1, ordered.perm.mem_iff.mp ends.2⟩
  · rw [← Definition.graph_acyclic_iff]
    have forward (pair : String × String) (member : pair ∈ definition.graph.edges) :
        order.idxOf pair.1 < order.idxOf pair.2 := by
      obtain ⟨edge, inEdges, rfl⟩ := (Definition.mem_graph_edges definition pair).mp member
      exact ordered.forward edge inEdges
    exact fun node cycle => Nat.lt_irrefl _ (Graph.idxOf_lt_of_path forward cycle)

/-- A definition that does not compile is refused. -/
theorem compile_refuses {error : CompileError}
    (failed : compiler.compile definition = .error error) : compiler.Refuses definition error := by
  unfold compile at failed
  cases found : definition.order with
  | error reason =>
    simp only [found] at failed
    cases failed
    exact order_refuses found
  | ok order =>
    obtain ⟨distinct, known, acyclic⟩ := order_follows found
    cases missing : compiler.unknownType? definition with
    | none => simp [found, missing] at failed
    | some reason =>
      simp only [found, missing] at failed
      cases failed
      obtain ⟨node, first, rfl⟩ := Option.map_eq_some_iff.mp missing
      obtain ⟨untyped, earlier, later, listed, typed⟩ := List.find?_eq_some_iff_append.mp first
      exact .nodeType node earlier later distinct known acyclic listed (by simpa using typed)
        (by simpa using untyped)

/-- A definition that compiles follows every rule. -/
theorem compile_accepts {plan : Plan} (compiled : compiler.compile definition = .ok plan) :
    compiler.Accepts definition ∧ definition.Ordered plan.stepOrder := by
  unfold compile at compiled
  cases found : definition.order with
  | error reason => simp [found] at compiled
  | ok order =>
    obtain ⟨distinct, known, acyclic⟩ := order_follows found
    have ordered := Definition.order_ordered found
    cases missing : compiler.unknownType? definition with
    | some reason => simp [found, missing] at compiled
    | none =>
      simp only [found, missing] at compiled
      cases compiled
      refine ⟨⟨distinct, known, acyclic, ?_⟩, ?_⟩
      · simpa [unknownType?] using missing
      · rwa [Plan.stepOrder, plan_names ordered]

/-- The compiler accepts exactly the definitions that follow every rule. -/
theorem compile_decides (compiler : Compiler) (definition : Definition) :
    ((∃ plan, compiler.compile definition = .ok plan) ↔ compiler.Accepts definition) ∧
    (∀ plan, compiler.compile definition = .ok plan →
      plan.stepOrder.Perm definition.nodeIds ∧
      ∀ edge ∈ definition.edges,
        plan.stepOrder.idxOf edge.source < plan.stepOrder.idxOf edge.target) ∧
    (∀ error, compiler.compile definition = .error error → compiler.Refuses definition error) ∧
    compiler.compile? definition = some (compiler.compile definition) := by
  refine ⟨⟨?_, ?_⟩, ?_, ?_, compile_checked compiler definition⟩
  · rintro ⟨plan, compiled⟩
    exact (compile_accepts compiled).1
  · intro accepted
    cases answer : compiler.compile definition with
    | ok plan => exact ⟨plan, rfl⟩
    | error error => exact absurd accepted (compile_refuses answer).not_accepts
  · intro plan compiled
    have ordered := (compile_accepts compiled).2
    exact ⟨ordered.perm, ordered.forward⟩
  · intro error failed
    exact compile_refuses failed

/-- The nodes are listed against the direction of their edge, which is given twice. -/
def reversed : Definition :=
  { id := .nil
    name := "reversed"
    nodes := [{ id := "last", nodeType := "passthrough" },
      { id := "first", nodeType := "passthrough" }]
    edges := [{ source := "first", target := "last" },
      { source := "first", target := "last", outputSlot := some "slot" }]
    createdAt := ⟨0, 0⟩ }

/-- The only edge leads from a node to itself. -/
def circular : Definition :=
  { reversed with
    name := "circular"
    edges := [{ source := "last", target := "last" }] }

/-- The compiler turns the first around and refuses the second. -/
theorem reversed_accepted_circular_refused :
    (∃ plan, compile ⟨["passthrough"], {}⟩ reversed = .ok plan ∧
      plan.stepOrder.idxOf "first" < plan.stepOrder.idxOf "last") ∧
    Refuses ⟨["passthrough"], {}⟩ circular (.cycleDetected ["last", "last"]) := by
  have compiled : compile ⟨["passthrough"], {}⟩ reversed =
      .ok (plan ⟨["passthrough"], {}⟩ reversed ["first", "last"]) := by decide +kernel
  have failed : compile ⟨["passthrough"], {}⟩ circular = .error (.cycleDetected ["last", "last"]) := by
    decide +kernel
  obtain ⟨_, ordered, _, _⟩ := compile_decides ⟨["passthrough"], {}⟩ reversed
  obtain ⟨_, _, refused, _⟩ := compile_decides ⟨["passthrough"], {}⟩ circular
  exact ⟨⟨_, compiled, (ordered _ compiled).2 ⟨"first", "last", none⟩ (by decide)⟩, refused _ failed⟩

end Compiler

end WorkflowEngine
