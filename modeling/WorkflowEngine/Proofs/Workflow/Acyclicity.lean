/-
This file proves that a graph is ordered exactly if no path leads back to its start. The nodes that
the peeling leaves are entered from among themselves, and finitely many such nodes hold a cycle.
-/

import WorkflowEngine.Proofs.Workflow.CheckedPeeling
import Mathlib.Data.Set.Finite.Basic
import Mathlib.Logic.Relation

namespace WorkflowEngine

/-- Finitely many items that are all entered from among them have a cycle. -/
theorem exists_cycle {A : Type} {joins : A → A → Prop} {items : List A}
    (entered : ∀ item ∈ items, ∃ source ∈ items, joins source item) {start : A}
    (member : start ∈ items) : ∃ item ∈ items, Relation.TransGen joins item item := by
  by_contra none
  push Not at none
  let leads (source target : { item // item ∈ items }) : Prop :=
    Relation.TransGen joins source.1 target.1
  have transitive : IsTrans { item // item ∈ items } leads := ⟨fun _ _ _ => Relation.TransGen.trans⟩
  have irreflexive : Std.Irrefl leads := ⟨fun item => none item.1 item.2⟩
  have finite : Finite { item // item ∈ items } := List.finite_toSet items
  refine (Finite.wellFounded_of_trans_of_irrefl leads).induction
    (C := fun _ => False) ⟨start, member⟩ ?_
  intro item impossible
  obtain ⟨source, inside, edge⟩ := entered item.1 item.2
  exact impossible ⟨source, inside⟩ (Relation.TransGen.single edge)

namespace Graph

/-- An edge joins its source to its target. -/
def Joins (graph : Graph) (source target : String) : Prop :=
  (source, target) ∈ graph.edges

/-- No path of edges leads back to its start. -/
def Acyclic (graph : Graph) : Prop :=
  ∀ node, ¬Relation.TransGen graph.Joins node node

variable {graph : Graph}

/-- Where every edge leads forward in an order, every path does. -/
theorem idxOf_lt_of_path {order : List String}
    (forward : ∀ edge ∈ graph.edges, order.idxOf edge.1 < order.idxOf edge.2)
    {source target : String} (path : Relation.TransGen graph.Joins source target) :
    order.idxOf source < order.idxOf target := by
  induction path with
  | single edge => exact forward _ edge
  | tail _ edge inductionHypothesis => exact Nat.lt_trans inductionHypothesis (forward _ edge)

/-- A proper graph is ordered exactly if it is acyclic. -/
theorem order_isOk_iff (proper : graph.Proper) :
    (∃ order, graph.order = .ok order) ↔ graph.Acyclic := by
  constructor
  · rintro ⟨order, ordered⟩ node cycle
    exact Nat.lt_irrefl _ (idxOf_lt_of_path (order_sound proper ordered).2 cycle)
  · intro acyclic
    cases found : graph.order with
    | ok order => exact ⟨order, rfl⟩
    | error cycle =>
      have incomplete : graph.peeled.placed.length ≠ graph.nodes.length := by
        intro complete
        simp [Graph.order, complete] at found
      obtain ⟨node, known, unplaced⟩ := exists_unplaced proper incomplete
      have left := (mem_remaining proper node).mpr ⟨known, unplaced⟩
      have entered (node : String) (member : node ∈ remaining graph.peeled) :
          ∃ source ∈ remaining graph.peeled, graph.Joins source node := by
        obtain ⟨source, inside, entering⟩ := remaining_entered proper member
        exact ⟨source, inside, (mem_predecessors graph source node).mp entering⟩
      obtain ⟨item, _, back⟩ := exists_cycle entered left
      exact absurd back (acyclic item)

end Graph

end WorkflowEngine
