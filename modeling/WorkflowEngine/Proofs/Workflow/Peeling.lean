/-
This file proves that the peeling of a graph orders its nodes. The numbers kept for the nodes are
those of their predecessors that are not placed yet, and the ready nodes are those without one.
-/

import WorkflowEngine.Workflow.Graph
import Mathlib.Data.List.Nodup
import Mathlib.Data.List.Perm.Subperm

namespace WorkflowEngine

/-- Among distinct items one that counts is counted once. -/
theorem countP_without {A : Type} [DecidableEq A] {items : List A} (distinct : items.Nodup)
    (counts : A → Bool) {item : A} (counted : counts item = true) :
    items.countP counts = items.countP (fun other => counts other && other != item) +
      if item ∈ items then 1 else 0 := by
  induction items with
  | nil => rfl
  | cons first rest inductionHypothesis =>
    obtain ⟨fresh, tail⟩ := List.nodup_cons.mp distinct
    have restCount := inductionHypothesis tail
    by_cases same : first = item
    · subst same
      simp only [if_neg fresh] at restCount
      simp [counted, restCount]
    · simp only [List.countP_cons, restCount, List.mem_cons, Ne.symm same, false_or]
      cases counts first
      · simp
      · simp [same]
        omega

namespace Graph

def awaited (graph : Graph) (placed : List String) (node : String) : Nat :=
  (graph.predecessors node).countP fun source => !placed.contains source

/-- The nodes are distinct, and so are the edges, which join nodes. -/
structure Proper (graph : Graph) : Prop where
  nodesDistinct : graph.nodes.Nodup
  edgesDistinct : graph.edges.Nodup
  endsKnown : ∀ edge ∈ graph.edges, edge.1 ∈ graph.nodes ∧ edge.2 ∈ graph.nodes

/-- Between two releases `pending` still counts the node that was placed last. -/
structure Peeling.Sound (graph : Graph) (pending : List String) (peeling : Peeling) : Prop where
  entering : ∀ node ∈ graph.nodes, Table.get? peeling.entering node =
    some (graph.awaited peeling.placed node + if node ∈ pending then 1 else 0)
  readyIff : ∀ node, node ∈ peeling.ready.map Prod.snd ↔ node ∈ graph.nodes ∧
    node ∉ peeling.placed ∧ graph.awaited peeling.placed node = 0 ∧ node ∉ pending
  readyDistinct : (peeling.ready.map Prod.snd).Nodup
  placedKnown : ∀ node ∈ peeling.placed, node ∈ graph.nodes
  placedDistinct : peeling.placed.Nodup
  placedOrdered : ∀ edge ∈ graph.edges, edge.2 ∈ peeling.placed →
    peeling.placed.idxOf edge.1 < peeling.placed.idxOf edge.2

theorem mem_successors (graph : Graph) (source target : String) :
    target ∈ graph.successors source ↔ (source, target) ∈ graph.edges := by
  simp [successors]

theorem mem_predecessors (graph : Graph) (source target : String) :
    source ∈ graph.predecessors target ↔ (source, target) ∈ graph.edges := by
  simp [predecessors]

theorem successors_nodup {graph : Graph} (proper : graph.Proper) (node : String) :
    (graph.successors node).Nodup := by
  apply List.Nodup.map_on _ (proper.edgesDistinct.filter _)
  rintro ⟨source, target⟩ member ⟨source', target'⟩ member' equal
  simp only [List.mem_filter, beq_iff_eq] at member member'
  simp_all

theorem predecessors_nodup {graph : Graph} (proper : graph.Proper) (node : String) :
    (graph.predecessors node).Nodup := by
  apply List.Nodup.map_on _ (proper.edgesDistinct.filter _)
  rintro ⟨source, target⟩ member ⟨source', target'⟩ member' equal
  simp only [List.mem_filter, beq_iff_eq] at member member'
  simp_all

/-- A node awaits nothing exactly if all its predecessors are placed. -/
theorem awaited_eq_zero (graph : Graph) (placed : List String) (node : String) :
    graph.awaited placed node = 0 ↔ ∀ source ∈ graph.predecessors node, source ∈ placed := by
  simp [awaited]

/-- A node that is placed is awaited no more, by its successors and by them alone. -/
theorem awaited_append {graph : Graph} (proper : graph.Proper) {placed : List String}
    {node : String} (fresh : node ∉ placed) (other : String) :
    graph.awaited placed other = graph.awaited (placed ++ [node]) other +
      if other ∈ graph.successors node then 1 else 0 := by
  have split := countP_without (predecessors_nodup proper other)
    (fun source => !placed.contains source) (by simpa using fresh : (!placed.contains node) = true)
  simp only [mem_predecessors, ← mem_successors] at split
  unfold awaited
  rw [split]
  congr 2
  funext source
  by_cases same : source = node <;> simp [same]

theorem enqueue_perm (entry : Nat × String) (queue : List (Nat × String)) :
    (enqueue entry queue).Perm (entry :: queue) := by
  induction queue with
  | nil => exact List.Perm.refl _
  | cons first rest inductionHypothesis =>
    simp only [enqueue]
    split
    · exact List.Perm.refl _
    · exact (inductionHypothesis.cons first).trans (List.Perm.swap entry first rest)

theorem enqueue_names (entry : Nat × String) (queue : List (Nat × String)) :
    ((enqueue entry queue).map Prod.snd).Perm (entry.2 :: queue.map Prod.snd) :=
  (enqueue_perm entry queue).map Prod.snd

theorem get_map {V : Type} (names : List String) (value : String → V) {node : String}
    (member : node ∈ names) :
    Table.get? (names.map fun name => (name, value name)) node = some (value node) := by
  induction names with
  | nil => cases member
  | cons first rest inductionHypothesis =>
    by_cases same : first = node
    · simp [Table.get?, same]
    · simp only [List.map_cons, Table.get?, if_neg same]
      exact inductionHypothesis ((List.mem_cons.mp member).resolve_left (Ne.symm same))

theorem foldl_enqueue_perm (names : List String) (queue : List (Nat × String)) :
    ((names.foldl (fun ready node => enqueue (0, node) ready) queue).map Prod.snd).Perm
      (names ++ queue.map Prod.snd) := by
  induction names generalizing queue with
  | nil => exact List.Perm.refl _
  | cons first rest inductionHypothesis =>
    have placed := (enqueue_names (0, first) queue).append_left rest
    exact (inductionHypothesis _).trans (placed.trans List.perm_middle)

/-- A peeling starts soundly. -/
theorem startPeeling_sound {graph : Graph} (proper : graph.Proper) :
    graph.startPeeling.Sound graph [] := by
  have ready : (graph.startPeeling.ready.map Prod.snd).Perm
      (graph.nodes.filter fun node => graph.degree node == 0) := by
    simpa [startPeeling] using foldl_enqueue_perm
      (graph.nodes.filter fun node => graph.degree node == 0) []
  have degree (node : String) : graph.awaited [] node = graph.degree node := by
    simp [awaited, Graph.degree, List.countP_eq_length_filter]
  constructor
  · intro node member
    simpa [startPeeling, degree] using get_map graph.nodes graph.degree member
  · intro node
    rw [ready.mem_iff, List.mem_filter]
    simp [startPeeling, degree]
  · exact ready.nodup_iff.mpr (proper.nodesDistinct.filter _)
  · simp [startPeeling]
  · simp [startPeeling]
  · simp [startPeeling]

/-- Placing the first ready node keeps a peeling sound until the releases. -/
theorem Peeling.Sound.place {graph : Graph} {peeling : Peeling} (proper : graph.Proper)
    (sound : peeling.Sound graph []) {entry : Nat × String} {rest : List (Nat × String)}
    (first : peeling.ready = entry :: rest) :
    Peeling.Sound graph (graph.successors entry.2)
      { peeling with ready := rest, placed := peeling.placed ++ [entry.2] } := by
  have chosen := (sound.readyIff entry.2).mp (by simp [first])
  obtain ⟨known, fresh, free, _⟩ := chosen
  have before := (awaited_eq_zero graph peeling.placed entry.2).mp free
  have distinct := sound.readyDistinct
  rw [first, List.map_cons, List.nodup_cons] at distinct
  constructor
  · intro node member
    rw [sound.entering node member, awaited_append proper fresh node]
    simp
  · intro node
    have ready := sound.readyIff node
    rw [first, awaited_append proper fresh node] at ready
    constructor
    · intro member
      have facts := ready.mp (by simp [member])
      have different : node ≠ entry.2 := fun same => distinct.1 (same ▸ member)
      obtain ⟨inGraph, unplaced, zero, _⟩ := facts
      have parts := Nat.add_eq_zero_iff.mp zero
      exact ⟨inGraph, by simp [unplaced, different], parts.1, by simpa using parts.2⟩
    · rintro ⟨inGraph, unplaced, zero, other⟩
      simp only [List.mem_append, List.mem_singleton, not_or] at unplaced
      have member := ready.mpr ⟨inGraph, unplaced.1, by simp [zero, other], by simp⟩
      exact (List.mem_cons.mp member).resolve_left unplaced.2
  · exact distinct.2
  · intro node member
    rcases List.mem_append.mp member with old | new
    · exact sound.placedKnown node old
    · rwa [List.mem_singleton.mp new]
  · exact List.concat_eq_append ▸ sound.placedDistinct.concat fresh
  · intro edge member placed
    rcases List.mem_append.mp placed with old | new
    · have ordered := sound.placedOrdered edge member old
      have source : edge.1 ∈ peeling.placed :=
        List.idxOf_lt_length_iff.mp (Nat.lt_trans ordered (List.idxOf_lt_length_iff.mpr old))
      rw [List.idxOf_append_of_mem source, List.idxOf_append_of_mem old]
      exact ordered
    · -- every predecessor of the new node is placed before it, so the node itself is none
      have target := List.mem_singleton.mp new
      have source : edge.1 ∈ peeling.placed :=
        before edge.1 ((mem_predecessors graph edge.1 entry.2).mpr (target ▸ member))
      rw [target, List.idxOf_append_of_mem source, List.idxOf_append_of_notMem fresh]
      have inside := List.idxOf_lt_length_iff.mpr source
      omega

/-- A release keeps a peeling sound and settles the count of its node. -/
theorem Peeling.Sound.release {graph : Graph} {peeling : Peeling} {node : String}
    {pending : List String} (known : node ∈ graph.nodes) (fresh : node ∉ pending)
    (unplaced : node ∉ peeling.placed) (sound : peeling.Sound graph (node :: pending)) :
    Peeling.Sound graph pending (graph.release peeling node) := by
  have count := sound.entering node known
  simp only [List.mem_cons, true_or, if_true] at count
  have other (different : String) (unequal : different ≠ node) :
      (different ∈ node :: pending ↔ different ∈ pending) := by simp [unequal]
  simp only [Graph.release, count]
  refine ⟨?_, ?_, ?_, sound.placedKnown, sound.placedDistinct, sound.placedOrdered⟩
  · intro member inGraph
    by_cases same : member = node
    · subst same
      simp [Table.getInsertSame, fresh]
    · simpa [Table.getInsertOther _ _ (Ne.symm same), other member same] using
        sound.entering member inGraph
  · intro member
    by_cases last : graph.awaited peeling.placed node = 0
    · simp only [last, if_true]
      rw [(enqueue_names _ _).mem_iff, List.mem_cons, sound.readyIff]
      by_cases same : member = node
      · subst same
        simp [known, unplaced, last, fresh]
      · simp [same]
    · simp only [if_neg last]
      rw [sound.readyIff]
      by_cases same : member = node
      · subst same
        simp [last]
      · simp [same]
  · by_cases last : graph.awaited peeling.placed node = 0
    · simp only [last, if_true]
      rw [(enqueue_names _ _).nodup_iff, List.nodup_cons]
      refine ⟨?_, sound.readyDistinct⟩
      intro member
      have facts := (sound.readyIff node).mp member
      simp at facts
    · simpa only [if_neg last] using sound.readyDistinct

theorem release_placed (graph : Graph) (peeling : Peeling) (node : String) :
    (graph.release peeling node).placed = peeling.placed := by
  unfold release
  split <;> rfl

/-- The releases of all successors complete the placing of a node. -/
theorem Peeling.Sound.releaseAll {graph : Graph} {peeling : Peeling} {pending : List String}
    (known : ∀ node ∈ pending, node ∈ graph.nodes) (distinct : pending.Nodup)
    (unplaced : ∀ node ∈ pending, node ∉ peeling.placed) (sound : peeling.Sound graph pending) :
    Peeling.Sound graph [] (pending.foldl graph.release peeling) := by
  induction pending generalizing peeling with
  | nil => exact sound
  | cons first rest inductionHypothesis =>
    have parts := List.nodup_cons.mp distinct
    apply inductionHypothesis (fun node member => known node (List.mem_cons_of_mem _ member))
      parts.2
    · intro node member
      rw [release_placed]
      exact unplaced node (List.mem_cons_of_mem _ member)
    · exact sound.release (known first List.mem_cons_self) parts.1
        (unplaced first List.mem_cons_self)

theorem successors_known {graph : Graph} (proper : graph.Proper) (node : String) :
    ∀ target ∈ graph.successors node, target ∈ graph.nodes :=
  fun target member => (proper.endsKnown _ ((mem_successors graph node target).mp member)).2

/-- A ready node has no placed successor, and is none of its own. -/
theorem Peeling.Sound.successors_unplaced {graph : Graph} {peeling : Peeling}
    (sound : peeling.Sound graph []) {entry : Nat × String} (ready : entry ∈ peeling.ready) :
    ∀ node ∈ graph.successors entry.2, node ∉ peeling.placed ++ [entry.2] := by
  have chosen := (sound.readyIff entry.2).mp (List.mem_map.mpr ⟨entry, ready, rfl⟩)
  obtain ⟨_, fresh, free, _⟩ := chosen
  have before := (awaited_eq_zero graph peeling.placed entry.2).mp free
  intro node member placed
  have edge := (mem_successors graph entry.2 node).mp member
  rcases List.mem_append.mp placed with old | new
  · have ordered := sound.placedOrdered _ edge old
    exact fresh (List.idxOf_lt_length_iff.mp
      (Nat.lt_trans ordered (List.idxOf_lt_length_iff.mpr old)))
  · rw [List.mem_singleton.mp new] at edge
    exact fresh (before entry.2 ((mem_predecessors graph entry.2 entry.2).mpr edge))

/-- One round of the peeling keeps it sound. -/
theorem Peeling.Sound.round {graph : Graph} {peeling : Peeling} (proper : graph.Proper)
    (sound : peeling.Sound graph []) {entry : Nat × String} {rest : List (Nat × String)}
    (first : peeling.ready = entry :: rest) :
    Peeling.Sound graph [] ((graph.successors entry.2).foldl graph.release
      { peeling with ready := rest, placed := peeling.placed ++ [entry.2] }) := by
  apply (sound.place proper first).releaseAll
  · exact successors_known proper entry.2
  · exact successors_nodup proper entry.2
  · exact sound.successors_unplaced (first ▸ List.mem_cons_self)

theorem peel_sound {graph : Graph} (proper : graph.Proper) (count : Nat) {peeling : Peeling}
    (sound : peeling.Sound graph []) : (graph.peel count peeling).Sound graph [] := by
  induction count generalizing peeling with
  | zero => exact sound
  | succ count inductionHypothesis =>
    simp only [peel]
    split
    · exact sound
    · next entry node rest first =>
      exact inductionHypothesis (sound.round proper first)

/-- The peeling of a graph ends soundly. -/
theorem peeled_sound {graph : Graph} (proper : graph.Proper) : graph.peeled.Sound graph [] :=
  peel_sound proper _ (startPeeling_sound proper)

/-- An order holds every node once, and every edge leads forward in it. -/
theorem order_sound {graph : Graph} (proper : graph.Proper) {order : List String}
    (ordered : graph.order = .ok order) :
    order.Perm graph.nodes ∧ ∀ edge ∈ graph.edges, order.idxOf edge.1 < order.idxOf edge.2 := by
  have sound := peeled_sound proper
  simp only [Graph.order] at ordered
  split at ordered
  · next complete =>
    have placed := Except.ok.inj ordered
    have whole : graph.peeled.placed.Perm graph.nodes :=
      (List.Nodup.subperm sound.placedDistinct sound.placedKnown).perm_of_length_le
        (Nat.le_of_eq complete.symm)
    rw [← placed]
    refine ⟨whole, ?_⟩
    intro edge member
    exact sound.placedOrdered edge member (whole.mem_iff.mpr (proper.endsKnown edge member).2)
  · cases ordered

end Graph

end WorkflowEngine
