/-
This file proves that the peeling of a graph is canonical. Each node that it places is the least
available one, and which nodes are available and how they are ranked leaves no choice for the order.
-/

import WorkflowEngine.Proofs.Workflow.Acceptance
import Mathlib.Data.Finset.Card

namespace WorkflowEngine

/-- A precedence knows nodes, tells which of them is placed before which, and ranks them. -/
structure Precedence where
  knows : String → Prop
  joins : String → String → Prop
  rank : String → Nat

namespace Precedence

/-- All predecessors of an available node are placed, but not the node itself. -/
structure Available (precedence : Precedence) (placed : List String) (node : String) : Prop where
  known : precedence.knows node
  unplaced : node ∉ placed
  released : ∀ source, precedence.joins source node → source ∈ placed

/-- The next node is the least of the available ones by rank and then by name. -/
structure Next (precedence : Precedence) (placed : List String) (node : String) : Prop
    extends precedence.Available placed node where
  least : ∀ other, precedence.Available placed other → precedence.rank node < precedence.rank other ∨
    precedence.rank node = precedence.rank other ∧ node ≤ other

/-- A greedy order goes on with the next node until no node is available. -/
inductive Greedy (precedence : Precedence) : List String → List String → Prop where
  | done {placed : List String} (none : ∀ node, ¬precedence.Available placed node) :
    Greedy precedence placed []
  | next {placed rest : List String} {node : String} (next : precedence.Next placed node)
    (further : Greedy precedence (placed ++ [node]) rest) : Greedy precedence placed (node :: rest)

variable {precedence : Precedence} {placed rest other : List String} {node : String}

theorem Next.unique {first second : String} (one : precedence.Next placed first)
    (two : precedence.Next placed second) : first = second := by
  rcases one.least second two.toAvailable with less | ⟨_, below⟩ <;>
    rcases two.least first one.toAvailable with greater | ⟨_, above⟩
  · omega
  · omega
  · omega
  · exact String.le_antisymm below above

/-- There is one greedy order behind placed nodes. -/
theorem Greedy.unique (greedy : precedence.Greedy placed rest)
    (another : precedence.Greedy placed other) : rest = other := by
  induction greedy generalizing other with
  | done none =>
    cases another with
    | done => rfl
    | next next => exact absurd next.toAvailable (none _)
  | @next placed rest node next further inductionHypothesis =>
    cases another with
    | done none => exact absurd next.toAvailable (none _)
    | next second behind =>
      obtain rfl := next.unique second
      rw [inductionHypothesis behind]

/-- At each place of a greedy order stands the next node behind those before it. -/
theorem Greedy.next_at (greedy : precedence.Greedy placed rest) {index : Nat}
    (found : rest[index]? = some node) : precedence.Next (placed ++ rest.take index) node := by
  induction greedy generalizing index with
  | done none => simp at found
  | @next placed rest first next further inductionHypothesis =>
    cases index with
    | zero =>
      obtain rfl : first = node := by simpa using found
      simpa using next
    | succ index =>
      have behind : rest[index]? = some node := by simpa using found
      simpa using inductionHypothesis behind

end Precedence

namespace Graph

/-- The edges of a graph tell what is placed first. -/
def precedence (graph : Graph) : Precedence :=
  ⟨(· ∈ graph.nodes), graph.Joins, graph.degree⟩

theorem before_iff (left right : Nat × String) : before left right = true ↔
    left.1 < right.1 ∨ left.1 = right.1 ∧ left.2 < right.2 := by
  simp [before]

theorem before_asymm {left right : Nat × String} (ordered : before left right = true) :
    before right left = false := by
  rw [Bool.eq_false_iff, Ne, before_iff]
  rintro (less | ⟨same, less⟩) <;>
    rcases (before_iff left right).mp ordered with greater | ⟨_, greater⟩
  · omega
  · omega
  · omega
  · exact String.lt_asymm less greater

theorem before_trans {first second third : Nat × String} (one : before first second = true)
    (two : before second third = true) : before first third = true := by
  rw [before_iff] at one two ⊢
  rcases one with less | ⟨same, less⟩
  · omega
  · rcases two with further | ⟨still, further⟩
    · omega
    · exact .inr ⟨same.trans still, String.lt_trans less further⟩

/-- A queue is in order if no entry belongs before an earlier one. -/
def InOrder (queue : List (Nat × String)) : Prop :=
  queue.Pairwise fun earlier later => before later earlier = false

theorem InOrder.enqueue {queue : List (Nat × String)} (inOrder : InOrder queue)
    (entry : Nat × String) : InOrder (enqueue entry queue) := by
  induction queue with
  | nil => exact List.pairwise_singleton _ _
  | cons first rest inductionHypothesis =>
    obtain ⟨behind, ordered⟩ := List.pairwise_cons.mp inOrder
    unfold Graph.enqueue
    split
    · next ahead =>
      refine List.pairwise_cons.mpr ⟨fun other member => ?_, inOrder⟩
      rcases List.mem_cons.mp member with rfl | inRest
      · exact before_asymm ahead
      · rw [Bool.eq_false_iff]
        intro earlier
        exact absurd (before_trans earlier ahead) (by simp [behind other inRest])
    · next after =>
      refine List.pairwise_cons.mpr ⟨fun other member => ?_, inductionHypothesis ordered⟩
      rcases List.mem_cons.mp ((enqueue_perm entry rest).mem_iff.mp member) with rfl | inRest
      · simpa using after
      · exact behind other inRest

/-- The ready nodes are ranked if they stand in order with their numbers of predecessors. -/
structure Peeling.Ranked (graph : Graph) (peeling : Peeling) : Prop where
  degrees : ∀ entry ∈ peeling.ready, entry.1 = graph.degree entry.2
  inOrder : InOrder peeling.ready

variable {graph : Graph} {peeling : Peeling}

theorem startPeeling_ranked (graph : Graph) : graph.startPeeling.Ranked graph := by
  have entered (names : List String) (queue : List (Nat × String)) (inOrder : InOrder queue)
      (zero : ∀ entry ∈ queue, entry.1 = 0 ∧ graph.degree entry.2 = 0)
      (free : ∀ name ∈ names, graph.degree name = 0) :
      let ready := names.foldl (fun ready node => enqueue (0, node) ready) queue
      InOrder ready ∧ ∀ entry ∈ ready, entry.1 = 0 ∧ graph.degree entry.2 = 0 := by
    induction names generalizing queue with
    | nil => exact ⟨inOrder, zero⟩
    | cons first rest inductionHypothesis =>
      apply inductionHypothesis _ (inOrder.enqueue _)
      · intro entry member
        rcases List.mem_cons.mp ((enqueue_perm _ _).mem_iff.mp member) with rfl | old
        · exact ⟨rfl, free first List.mem_cons_self⟩
        · exact zero entry old
      · exact fun name member => free name (List.mem_cons_of_mem _ member)
  obtain ⟨inOrder, zero⟩ := entered (graph.nodes.filter fun node => graph.degree node == 0) []
    .nil (by simp) (by simp)
  exact ⟨fun entry member => (zero entry member).1.trans (zero entry member).2.symm, inOrder⟩

theorem Peeling.Ranked.release (ranked : peeling.Ranked graph) (node : String) :
    (graph.release peeling node).Ranked graph := by
  unfold Graph.release
  split
  · split
    · refine ⟨fun entry member => ?_, ranked.inOrder.enqueue _⟩
      rcases List.mem_cons.mp ((enqueue_perm _ _).mem_iff.mp member) with rfl | old
      · rfl
      · exact ranked.degrees entry old
    · exact ⟨ranked.degrees, ranked.inOrder⟩
  · exact ranked

theorem Peeling.Ranked.releaseAll (ranked : peeling.Ranked graph) (nodes : List String) :
    (nodes.foldl graph.release peeling).Ranked graph := by
  induction nodes generalizing peeling with
  | nil => exact ranked
  | cons first rest inductionHypothesis => exact inductionHypothesis (ranked.release first)

/-- One round of the peeling keeps the ready nodes ranked. -/
theorem Peeling.Ranked.round (ranked : peeling.Ranked graph) {entry : Nat × String}
    {rest : List (Nat × String)} (first : peeling.ready = entry :: rest) :
    ((graph.successors entry.2).foldl graph.release
      { peeling with ready := rest, placed := peeling.placed ++ [entry.2] }).Ranked graph := by
  obtain ⟨degrees, inOrder⟩ := ranked
  rw [first] at degrees inOrder
  have taken : Ranked graph
      { peeling with ready := rest, placed := peeling.placed ++ [entry.2] } :=
    ⟨fun other member => degrees other (List.mem_cons_of_mem _ member),
      (List.pairwise_cons.mp inOrder).2⟩
  exact taken.releaseAll _

/-- The ready nodes are the available ones. -/
theorem Peeling.Sound.ready_iff (sound : peeling.Sound graph []) (node : String) :
    node ∈ peeling.ready.map Prod.snd ↔ graph.precedence.Available peeling.placed node := by
  rw [sound.readyIff, awaited_eq_zero]
  simp only [mem_predecessors]
  constructor
  · rintro ⟨known, unplaced, released, _⟩
    exact ⟨known, unplaced, released⟩
  · rintro ⟨known, unplaced, released⟩
    exact ⟨known, unplaced, released, List.not_mem_nil⟩

/-- The first ready node is the next one. -/
theorem Peeling.Sound.next (sound : peeling.Sound graph []) (ranked : peeling.Ranked graph)
    {entry : Nat × String} {rest : List (Nat × String)} (first : peeling.ready = entry :: rest) :
    graph.precedence.Next peeling.placed entry.2 := by
  refine ⟨(sound.ready_iff entry.2).mp (by simp [first]), fun other available => ?_⟩
  obtain ⟨behind, member, rfl⟩ := List.mem_map.mp ((sound.ready_iff other).mpr available)
  have own := ranked.degrees entry (by simp [first])
  have others := ranked.degrees behind member
  change graph.degree entry.2 < graph.degree behind.2 ∨
    graph.degree entry.2 = graph.degree behind.2 ∧ entry.2 ≤ behind.2
  rw [← own, ← others]
  have inOrder := ranked.inOrder
  rw [first] at member inOrder
  rcases List.mem_cons.mp member with rfl | later
  · exact .inr ⟨rfl, String.le_refl _⟩
  · have ordered := (List.pairwise_cons.mp inOrder).1 behind later
    rw [Bool.eq_false_iff, Ne, before_iff, not_or] at ordered
    rcases Nat.lt_trichotomy entry.1 behind.1 with less | same | greater
    · exact .inl less
    · exact .inr ⟨same, String.not_lt.mp fun less => ordered.2 ⟨same.symm, less⟩⟩
    · exact absurd greater ordered.1

/-- A count that covers the nodes left to place lets the peeling go on greedily. -/
theorem peel_greedy (proper : graph.Proper) (count : Nat) (sound : peeling.Sound graph [])
    (ranked : peeling.Ranked graph)
    (covered : count + peeling.placed.length = graph.nodes.length) :
    ∃ rest, (graph.peel count peeling).placed = peeling.placed ++ rest ∧
      graph.precedence.Greedy peeling.placed rest := by
  induction count generalizing peeling with
  | zero =>
    have whole : peeling.placed.Perm graph.nodes :=
      (List.Nodup.subperm sound.placedDistinct sound.placedKnown).perm_of_length_le (by omega)
    exact ⟨[], (List.append_nil _).symm,
      .done fun node available => available.unplaced (whole.mem_iff.mpr available.known)⟩
  | succ count inductionHypothesis =>
    cases first : peeling.ready with
    | nil =>
      refine ⟨[], by simp [peel, first], .done fun node available => ?_⟩
      have ready := (sound.ready_iff node).mpr available
      simp [first] at ready
    | cons entry rest =>
      have placed : ((graph.successors entry.2).foldl graph.release
          { peeling with ready := rest, placed := peeling.placed ++ [entry.2] }).placed =
          peeling.placed ++ [entry.2] := releaseAll_placed _ _
      obtain ⟨later, listed, greedy⟩ := inductionHypothesis (sound.round proper first)
        (ranked.round first) (by rw [placed, List.length_append, List.length_singleton]; omega)
      rw [placed] at listed greedy
      refine ⟨entry.2 :: later, ?_, .next (sound.next ranked first) greedy⟩
      rw [peel, first]
      dsimp only
      rw [listed, List.append_assoc, List.singleton_append]

/-- The nodes of a graph are placed in the greedy order. -/
theorem peeled_greedy (proper : graph.Proper) :
    graph.precedence.Greedy [] graph.peeled.placed := by
  obtain ⟨rest, listed, greedy⟩ := peel_greedy proper graph.nodes.length
    (startPeeling_sound proper) (startPeeling_ranked graph) (by simp [startPeeling])
  have same : graph.peeled.placed = rest := listed
  exact same ▸ greedy

/-- An order that is found is the greedy one. -/
theorem order_greedy (proper : graph.Proper) {order : List String}
    (found : graph.order = .ok order) : graph.precedence.Greedy [] order := by
  simp only [Graph.order] at found
  split at found
  · exact Except.ok.inj found ▸ peeled_greedy proper
  · cases found

end Graph

namespace Definition

def predecessorCount (definition : Definition) (node : String) : Nat :=
  ((definition.edges.filter fun edge => edge.target == node).map Edge.source).toFinset.card

/-- The edges of a definition tell what is placed first. -/
def precedence (definition : Definition) : Precedence :=
  ⟨(· ∈ definition.nodeIds), definition.Joins, definition.predecessorCount⟩

variable {definition : Definition}

/-- The degree of a node in the graph is the number of its distinct predecessors. -/
theorem graph_degree (proper : definition.graph.Proper) (node : String) :
    definition.graph.degree node = definition.predecessorCount node := by
  rw [Graph.degree, predecessorCount,
    ← List.toFinset_card_of_nodup (Graph.predecessors_nodup proper node)]
  congr 1
  ext source
  simp [Graph.mem_predecessors, mem_graph_edges, and_comm, and_assoc]

/-- The order of a definition is the one of its graph. -/
theorem graph_order {order : List String} (found : definition.order = .ok order) :
    definition.graph.order = .ok order := by
  simp only [Definition.order] at found
  split at found
  · cases found
  · split at found
    · cases found
    · split at found
      · next ordered =>
        cases found
        exact ordered
      · cases found

/-- A definition and its graph have one precedence. -/
theorem graph_precedence (proper : definition.graph.Proper) :
    definition.graph.precedence = definition.precedence := by
  have degrees : definition.graph.degree = definition.predecessorCount :=
    funext (graph_degree proper)
  rw [Graph.precedence, precedence, graph_joins, degrees]
  rfl

end Definition

end WorkflowEngine
