/-
This file proves that the cycle of which a definition is accused is one of its own. The walk from
the nodes that are left goes against the edges until it meets a node again, which it does after at
most as many steps as there are such nodes, and what it has passed since then is turned and closed.
-/

import WorkflowEngine.Proofs.Workflow.Acceptance
import Mathlib.Data.List.Chain
import Mathlib.Data.List.Nodup

namespace WorkflowEngine

/-- A closed cycle begins and ends with its least node. -/
structure ClosedCycle (joins : String → String → Prop) (cycle : List String) : Prop where
  long : 2 ≤ cycle.length
  closes : cycle.head? = cycle.getLast?
  follows : cycle.IsChain joins
  distinct : cycle.dropLast.Nodup
  least : ∀ first ∈ cycle.head?, ∀ node ∈ cycle, first ≤ node

/-- An edge leads from the last node of an open cycle to its first one. -/
structure OpenCycle (joins : String → String → Prop) (nodes : List String) : Prop where
  follows : nodes.IsChain joins
  returns : ∀ last ∈ nodes.getLast?, ∀ first ∈ nodes.head?, joins last first
  distinct : nodes.Nodup
  nonempty : nodes ≠ []

namespace Graph

/-- A walk goes to least predecessors and ends at a node on its path. -/
inductive Walks (graph : Graph) (within : List String) :
    List String → String → Nat → List String → Prop where
  | meets {path : List String} {node : String} (met : node ∈ path) :
    Walks graph within path node 0 ((path.takeWhile fun visited => visited != node) ++ [node])
  | step {path : List String} {node source : String} {steps : Nat} {found : List String}
    (fresh : node ∉ path) (least : graph.leastPredecessor? within node = some source)
    (further : Walks graph within (node :: path) source steps found) :
    Walks graph within path node (steps + 1) found

theorem foldl_least_le (rest : List String) (first : String) :
    ∀ text ∈ first :: rest,
      rest.foldl (fun least text => if text < least then text else least) first ≤ text := by
  induction rest generalizing first with
  | nil =>
    intro text member
    rw [List.mem_singleton.mp member]
    exact String.le_refl first
  | cons second rest inductionHypothesis =>
    intro text member
    rw [List.foldl_cons]
    by_cases below : second < first
    · have bound := inductionHypothesis second
      rw [if_pos below]
      rcases List.mem_cons.mp member with rfl | later
      · exact String.le_trans (bound second List.mem_cons_self)
          (String.not_lt.mp (String.lt_asymm below))
      · exact bound text later
    · have bound := inductionHypothesis first
      rw [if_neg below]
      rcases List.mem_cons.mp member with rfl | later
      · exact bound text List.mem_cons_self
      · rcases List.mem_cons.mp later with rfl | inRest
        · exact String.le_trans (bound first List.mem_cons_self) (String.not_lt.mp below)
        · exact bound text (List.mem_cons_of_mem _ inRest)

theorem least?_le {texts : List String} {least : String} (found : least? texts = some least) :
    ∀ text ∈ texts, least ≤ text := by
  cases texts with
  | nil => simp
  | cons first rest =>
    rw [least?, Option.some.injEq] at found
    rw [← found]
    exact foldl_least_le rest first

theorem least?_mem {texts : List String} {least : String} (found : least? texts = some least) :
    least ∈ texts := by
  cases texts with
  | nil => cases found
  | cons first rest =>
    obtain ⟨_, inside, same⟩ := least?_some (List.mem_cons_self : first ∈ first :: rest)
    rwa [Option.some.inj (found.symm.trans same)]

/-- A list is cut in front of the first place where a text stands. -/
theorem cut_at {texts : List String} {text : String} (member : text ∈ texts) :
    ∃ later, texts = (texts.takeWhile fun other => other != text) ++ text :: later ∧
      (texts.dropWhile fun other => other != text) = text :: later := by
  induction texts with
  | nil => cases member
  | cons first rest inductionHypothesis =>
    by_cases same : first = text
    · subst same
      exact ⟨rest, by simp, by simp⟩
    · obtain ⟨later, listed, behind⟩ :=
        inductionHypothesis ((List.mem_cons.mp member).resolve_left (Ne.symm same))
      refine ⟨later, ?_, by simpa [same] using behind⟩
      simpa [same] using listed

variable {graph : Graph} {within path found : List String}
  {node source : String} {steps : Nat}

theorem leastPredecessor?_joins (least : graph.leastPredecessor? within node = some source) :
    source ∈ within ∧ graph.Joins source node := by
  have member := List.mem_filter.mp (least?_mem least)
  exact ⟨by simpa using member.2, (mem_predecessors graph source node).mp member.1⟩

/-- The path behind a walk follows the edges, and so does the loop that it finds. -/
theorem Walks.openCycle (walks : graph.Walks within path node steps found)
    (follows : (node :: path).IsChain graph.Joins) (distinct : path.Nodup) :
    OpenCycle graph.Joins found := by
  induction walks with
  | @meets path node met =>
    obtain ⟨later, listed, _⟩ := cut_at met
    generalize (path.takeWhile fun visited => visited != node) = earlier at listed ⊢
    rw [listed, List.append_cons] at follows distinct
    rw [← List.cons_append] at follows
    have closing : (node :: (earlier ++ [node])).IsChain graph.Joins := follows.left_of_append
    refine ⟨closing.tail, ?_, (List.nodup_append.mp distinct).1, by simp⟩
    intro last isLast first isFirst
    rw [List.getLast?_concat, Option.mem_some_iff] at isLast
    rw [← isLast]
    exact closing.rel_head? isFirst
  | step fresh least further inductionHypothesis =>
    exact inductionHypothesis (.cons_cons (leastPredecessor?_joins least).2 follows)
      (List.nodup_cons.mpr ⟨fresh, distinct⟩)

/-- A walk meets a node again before it has made more steps than there are nodes. -/
theorem walk_walks (entered : ∀ node ∈ within, ∃ source ∈ within, source ∈ graph.predecessors node)
    (fuel : Nat) (inside : path ⊆ within) (distinct : path.Nodup) (member : node ∈ within)
    (enough : fuel + path.length = within.length + 1) :
    ∃ steps, steps + path.length ≤ within.length ∧
      graph.Walks within path node steps (graph.walk within fuel path node) := by
  have short := (List.Nodup.subperm distinct inside).length_le
  induction fuel generalizing path node with
  | zero => omega
  | succ fuel inductionHypothesis =>
    by_cases met : node ∈ path
    · refine ⟨0, by omega, ?_⟩
      rw [walk, if_pos (by simpa using met)]
      exact .meets met
    · obtain ⟨entry, inWithin, entering⟩ := entered node member
      obtain ⟨source, _, least⟩ := least?_some
        (List.mem_filter.mpr ⟨entering, by simpa using inWithin⟩ :
          entry ∈ (graph.predecessors node).filter fun source => within.contains source)
      have least : graph.leastPredecessor? within node = some source := least
      have longer : node :: path ⊆ within := List.cons_subset.mpr ⟨member, inside⟩
      have fresh : (node :: path).Nodup := List.nodup_cons.mpr ⟨met, distinct⟩
      obtain ⟨steps, few, walks⟩ := inductionHypothesis longer fresh
        (leastPredecessor?_joins least).1 (by simp only [List.length_cons]; omega)
        (List.Nodup.subperm fresh longer).length_le
      rw [List.length_cons] at few
      refine ⟨steps + 1, by omega, ?_⟩
      rw [walk, if_neg (by simpa using met), least]
      exact .step met least walks

theorem remaining_nodup (proper : graph.Proper) : (remaining graph.peeled).Nodup := by
  have keys : graph.peeled.entering.map Prod.fst = graph.nodes := by
    simp [peeled, peel_keys, startPeeling, Function.comp_def]
  have distinct := proper.nodesDistinct
  rw [← keys] at distinct
  exact distinct.sublist (List.filter_sublist.map _)

/-- The walk from the least of the remaining nodes finds the open cycle. -/
theorem order_cycle (proper : graph.Proper) (cyclic : ¬graph.Acyclic) :
    ∃ start steps loop, least? (remaining graph.peeled) = some start ∧
      graph.Walks (remaining graph.peeled) [] start steps loop ∧
      steps ≤ (remaining graph.peeled).length ∧
      graph.order = .error (closed loop) := by
  have incomplete : graph.peeled.placed.length ≠ graph.nodes.length := by
    intro complete
    exact cyclic ((order_isOk_iff proper).mp ⟨_, by rw [Graph.order, if_pos complete]⟩)
  obtain ⟨node, known, unplaced⟩ := exists_unplaced proper incomplete
  obtain ⟨start, inside, least⟩ := least?_some ((mem_remaining proper node).mpr ⟨known, unplaced⟩)
  obtain ⟨steps, few, walks⟩ := walk_walks (fun node member => remaining_entered proper member)
    ((remaining graph.peeled).length + 1) (List.nil_subset _) List.nodup_nil inside (by simp)
  refine ⟨start, steps, _, least, walks, few, ?_⟩
  rw [Graph.order, if_neg incomplete, findCycle, least]

end Graph

/-- An open cycle that is turned to its least node and closed is a closed cycle. -/
theorem OpenCycle.closedCycle {joins : String → String → Prop} {nodes : List String}
    (loop : OpenCycle joins nodes) : ClosedCycle joins (Graph.closed nodes) := by
  obtain ⟨least, inside, smallest⟩ :=
    Graph.least?_some (List.head_mem loop.nonempty)
  obtain ⟨later, listed, behind⟩ := Graph.cut_at inside
  have shape : Graph.closed nodes =
      least :: (later ++ nodes.takeWhile (fun node => node != least)) ++ [least] := by
    rw [Graph.closed, smallest]
    dsimp only
    rw [behind, List.cons_append]
  generalize nodes.takeWhile (fun node => node != least) = earlier at listed shape
  -- Gone through twice, it holds the closed cycle between its first and its second half.
  have twice : (nodes ++ nodes).IsChain joins :=
    loop.follows.append loop.follows loop.returns
  have inner : (earlier ++ (least :: (later ++ earlier) ++ [least]) ++ later).IsChain joins := by
    simpa [listed] using twice
  rw [shape]
  refine ⟨?_, ?_, inner.left_of_append.right_of_append, ?_, ?_⟩
  · rw [List.length_append, List.length_cons, List.length_singleton]
    omega
  · rw [List.getLast?_concat, List.cons_append, List.head?_cons]
  · rw [List.dropLast_concat]
    have turned : (least :: (later ++ earlier)).Perm nodes := by
      rw [listed]
      exact (List.perm_append_comm : (least :: later ++ earlier).Perm _)
    exact turned.nodup_iff.mpr loop.distinct
  · intro first isFirst node member
    obtain rfl : least = first := by simpa using isFirst
    apply Graph.least?_le smallest
    rw [listed]
    simp only [List.mem_append, List.mem_cons] at member ⊢
    tauto

namespace Definition

variable {definition : Definition}

theorem firstRepeated_distinct (distinct : definition.nodeIds.Nodup) :
    firstRepeated? [] definition.nodeIds = none := by
  cases found : firstRepeated? [] definition.nodeIds with
  | none => rfl
  | some id =>
    obtain ⟨earlier, later, listed, _, _, repeated⟩ := firstRepeated_some found
    rw [listed] at distinct
    rcases repeated with held | seen
    · exact absurd rfl ((List.nodup_append.mp distinct).2.2 id held id List.mem_cons_self)
    · cases seen

theorem unknownReference_known (known : ∀ edge ∈ definition.edges, definition.Knows edge) :
    unknownReference? definition.nodeIds definition.edges = none := by
  cases found : unknownReference? definition.nodeIds definition.edges with
  | none => rfl
  | some error =>
    obtain ⟨earlier, edge, later, listed, _, fault⟩ := unknownReference_some found
    obtain ⟨source, target⟩ := known edge (by simp [listed])
    rcases fault with ⟨missing, _⟩ | ⟨_, missing, _⟩
    · exact absurd source missing
    · exact absurd target missing

def unplaced (definition : Definition) : List String :=
  definition.nodeIds.filter fun node => !definition.graph.peeled.placed.contains node

/-- A definition with a cycle is refused for a closed cycle of its own edges. -/
theorem reported_cycle_real (distinct : definition.nodeIds.Nodup)
    (known : ∀ edge ∈ definition.edges, definition.Knows edge) {node : String}
    (cyclic : Relation.TransGen definition.Joins node node) :
    ∃ cycle, definition.order = .error (.cycleDetected cycle) ∧
      ClosedCycle definition.Joins cycle ∧
      ∃ start steps loop, Graph.least? (Graph.remaining definition.graph.peeled) = some start ∧
        definition.graph.Walks (Graph.remaining definition.graph.peeled) [] start steps loop ∧
        steps ≤ definition.unplaced.length ∧ OpenCycle definition.Joins loop ∧
        cycle = Graph.closed loop := by
  have proper := graph_proper distinct known
  have accused : ¬definition.graph.Acyclic := fun acyclic =>
    definition.graph_acyclic_iff.mp acyclic node cyclic
  obtain ⟨start, steps, found, least, walks, few, ordered⟩ := Graph.order_cycle proper accused
  have loop := walks.openCycle (.singleton start) List.nodup_nil
  rw [graph_joins] at loop
  have left : (Graph.remaining definition.graph.peeled).length ≤ definition.unplaced.length := by
    apply (List.Nodup.subperm (Graph.remaining_nodup proper) ?_).length_le
    intro node member
    obtain ⟨inGraph, missing⟩ := (Graph.mem_remaining proper node).mp member
    exact List.mem_filter.mpr ⟨inGraph, by simpa using missing⟩
  refine ⟨Graph.closed found, ?_, loop.closedCycle, start, steps, found, least, walks,
    few.trans left, loop, rfl⟩
  rw [order, firstRepeated_distinct distinct, unknownReference_known known]
  dsimp only
  rw [ordered]

/-- Three nodes lie on a cycle, and the least one of the nodes only behind it. -/
def pursued : Definition where
  id := .nil
  name := "pursued"
  nodes := [{ id := "c", nodeType := "passthrough" }, { id := "a", nodeType := "passthrough" },
    { id := "0", nodeType := "passthrough" }, { id := "b", nodeType := "passthrough" }]
  edges := [⟨"c", "0", none⟩, ⟨"b", "c", none⟩, ⟨"c", "a", none⟩, ⟨"a", "b", none⟩]
  createdAt := ⟨0, 0⟩

/-- The walk comes from behind the cycle and goes around it once. -/
theorem pursued_cycle_real :
    ∃ cycle, pursued.order = .error (.cycleDetected cycle) ∧
      cycle = ["a", "b", "c", "a"] ∧ ClosedCycle pursued.Joins cycle := by
  have around : Relation.TransGen pursued.Joins "a" "a" :=
    .tail (.tail (.single ⟨⟨"a", "b", none⟩, by decide, rfl, rfl⟩)
      ⟨⟨"b", "c", none⟩, by decide, rfl, rfl⟩) ⟨⟨"c", "a", none⟩, by decide, rfl, rfl⟩
  obtain ⟨cycle, refused, closed, _⟩ :=
    @reported_cycle_real pursued (by decide) (by simp [pursued, Knows, nodeIds]) "a" around
  have found : pursued.order = .error (.cycleDetected ["a", "b", "c", "a"]) := by decide +kernel
  rw [found] at refused
  cases refused
  exact ⟨_, found, rfl, closed⟩

end Definition

end WorkflowEngine
