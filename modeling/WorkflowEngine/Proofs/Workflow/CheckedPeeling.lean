/-
This file peels a graph with every lookup and every subtraction checked. On a proper graph no check
fails, the rounds end because no node is ready, and the walk along predecessors always goes on.
-/

import WorkflowEngine.Proofs.Table
import WorkflowEngine.Proofs.Workflow.Peeling

namespace WorkflowEngine

namespace Graph

def tabulate {V : Type} (graph : Graph) (value : String → V) : Table String V :=
  graph.nodes.map fun node => (node, value node)

/-- A node without an edge to remove fails. -/
def release? (graph : Graph) (peeling : Peeling) (node : String) : Option Peeling := do
  let degree ← (graph.tabulate graph.degree).get? node
  match ← peeling.entering.get? node with
  | 0 => none
  | left + 1 =>
    some { peeling with
      entering := peeling.entering.insert node left
      ready := if left = 0 then enqueue (degree, node) peeling.ready else peeling.ready }

/-- A count that is used up too early fails. -/
def peel? (graph : Graph) : Nat → Peeling → Option Peeling
  | 0, peeling => if peeling.ready.isEmpty then some peeling else none
  | count + 1, peeling =>
    match peeling.ready with
    | [] => some peeling
    | (_, node) :: rest => do
      let successors ← (graph.tabulate graph.successors).get? node
      let released ← successors.foldlM graph.release?
        { peeling with ready := rest, placed := peeling.placed ++ [node] }
      graph.peel? count released

/-- A node without predecessors fails, and so does a walk without a repetition. -/
def walk? (graph : Graph) (within : List String) : Nat → List String → String →
    Option (List String)
  | 0, _, _ => none
  | fuel + 1, path, node =>
    if path.contains node then some ((path.takeWhile fun visited => visited != node) ++ [node])
    else do
      let sources ← (graph.tabulate graph.predecessors).get? node
      let source ← least? (sources.filter fun source => within.contains source)
      graph.walk? within fuel (node :: path) source

/-- A graph without remaining nodes fails. -/
def findCycle? (graph : Graph) (within : List String) : Option (List String) := do
  let start ← least? within
  let cycle ← graph.walk? within (within.length + 1) [] start
  some (closed cycle)

def order? (graph : Graph) : Option (Except (List String) (List String)) := do
  let result ← graph.peel? graph.nodes.length graph.startPeeling
  if result.placed.length = graph.nodes.length then some (.ok result.placed)
  else
    let cycle ← graph.findCycle? (remaining result)
    some (.error cycle)

theorem get_tabulate {V : Type} {graph : Graph} (value : String → V) {node : String}
    (member : node ∈ graph.nodes) : (graph.tabulate value).get? node = some (value node) :=
  get_map graph.nodes value member

variable {graph : Graph}

/-- A node that is pending has an edge to remove. -/
theorem release_checked {peeling : Peeling} {node : String} {pending : List String}
    (known : node ∈ graph.nodes) (sound : peeling.Sound graph (node :: pending)) :
    graph.release? peeling node = some (graph.release peeling node) := by
  have count := sound.entering node known
  simp only [List.mem_cons, true_or, if_true] at count
  simp [release?, release, get_tabulate graph.degree known, count]

/-- The successors of a placed node are released without a miss. -/
theorem releaseAll_checked {peeling : Peeling} {pending : List String}
    (known : ∀ node ∈ pending, node ∈ graph.nodes) (distinct : pending.Nodup)
    (unplaced : ∀ node ∈ pending, node ∉ peeling.placed) (sound : peeling.Sound graph pending) :
    pending.foldlM graph.release? peeling = some (pending.foldl graph.release peeling) := by
  induction pending generalizing peeling with
  | nil => rfl
  | cons first rest inductionHypothesis =>
    have parts := List.nodup_cons.mp distinct
    have knownFirst := known first List.mem_cons_self
    have unplacedFirst := unplaced first List.mem_cons_self
    simp only [List.foldlM_cons, List.foldl_cons, release_checked knownFirst sound,
      Option.bind_eq_bind, Option.bind_some]
    apply inductionHypothesis (fun node member => known node (List.mem_cons_of_mem _ member))
      parts.2
    · intro node member
      rw [release_placed]
      exact unplaced node (List.mem_cons_of_mem _ member)
    · exact sound.release knownFirst parts.1 unplacedFirst

theorem releaseAll_placed (peeling : Peeling) (nodes : List String) :
    (nodes.foldl graph.release peeling).placed = peeling.placed := by
  induction nodes generalizing peeling with
  | nil => rfl
  | cons first rest inductionHypothesis =>
    exact (inductionHypothesis _).trans (release_placed graph peeling first)

/-- A count that covers the nodes left to place ends the rounds. -/
theorem peel_checked (proper : graph.Proper) (count : Nat) {peeling : Peeling}
    (sound : peeling.Sound graph []) (covered : count + peeling.placed.length = graph.nodes.length) :
    graph.peel? count peeling = some (graph.peel count peeling) := by
  induction count generalizing peeling with
  | zero =>
    have whole : peeling.placed.Perm graph.nodes :=
      (List.Nodup.subperm sound.placedDistinct sound.placedKnown).perm_of_length_le (by omega)
    have drained : peeling.ready = [] := by
      rw [List.eq_nil_iff_forall_not_mem]
      intro entry member
      have facts := (sound.readyIff entry.2).mp (List.mem_map.mpr ⟨entry, member, rfl⟩)
      exact facts.2.1 (whole.mem_iff.mpr facts.1)
    simp [peel?, peel, drained]
  | succ count inductionHypothesis =>
    cases first : peeling.ready with
    | nil => simp only [peel?, peel, first]
    | cons entry rest =>
      obtain ⟨rank, node⟩ := entry
      have member : (rank, node) ∈ peeling.ready := first ▸ List.mem_cons_self
      have known := ((sound.readyIff node).mp (List.mem_map.mpr ⟨_, member, rfl⟩)).1
      have released := releaseAll_checked (successors_known proper node)
        (successors_nodup proper node) (sound.successors_unplaced member) (sound.place proper first)
      simp only [peel?, peel, first, get_tabulate graph.successors known, released,
        Option.bind_eq_bind, Option.bind_some]
      apply inductionHypothesis (sound.round proper first)
      simp only [releaseAll_placed, List.length_append, List.length_singleton]
      omega

theorem peel?_drained (count : Nat) {peeling result : Peeling}
    (peels : graph.peel? count peeling = some result) : result.ready = [] := by
  induction count generalizing peeling with
  | zero =>
    simp only [peel?] at peels
    split at peels
    · next empty =>
      cases peels
      exact List.isEmpty_iff.mp empty
    · cases peels
  | succ count inductionHypothesis =>
    simp only [peel?] at peels
    split at peels
    · next empty =>
      cases peels
      exact empty
    · obtain ⟨_, _, rest⟩ := Option.bind_eq_some_iff.mp peels
      obtain ⟨_, _, last⟩ := Option.bind_eq_some_iff.mp rest
      exact inductionHypothesis last

theorem peeled_checked (proper : graph.Proper) :
    graph.peel? graph.nodes.length graph.startPeeling = some graph.peeled :=
  peel_checked proper _ (startPeeling_sound proper) (by simp [startPeeling])

/-- The peeling of a graph goes on until no node is ready. -/
theorem peeled_drained (proper : graph.Proper) : graph.peeled.ready = [] :=
  peel?_drained _ (peeled_checked proper)

theorem release_keys (peeling : Peeling) (node : String) :
    (graph.release peeling node).entering.map Prod.fst = peeling.entering.map Prod.fst := by
  unfold release
  split
  · next found => exact Table.insert_keys found _
  · rfl

theorem releaseAll_keys (peeling : Peeling) (nodes : List String) :
    (nodes.foldl graph.release peeling).entering.map Prod.fst =
      peeling.entering.map Prod.fst := by
  induction nodes generalizing peeling with
  | nil => rfl
  | cons first rest inductionHypothesis =>
    exact (inductionHypothesis _).trans (release_keys peeling first)

theorem peel_keys (count : Nat) (peeling : Peeling) :
    (graph.peel count peeling).entering.map Prod.fst = peeling.entering.map Prod.fst := by
  induction count generalizing peeling with
  | zero => rfl
  | succ count inductionHypothesis =>
    simp only [peel]
    split
    · rfl
    · exact (inductionHypothesis _).trans (releaseAll_keys _ _)

/-- The nodes that remain are those that are not placed. -/
theorem mem_remaining (proper : graph.Proper) (node : String) :
    node ∈ remaining graph.peeled ↔ node ∈ graph.nodes ∧ node ∉ graph.peeled.placed := by
  have sound := peeled_sound proper
  have keys : graph.peeled.entering.map Prod.fst = graph.nodes := by
    simp [peeled, peel_keys, startPeeling, Function.comp_def]
  have count (known : node ∈ graph.nodes) : graph.peeled.entering.get? node =
      some (graph.awaited graph.peeled.placed node) := by
    simpa using sound.entering node known
  have ready := sound.readyIff node
  simp only [peeled_drained proper, List.map_nil, List.not_mem_nil, not_false_eq_true, and_true,
    false_iff, not_and] at ready
  simp only [remaining, List.mem_map, List.mem_filter, bne_iff_ne]
  constructor
  · rintro ⟨⟨name, left⟩, ⟨member, positive⟩, rfl⟩
    have known : name ∈ graph.nodes := keys ▸ List.mem_map_of_mem member
    have left_eq := Table.get_of_mem (keys ▸ proper.nodesDistinct) member
    rw [count known, Option.some.injEq] at left_eq
    refine ⟨known, fun placed => positive ?_⟩
    -- the predecessors of a placed node are placed before it
    rw [← left_eq, awaited_eq_zero]
    intro source entering
    have ordered := sound.placedOrdered _ ((mem_predecessors graph source name).mp entering) placed
    exact List.idxOf_lt_length_iff.mp
      (Nat.lt_trans ordered (List.idxOf_lt_length_iff.mpr placed))
  · rintro ⟨known, unplaced⟩
    exact ⟨_, ⟨Table.mem_of_get (count known), ready known unplaced⟩, rfl⟩

/-- Every node that remains has a predecessor that remains. -/
theorem remaining_entered (proper : graph.Proper) {node : String}
    (member : node ∈ remaining graph.peeled) :
    ∃ source ∈ remaining graph.peeled, source ∈ graph.predecessors node := by
  obtain ⟨known, unplaced⟩ := (mem_remaining proper node).mp member
  have ready := ((peeled_sound proper).readyIff node).not.mp (by simp [peeled_drained proper])
  simp only [known, unplaced, awaited_eq_zero, List.not_mem_nil, not_false_eq_true, and_true,
    true_and, not_forall] at ready
  obtain ⟨source, entering, open'⟩ := ready
  have edge := (mem_predecessors graph source node).mp entering
  exact ⟨source, (mem_remaining proper source).mpr ⟨(proper.endsKnown _ edge).1, open'⟩, entering⟩

/-- Where the number of placed nodes falls short, some node is not placed. -/
theorem exists_unplaced (proper : graph.Proper)
    (incomplete : graph.peeled.placed.length ≠ graph.nodes.length) :
    ∃ node ∈ graph.nodes, node ∉ graph.peeled.placed := by
  by_contra all
  push Not at all
  have sound := peeled_sound proper
  have fewer := (List.Nodup.subperm sound.placedDistinct sound.placedKnown).length_le
  have more := (List.Nodup.subperm proper.nodesDistinct all).length_le
  exact incomplete (Nat.le_antisymm fewer more)

theorem least?_some {texts : List String} {text : String} (member : text ∈ texts) :
    ∃ least ∈ texts, least? texts = some least := by
  obtain ⟨first, rest, rfl⟩ := List.exists_cons_of_ne_nil (List.ne_nil_of_mem member)
  refine ⟨_, ?_, rfl⟩
  clear member
  induction rest generalizing first with
  | nil => simp
  | cons second rest inductionHypothesis =>
    simp only [List.foldl_cons]
    have found := inductionHypothesis (if second < first then second else first)
    rcases List.mem_cons.mp found with same | inRest
    · rw [same]
      split <;> simp
    · exact List.mem_cons_of_mem _ (List.mem_cons_of_mem _ inRest)

/-- A walk among nodes that are entered from among them goes on until a node repeats. -/
theorem walk_checked {within : List String} (known : ∀ node ∈ within, node ∈ graph.nodes)
    (entered : ∀ node ∈ within, ∃ source ∈ within, source ∈ graph.predecessors node)
    (fuel : Nat) {path : List String} {node : String} (inside : path ⊆ within)
    (distinct : path.Nodup) (member : node ∈ within)
    (enough : fuel + path.length = within.length + 1) :
    graph.walk? within fuel path node = some (graph.walk within fuel path node) := by
  induction fuel generalizing path node with
  | zero =>
    have short := (List.Nodup.subperm distinct inside).length_le
    omega
  | succ fuel inductionHypothesis =>
    simp only [walk?, walk]
    split
    · rfl
    · next fresh =>
      obtain ⟨entry, inWithin, entering⟩ := entered node member
      obtain ⟨source, chosen, least⟩ := least?_some
        (List.mem_filter.mpr ⟨entering, by simpa using inWithin⟩ :
          entry ∈ (graph.predecessors node).filter fun source => within.contains source)
      simp only [get_tabulate graph.predecessors (known node member), leastPredecessor?, least,
        Option.bind_eq_bind, Option.bind_some]
      apply inductionHypothesis
      · exact List.cons_subset.mpr ⟨member, inside⟩
      · exact List.nodup_cons.mpr ⟨by simpa using fresh, distinct⟩
      · simpa using (List.mem_filter.mp chosen).2
      · simp only [List.length_cons]
        omega

/-- On a proper graph no check of the ordering fails. -/
theorem order_checked (proper : graph.Proper) : graph.order? = some graph.order := by
  simp only [order?, peeled_checked proper, Option.bind_eq_bind, Option.bind_some, Graph.order]
  split
  · rfl
  · next incomplete =>
    obtain ⟨node, known, unplaced⟩ := exists_unplaced proper incomplete
    obtain ⟨start, inside, least⟩ :=
      least?_some ((mem_remaining proper node).mpr ⟨known, unplaced⟩)
    have walked := walk_checked (fun node member => ((mem_remaining proper node).mp member).1)
      (fun node member => remaining_entered proper member)
      ((remaining graph.peeled).length + 1) (List.nil_subset _) List.nodup_nil inside (by simp)
    simp [findCycle?, findCycle, least, walked]

end Graph

end WorkflowEngine
