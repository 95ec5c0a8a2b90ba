/-
This file proves that the layout of saved records in the order of a plan loses nothing. Every place
of the order has its record, every saved record has one place, and the order in which the records
were read does not matter.
-/

import WorkflowEngine.Proofs.Sorting
import WorkflowEngine.Store.Durable

namespace WorkflowEngine.StepRecord

/-- For a step stands its saved record, or else a pending one. -/
inductive StandsFor (saved : List StepRecord) (nodeId : String) : StepRecord → Prop where
  | saved {record : StepRecord} (listed : record ∈ saved) (named : record.nodeId = nodeId) :
    StandsFor saved nodeId record
  | pending (unsaved : nodeId ∉ saved.map StepRecord.nodeId) :
    StandsFor saved nodeId (.pending nodeId)

def placed (saved : List StepRecord) (nodeId : String) : StepRecord :=
  (saved.find? fun step => step.nodeId == nodeId).getD (.pending nodeId)

def unplaced (order : List String) (saved : List StepRecord) : List StepRecord :=
  (saved.filter fun step => step.nodeId ∉ order).mergeSort
    fun left right => left.nodeId ≤ right.nodeId

variable {order : List String} {saved shuffled : List StepRecord}

theorem placed_standsFor (saved : List StepRecord) (nodeId : String) :
    StandsFor saved nodeId (placed saved nodeId) := by
  unfold placed
  cases found : saved.find? fun step => step.nodeId == nodeId with
  | some record =>
    exact .saved (List.mem_of_find?_eq_some found) (by simpa using List.find?_some found)
  | none =>
    refine .pending fun listed => ?_
    obtain ⟨record, member, named⟩ := List.mem_map.mp listed
    exact List.find?_eq_none.mp found record member (by simpa using named)

theorem StandsFor.named {nodeId : String} {record : StepRecord}
    (stands : StandsFor saved nodeId record) : record.nodeId = nodeId := by
  cases stands with
  | saved listed named => exact named
  | pending unsaved => rfl

/-- Among records with distinct names only one stands for a step. -/
theorem StandsFor.unique {nodeId : String} {record other : StepRecord}
    (distinct : (saved.map StepRecord.nodeId).Nodup) (one : StandsFor saved nodeId record)
    (two : StandsFor saved nodeId other) : record = other := by
  cases one with
  | saved listed named =>
    cases two with
    | saved present same =>
      exact List.inj_on_of_nodup_map distinct listed present (named.trans same.symm)
    | pending unsaved => exact absurd (List.mem_map.mpr ⟨record, listed, named⟩) unsaved
  | pending unsaved =>
    cases two with
    | saved present same => exact absurd (List.mem_map.mpr ⟨other, present, same⟩) unsaved
    | pending => rfl

/-- A saved record stands at the place of its step. -/
theorem placed_saved (distinct : (saved.map StepRecord.nodeId).Nodup) {record : StepRecord}
    (listed : record ∈ saved) : placed saved record.nodeId = record :=
  (placed_standsFor saved record.nodeId).unique distinct (.saved listed rfl)

theorem StandsFor.perm {nodeId : String} {record : StepRecord}
    (stands : StandsFor shuffled nodeId record) (perm : shuffled.Perm saved) :
    StandsFor saved nodeId record := by
  cases stands with
  | saved listed named => exact .saved (perm.subset listed) named
  | pending unsaved => exact .pending fun listed => unsaved ((perm.map _).mem_iff.mpr listed)

theorem placed_congr (distinct : (saved.map StepRecord.nodeId).Nodup)
    (perm : shuffled.Perm saved) (nodeId : String) :
    placed shuffled nodeId = placed saved nodeId :=
  ((placed_standsFor shuffled nodeId).perm perm).unique distinct (placed_standsFor saved nodeId)

/-- The layout consists of the places of the order and of the records without a place. -/
theorem inPlanOrder_eq (unrepeated : order.Nodup) (saved : List StepRecord) :
    inPlanOrder order saved = order.map (placed saved) ++ unplaced order saved := by
  induction order generalizing saved with
  | nil => simp [inPlanOrder, unplaced]
  | cons nodeId order inductionHypothesis =>
    obtain ⟨fresh, unrepeated⟩ := List.nodup_cons.mp unrepeated
    -- What the first place takes away is not looked for at the later ones.
    have later : order.map (placed (saved.filter fun step => step.nodeId != nodeId)) =
        order.map (placed saved) := by
      refine List.map_congr_left fun other member => ?_
      have different : other ≠ nodeId := fun same => fresh (same ▸ member)
      unfold placed
      rw [List.find?_filter]
      congr 2
      funext step
      by_cases named : step.nodeId = other <;> simp [named, different]
    have rest : unplaced order (saved.filter fun step => step.nodeId != nodeId) =
        unplaced (nodeId :: order) saved := by
      unfold unplaced
      rw [List.filter_filter]
      congr 2
      funext step
      by_cases named : step.nodeId = nodeId <;> simp [named]
    rw [inPlanOrder, inductionHypothesis unrepeated, later, rest, List.map_cons, List.cons_append]
    rfl

theorem unplaced_perm (order : List String) (saved : List StepRecord) :
    (unplaced order saved).Perm (saved.filter fun step => step.nodeId ∉ order) :=
  List.mergeSort_perm _ _

theorem unplaced_distinct (distinct : (saved.map StepRecord.nodeId).Nodup)
    (order : List String) :
    ((saved.filter fun step => step.nodeId ∉ order).map StepRecord.nodeId).Nodup :=
  distinct.sublist (List.filter_sublist.map _)

/-- A layout names no step twice. -/
theorem inPlanOrder_distinct (unrepeated : order.Nodup)
    (distinct : (saved.map StepRecord.nodeId).Nodup) :
    ((inPlanOrder order saved).map StepRecord.nodeId).Nodup := by
  have names : (order.map (placed saved)).map StepRecord.nodeId = order := by
    rw [List.map_map]
    exact (List.map_congr_left fun nodeId _ => (placed_standsFor saved nodeId).named).trans
      (List.map_id order)
  have others := (unplaced_perm order saved).map StepRecord.nodeId
  rw [inPlanOrder_eq unrepeated, List.map_append, names, List.nodup_append]
  refine ⟨unrepeated, others.nodup_iff.mpr (unplaced_distinct distinct order), ?_⟩
  intro nodeId inside other outside same
  subst same
  obtain ⟨record, member, named⟩ := List.mem_map.mp (others.subset outside)
  have missing := (List.mem_filter.mp member).2
  rw [named] at missing
  simp [inside] at missing

theorem mem_inPlanOrder (unrepeated : order.Nodup)
    (distinct : (saved.map StepRecord.nodeId).Nodup) {record : StepRecord}
    (listed : record ∈ saved) : record ∈ inPlanOrder order saved := by
  rw [inPlanOrder_eq unrepeated, List.mem_append]
  by_cases inside : record.nodeId ∈ order
  · exact .inl (List.mem_map.mpr ⟨record.nodeId, inside, placed_saved distinct listed⟩)
  · exact .inr ((unplaced_perm order saved).symm.subset
      (List.mem_filter.mpr ⟨listed, decide_eq_true inside⟩))

/-- The records of a plan are laid out in its order, however they were saved. -/
theorem inPlanOrder_perm {steps : List StepRecord}
    (distinct : (steps.map StepRecord.nodeId).Nodup) (shuffled : saved.Perm steps) :
    inPlanOrder (steps.map StepRecord.nodeId) saved = steps := by
  have places : (steps.map StepRecord.nodeId).map (placed saved) = steps := by
    rw [List.map_map]
    apply (List.map_congr_left _).trans (List.map_id steps)
    intro step member
    exact (placed_congr distinct shuffled step.nodeId).trans (placed_saved distinct member)
  have none : unplaced (steps.map StepRecord.nodeId) saved = [] := by
    rw [← List.perm_nil, ← List.filter_eq_nil_iff.mpr _]
    · exact unplaced_perm _ saved
    · intro step member
      simpa using ⟨step, shuffled.subset member, rfl⟩
  rw [inPlanOrder_eq distinct, places, none, List.append_nil]

/-- The layout depends on no order of reading and loses no record. -/
theorem inPlanOrder_lossless (unrepeated : order.Nodup)
    (distinct : (saved.map StepRecord.nodeId).Nodup) :
    (∃ front rest, inPlanOrder order saved = front ++ rest ∧
      List.Forall₂ (StandsFor saved) order front ∧
      rest.Perm (saved.filter fun step => step.nodeId ∉ order) ∧
      rest.Pairwise fun left right => left.nodeId < right.nodeId) ∧
    (∀ record ∈ saved, (inPlanOrder order saved).count record = 1) ∧
    ∀ shuffled : List StepRecord, shuffled.Perm saved →
      inPlanOrder order shuffled = inPlanOrder order saved := by
  refine ⟨⟨_, _, inPlanOrder_eq unrepeated saved, ?_, unplaced_perm order saved, ?_⟩, ?_, ?_⟩
  · rw [List.forall₂_map_right_iff, List.forall₂_same]
    exact fun nodeId _ => placed_standsFor saved nodeId
  · exact mergeSort_ascending StepRecord.nodeId (unplaced_distinct distinct order)
  · intro record listed
    exact List.count_eq_one_of_mem (inPlanOrder_distinct unrepeated distinct).of_map
      (mem_inPlanOrder unrepeated distinct listed)
  · intro shuffled perm
    have places : order.map (placed shuffled) = order.map (placed saved) :=
      List.map_congr_left fun nodeId _ => placed_congr distinct perm nodeId
    have others : unplaced order shuffled = unplaced order saved :=
      mergeSort_congr StepRecord.nodeId (perm.filter _) (unplaced_distinct distinct order)
    rw [inPlanOrder_eq unrepeated, inPlanOrder_eq unrepeated, places, others]

/-- One of the two records belongs to no step of the order. -/
theorem strayRecord_lossless :
    let saved : List StepRecord := [⟨"z", .running, 2, none, none, none, none⟩, .pending "b"]
    inPlanOrder ["a", "b"] saved =
      [.pending "a", .pending "b", ⟨"z", .running, 2, none, none, none, none⟩] ∧
    inPlanOrder ["a", "b"] saved.reverse = inPlanOrder ["a", "b"] saved ∧
    ∀ record ∈ saved, (inPlanOrder ["a", "b"] saved).count record = 1 := by
  intro saved
  obtain ⟨_, once, same⟩ := @inPlanOrder_lossless ["a", "b"] saved (by decide) (by decide)
  exact ⟨by decide +kernel, same _ (List.reverse_perm _), once⟩

end WorkflowEngine.StepRecord
