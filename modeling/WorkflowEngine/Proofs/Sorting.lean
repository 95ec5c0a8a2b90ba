/-
This file proves that what is sorted by distinct ranks ascends, and that it does not depend on how
it was listed.
-/

import Mathlib.Data.List.Nodup

namespace WorkflowEngine

variable {A R : Type} [LE R] [LT R] [DecidableLE R] [Std.IsLinearOrder R] [Std.LawfulOrderLT R]
  (rank : A → R) {items others : List A}

/-- What is sorted by distinct ranks ascends. -/
theorem mergeSort_ascending (distinct : (items.map rank).Nodup) :
    (items.mergeSort fun left right => rank left ≤ rank right).Pairwise
      fun left right => rank left < rank right := by
  have sorted : (items.mergeSort fun left right => rank left ≤ rank right).Pairwise
      fun left right => decide (rank left ≤ rank right) = true :=
    List.pairwise_mergeSort (by simpa using fun _ _ _ => Std.le_trans)
      (by simpa using fun _ _ => Std.le_total) items
  have apart : ((items.mergeSort fun left right => rank left ≤ rank right).map rank).Nodup :=
    ((List.mergeSort_perm items _).map rank).nodup_iff.mpr distinct
  rw [List.Nodup, List.pairwise_map] at apart
  refine sorted.imp₂ (fun left right ordered different => ?_) apart
  exact Std.lt_of_le_of_ne (by simpa using ordered) different

/-- What is sorted by distinct ranks does not depend on how it was listed. -/
theorem mergeSort_congr (perm : items.Perm others) (distinct : (others.map rank).Nodup) :
    (items.mergeSort fun left right => rank left ≤ rank right) =
      others.mergeSort fun left right => rank left ≤ rank right := by
  have ascending := mergeSort_ascending rank ((perm.map rank).nodup_iff.mpr distinct)
  have sorted := mergeSort_ascending rank distinct
  apply List.Perm.eq_of_pairwise _ ascending sorted
  · exact ((List.mergeSort_perm items _).trans perm).trans (List.mergeSort_perm others _).symm
  · intro left right _ _ less greater
    exact absurd less (Std.not_gt_of_lt greater)

end WorkflowEngine
