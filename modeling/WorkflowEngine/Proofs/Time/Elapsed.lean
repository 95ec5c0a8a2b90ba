/-
This file relates the order of timestamps to the time that passes. A second that is followed by a
leap second lasts twice as long, and a leap second is named by the second before it.
-/

import WorkflowEngine.Time.Timestamp
import Mathlib.Data.List.Count

namespace WorkflowEngine.Time.Timestamp

/-- A timestamp occurs in an ordinary second or in a leap second of the clock. -/
def Occurs (leaps : List Int) (time : Timestamp) : Prop :=
  time.fraction < billion ∨ time.fraction < 2 * billion ∧ time.seconds ∈ leaps

/-- The clock goes through the given leap seconds. -/
def elapsed (leaps : List Int) (time : Timestamp) : Int :=
  (time.seconds + leaps.countP fun leap => leap < time.seconds) * billion + time.fraction

theorem le_iff (left right : Timestamp) : left.le right = true ↔
    left.seconds < right.seconds ∨
      left.seconds = right.seconds ∧ left.fraction ≤ right.fraction := by
  simp [le]

theorem le_refl (time : Timestamp) : time.le time = true := by
  simp [le_iff]

theorem leaps_mono (leaps : List Int) {earlier later : Int} (ordered : earlier ≤ later) :
    (leaps.countP fun leap => leap < earlier) ≤ leaps.countP fun leap => leap < later := by
  apply List.countP_mono_left
  intro leap _ before
  simp only [decide_eq_true_eq] at before ⊢
  omega

/-- A leap second in between is counted. -/
theorem leaps_between {leaps : List Int} {leap earlier later : Int} (member : leap ∈ leaps)
    (after : earlier ≤ leap) (before : leap < later) :
    (leaps.countP fun other => other < earlier) + 1 ≤
      leaps.countP fun other => other < later := by
  obtain ⟨front, back, rfl⟩ := List.append_of_mem member
  have ordered : earlier ≤ later := by omega
  have one := leaps_mono front ordered
  have two := leaps_mono back ordered
  have past : ¬leap < earlier := by omega
  simp only [List.countP_append, List.countP_cons, decide_eq_true_eq, past, before, if_true,
    if_false]
  omega

/-- The clock never runs back. -/
theorem elapsed_mono {leaps : List Int} {earlier later : Timestamp} (occurs : earlier.Occurs leaps)
    (ordered : earlier.le later = true) : earlier.elapsed leaps ≤ later.elapsed leaps := by
  rw [le_iff] at ordered
  simp only [elapsed, Occurs, billion] at occurs ⊢
  rcases ordered with before | ⟨same, fraction⟩
  · have mono := leaps_mono leaps (Int.le_of_lt before)
    rcases occurs with ordinary | ⟨bound, leap⟩
    · omega
    · have counted := leaps_between leap (Int.le_refl _) before
      omega
  · rw [same]
    omega

theorem Occurs.addSeconds {leaps : List Int} {time : Timestamp} (occurs : time.Occurs leaps)
    (count : Nat) : (time.addSeconds count).Occurs leaps := by
  unfold Timestamp.addSeconds
  split
  · exact occurs
  · exact Or.inl (Nat.mod_lt _ (by decide))

/-- At least as many seconds pass as are added. -/
theorem elapsed_addSeconds {leaps : List Int} {time : Timestamp} (occurs : time.Occurs leaps)
    (count : Nat) :
    time.elapsed leaps + count * billion ≤ (time.addSeconds count).elapsed leaps := by
  by_cases none : count = 0
  · simp [addSeconds, none]
  · have before : time.seconds < time.seconds + count := by omega
    have mono := leaps_mono leaps (Int.le_of_lt before)
    simp only [addSeconds, if_neg none, elapsed, Occurs, billion] at occurs ⊢
    rcases occurs with ordinary | ⟨bound, leap⟩
    · omega
    · have counted := leaps_between leap (Int.le_refl _) before
      omega

end WorkflowEngine.Time.Timestamp
