/-
This file proves how exact the wait is that a refused request is told. The window reopens at its
end, and the wait leads there wherever the clock tells the time to it rightly.
-/

import WorkflowEngine.Http.Failure
import WorkflowEngine.Proofs.Admission.Refusals
import WorkflowEngine.Proofs.Time.Waiting
import Mathlib.Order.Bounds.Defs

namespace WorkflowEngine.Gate

open Time

def passes (gate : Gate) (webhookId : String) (rate : RateLimit) (time : Timestamp) : Bool :=
  (gate.checkRateLimit webhookId rate time).1.isOk

/-- The next request passes when an exact wait is over, and none passes sooner. -/
structure ExactWait (gate : Gate) (webhookId : String) (rate : RateLimit) (now : Timestamp)
    (wait : Duration) : Prop where
  afterwards : gate.passes webhookId rate (now.plus wait) = true
  sooner : ∀ time, now.le time = true → (now.plus wait).le time = false →
    gate.passes webhookId rate time = false

/-- The wait is exact if and only if the clock reckons with the ending. -/
structure Reopening (gate : Gate) (webhookId : String) (rate : RateLimit) (now : Timestamp)
    (wait : Duration) (ending : Timestamp) : Prop where
  reopens : ∀ time, gate.passes webhookId rate time = ending.le time
  exact_iff : gate.ExactWait webhookId rate now wait ↔ now.Reckons ending
  header : ∃ seconds, (HttpFailure.engine
      (.admission (.rateLimited webhookId wait))).response.retryAfter = some seconds ∧
    IsLeast {count | wait.nanoseconds ≤ (Duration.ofSeconds count).nanoseconds} seconds ∧
    (now.Reckons ending → ∀ time, (now.plus (.ofSeconds seconds)).le time = true →
      gate.passes webhookId rate time = true)

section

variable {gate : Gate} {webhookId : String} {rate : RateLimit} {now : Timestamp}
  {wait : Duration} {window : RateWindow}

theorem passes_iff {time : Timestamp} :
    gate.passes webhookId rate time = true ↔ ¬gate.Spent webhookId rate time :=
  checkRateLimit_isOk

/-- A full window lets requests pass from its end on. -/
theorem passes_of_full (positive : rate.limit ≠ 0)
    (opened : gate.window? webhookId = some window) (full : rate.limit ≤ window.count)
    (time : Timestamp) : gate.passes webhookId rate time =
      (window.start.addSeconds (windowSeconds rate)).le time := by
  rw [Bool.eq_iff_iff, passes_iff]
  constructor
  · intro unspent
    by_contra current
    exact unspent (.inr ⟨window, ⟨opened, Bool.eq_false_iff.mpr current⟩, full⟩)
  · intro ended spent
    obtain ⟨other, stands, _⟩ := spent.resolve_left positive
    cases opened.symm.trans stands.opened
    exact absurd ended (Bool.eq_false_iff.mp stands.current)

/-- A refused request has met a full window, and it is told the time to its end. -/
theorem refused_window (positive : rate.limit ≠ 0)
    (refused : (gate.checkRateLimit webhookId rate now).1 = .error (.rateLimited webhookId wait)) :
    ∃ window, gate.Stands webhookId rate now window ∧ rate.limit ≤ window.count ∧
      wait = (window.start.addSeconds (windowSeconds rate)).durationSince now := by
  have spent : gate.Spent webhookId rate now := by
    by_contra unspent
    have passed := checkRateLimit_isOk.mpr unspent
    rw [refused] at passed
    cases passed
  obtain ⟨window, stands, full⟩ := spent.resolve_left positive
  refine ⟨window, stands, full, ?_⟩
  simp only [checkRateLimit, stands.currentWindow, if_pos full, Except.error.injEq,
    AdmissionError.rateLimited.injEq, true_and] at refused
  exact refused.symm

/-- The window that a refused request has met is still there. -/
theorem refused_keeps (positive : rate.limit ≠ 0) (stands : gate.Stands webhookId rate now window)
    (full : rate.limit ≤ window.count) :
    ∃ later, (gate.checkRateLimit webhookId rate now).2.window? webhookId = some later ∧
      later.start = window.start ∧ rate.limit ≤ later.count := by
  have kept := checkRateLimit_idle (.inr ⟨window, stands, full⟩) positive webhookId
  rw [use?, use?, stands.opened, Option.map_some, Option.map_eq_some_iff] at kept
  obtain ⟨later, opened, same⟩ := kept
  rw [Prod.mk.injEq] at same
  exact ⟨later, opened, same.1, same.2 ▸ full⟩

/-- Where requests pass from an ending on, only the wait that leads there is exact. -/
theorem exactWait_iff {ending : Timestamp} (after : ending.le now = false)
    (reopens : ∀ time, gate.passes webhookId rate time = ending.le time) :
    gate.ExactWait webhookId rate now wait ↔ now.plus wait = ending := by
  constructor
  · intro exactly
    have reached := exactly.afterwards
    rw [reopens] at reached
    apply Timestamp.le_antisymm _ reached
    by_contra early
    have missed :=
      exactly.sooner ending (Timestamp.le_of_not_le after) (Bool.eq_false_iff.mpr early)
    rw [reopens, Timestamp.le_refl] at missed
    cases missed
  · rintro rfl
    constructor
    · rw [reopens, Timestamp.le_refl]
    · intro time _ early
      rw [reopens, early]

/-- A refused request is told the time to the end of the window that it met. -/
theorem refusal_reopens (positive : rate.limit ≠ 0) (proper : now.Proper)
    (started : ∀ window, gate.window? webhookId = some window → window.start.Proper)
    (refused : (gate.checkRateLimit webhookId rate now).1 = .error (.rateLimited webhookId wait)) :
    ∃ window, gate.window? webhookId = some window ∧
      (gate.checkRateLimit webhookId rate now).2.Reopening webhookId rate now wait
        (window.start.addSeconds (windowSeconds rate)) := by
  obtain ⟨window, stands, full, rfl⟩ := refused_window positive refused
  obtain ⟨later, opened, same, filled⟩ := refused_keeps positive stands full
  have reopens := passes_of_full positive opened filled
  rw [same] at reopens
  have bounded := Timestamp.addSeconds_proper (started window stands.opened) (windowSeconds rate)
  refine ⟨window, stands.opened, reopens, ?_, _, rfl, ⟨?_, ?_⟩, ?_⟩
  · rw [exactWait_iff stands.current reopens]
    exact Timestamp.plus_durationSince proper bounded stands.current
  · exact (Duration.secondsRoundedUp_least _ _).mp (Nat.le_refl _)
  · intro count enough
    exact (Duration.secondsRoundedUp_least _ _).mpr enough
  · intro reckons time waited
    have enough := (Duration.secondsRoundedUp_least _ _).mp (Nat.le_refl
      ((window.start.addSeconds (windowSeconds rate)).durationSince now).secondsRoundedUp)
    have reached := Timestamp.plus_mono proper enough
    rw [reckons.plus_durationSince proper bounded stands.current] at reached
    rw [reopens]
    exact Timestamp.le_trans reached waited

end

/-- This gate has let as many requests pass as its rate allows. -/
def visited (start : Timestamp) : Gate :=
  (Gate.checkRateLimit ⟨⟨.standard, []⟩, [], [], []⟩ "orders" ⟨1, 60⟩ start).2

/-- A clock behind the start of the window makes the wait longer than the window. -/
theorem refusal_reopens_skewed :
    let now : Timestamp := ⟨95, 999999999⟩
    let checked := (visited ⟨100, 0⟩).checkRateLimit "orders" ⟨1, 60⟩ now
    checked.1 = .error (.rateLimited "orders" ⟨64000000001⟩) ∧
      checked.2.ExactWait "orders" ⟨1, 60⟩ now ⟨64000000001⟩ ∧
      (HttpFailure.engine (.admission (.rateLimited "orders" ⟨64000000001⟩))).response.retryAfter =
        some 65 := by
  intro now checked
  have refused : checked.1 = .error (.rateLimited "orders" ⟨64000000001⟩) := by decide
  have opened : (visited ⟨100, 0⟩).window? "orders" = some ⟨⟨100, 0⟩, 1, 1⟩ := by decide
  have proper : now.Proper := by
    unfold Timestamp.Proper
    decide
  have started : ∀ window, (visited ⟨100, 0⟩).window? "orders" = some window →
      window.start.Proper := by
    intro window same
    cases opened.symm.trans same
    unfold Timestamp.Proper
    decide
  obtain ⟨window, same, reopening⟩ := refusal_reopens (by decide) proper started refused
  cases opened.symm.trans same
  refine ⟨refused, reopening.exact_iff.mpr (.ordinary ?_ ?_), by decide⟩ <;>
    · unfold Timestamp.Ordinary
      decide

/-- A wait that begins in a leap second at the end of a day is a second too short. -/
theorem leap_second_overlooked :
    let now : Timestamp := ⟨1483228799, 1500000000⟩
    let checked := (visited ⟨1483228770, 0⟩).checkRateLimit "orders" ⟨1, 60⟩ now
    checked.1 = .error (.rateLimited "orders" ⟨29500000000⟩) ∧
      checked.2.passes "orders" ⟨1, 60⟩ (now.plus ⟨29500000000⟩) = false ∧
      (HttpFailure.engine (.admission (.rateLimited "orders" ⟨29500000000⟩))).response.retryAfter =
        some 30 ∧
      checked.2.passes "orders" ⟨1, 60⟩ (now.plus (.ofSeconds 30)) = false := by
  decide

end WorkflowEngine.Gate
