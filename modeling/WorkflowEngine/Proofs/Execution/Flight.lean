/-
This file proves which steps are in flight after a turn: a step lands when it has reported or is
lost, and flies once it is launched.
-/

import WorkflowEngine.Proofs.Execution.Steady
import WorkflowEngine.Proofs.Execution.Validity

namespace WorkflowEngine.Run

/-- A step flies from its launch to its report. -/
def aloft (run : Run) (input : Input) : List Nat :=
  match run.phase, input with
  | .waiting, .reported report => run.inFlight.erase report.index
  | .waiting, .lost index _ => run.inFlight.erase index
  | _, _ => run.inFlight

theorem releaseSuccessors_inFlight (run : Run) (index : Nat) :
    (run.releaseSuccessors index).inFlight = run.inFlight := by
  have released (run : Run) (target : Nat) : (run.releaseStep target).inFlight = run.inFlight := by
    unfold releaseStep
    dsimp only
    split <;> rfl
  unfold releaseSuccessors
  induction run.successors index generalizing run with
  | nil => rfl
  | cons first rest inductionHypothesis =>
    exact (inductionHypothesis (run.releaseStep first)).trans (released run first)

theorem afterSave_inFlight (run : Run) (now : Moment) (outcome : Except StoreError Unit)
    (errand : Errand) : (run.afterSave now outcome errand).run.inFlight =
      run.inFlight ++ launches errand outcome := by
  have steady := inFlight_steady
  cases errand with
  | opening =>
    simp only [afterSave, Turn.andThen, launches, List.append_nil]
    rw [steady.proceed, steady.enter, steady.checkSave]
  | dispatching index previous =>
    cases outcome with
    | ok => exact steady.proceed _ now
    | error error =>
      simp only [afterSave, Turn.andThen, launches, List.append_nil, haltOnStore]
      rw [steady.proceed, steady.halt, steady.modifyRecord]
  | settling index released halt =>
    simp only [afterSave, Turn.andThen, launches, List.append_nil]
    split
    · rw [steady.settled, releaseSuccessors_inFlight, steady.checkSave]
    · split
      · rw [steady.tellSkipped, skipSuccessors, steady.skipFrom, steady.checkSave]
      · rw [steady.settled, steady.checkSave]
  | skipping index rest halt =>
    simp only [afterSave, Turn.andThen, launches, List.append_nil]
    rw [steady.tellSkipped, steady.checkSave]
  | sweeping ending index rest =>
    simp only [afterSave, launches, List.append_nil]
    exact steady.sweep run ending rest
  | closing ending =>
    simp only [afterSave, launches, List.append_nil]
    exact steady.closeDown run ending outcome

/-- A step flies on unless it has landed, or begins as it is launched. -/
theorem advance_inFlight (run : Run) (now : Moment) {input : Input}
    (inside : ∀ report, input = .reported report → report.index < run.plan.steps.length) :
    (run.advance now input).run.inFlight = run.aloft input ++ run.launching input := by
  have takes := run.advance_takes now input
  generalize run.advance now input = turn at takes ⊢
  cases takes with
  | opened phase => simp [aloft, launching, phase, start, save]
  | @saved errand failures outcome phase =>
    simp only [aloft, launching, phase]
    cases outcome with
    | ok => exact afterSave_inFlight run now (.ok ()) errand
    | error error =>
      have quiet : launches errand (.error error) = [] := by cases errand <;> rfl
      unfold saved
      dsimp only
      split
      · exact afterSave_inFlight run now (.error error) errand
      · rw [quiet, List.append_nil]
  | rested phase => simp [aloft, launching, phase]
  | @reported report phase =>
    have found := List.getElem?_eq_getElem (inside report rfl)
    simp only [aloft, launching, phase, settle, found, List.append_nil]
    rfl
  | lost phase =>
    simp only [aloft, launching, phase, Turn.andThen, List.append_nil]
    rw [inFlight_steady.proceed, inFlight_steady.halt]
  | cancelled phase =>
    simp only [aloft, launching, phase, Turn.andThen, List.append_nil]
    rw [inFlight_steady.proceed, inFlight_steady.halt]
  | expired phase =>
    simp only [aloft, launching, phase, Turn.andThen, List.append_nil]
    rw [inFlight_steady.proceed, inFlight_steady.halt]
  | idle unsaved unreported unlost =>
    rw [launching_unsaved unsaved, List.append_nil]
    unfold aloft
    split
    · next report phase => exact absurd rfl (unreported report phase)
    · next index detail phase => exact absurd rfl (unlost index detail phase)
    · rfl

end WorkflowEngine.Run
