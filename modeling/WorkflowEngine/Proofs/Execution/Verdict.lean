/-
This file proves how the state of the execution follows the phases of its run, and that the verdict
at the end is the one of the first halt.
-/

import WorkflowEngine.Proofs.Execution.Conduct

namespace WorkflowEngine.Run

/-- A run ends in this state, with the reason of a failure. -/
def verdict : Option Halt → ExecutionStatus × Option FailureReason
  | none => (.succeeded, none)
  | some .cancelled => (.cancelled, none)
  | some (.failed reason) => (.failed, some reason)

def shown (run : Run) : ExecutionStatus × Option FailureReason :=
  (run.execution.status, run.execution.failure)

/-- An open run shows that it is under way until its verdict is saved. -/
def Open (run : Run) : Prop :=
  match run.phase with
  | .unopened => run.execution.status = .pending
  | .saving (.closing _) _ => run.shown = verdict run.halted
  | .pausing (.closing _) _ => run.shown = verdict run.halted
  | .closed => False
  | _ => run.execution.status = .running

/-- Only a run that saves or pauses has an errand. -/
def errand? (run : Run) : Option Errand :=
  match run.phase with
  | .saving errand _ => some errand
  | .pausing errand _ => some errand
  | _ => none

/-- The failures of the save under way are counted. -/
def failures (run : Run) : UInt32 :=
  match run.phase with
  | .saving _ failures => failures
  | .pausing _ failures => failures
  | _ => 0

/-- A run that enters a phase anew is open and has counted no failures. -/
structure Entered (run : Run) : Prop where
  opened : run.Open
  unfailed : run.failures = 0

def finalVerdict (halted : Option Halt) :
    Except StoreError Unit → ExecutionStatus × Option FailureReason
  | .ok () => verdict halted
  | .error error => (.failed, some (.infrastructureError ("saving execution: " ++ error.message)))

section

variable {run : Run}

theorem close_entered (run : Run) (ending : Ending) : (run.close ending).run.Entered := by
  refine ⟨?_, rfl⟩
  simp only [Open, close, save, shown, verdict]
  cases run.halted with
  | none => rfl
  | some halt => cases halt <;> rfl

theorem sweep_entered (running : run.execution.status = .running) (ending : Ending)
    (rest : List Nat) : (run.sweep ending rest).run.Entered := by
  cases rest with
  | nil => exact close_entered run ending
  | cons index rest => exact ⟨running, rfl⟩

theorem proceed_entered (running : run.execution.status = .running) (now : Moment) :
    (run.proceed now).run.Entered := by
  unfold proceed
  split
  · split
    · exact ⟨running, rfl⟩
    · split
      · exact sweep_entered running _ _
      · exact ⟨running, rfl⟩
  · split
    · exact sweep_entered running _ _
    · exact ⟨running, rfl⟩

theorem settled_entered (running : run.execution.status = .running) (now : Moment)
    (halt : Option Halt) : (run.settled now halt).run.Entered := by
  cases halt with
  | none => exact proceed_entered running now
  | some halt =>
    have calm := @halt_calm (fun _ => True) run halt trivial
    exact proceed_entered (calm.status.trans running) now

theorem tellSkipped_entered (running : run.execution.status = .running) (now : Moment)
    (halt : Option Halt) (skipped : List Nat) : (run.tellSkipped now halt skipped).run.Entered := by
  cases skipped with
  | nil => exact settled_entered running now halt
  | cons index rest => exact ⟨running, rfl⟩

/-- What follows a save leaves the run open unless it was the last one. -/
theorem afterSave_entered (running : run.execution.status = .running) (now : Moment)
    (outcome : Except StoreError Unit) {errand : Errand}
    (unclosed : ∀ ending, errand ≠ .closing ending) :
    (run.afterSave now outcome errand).run.Entered := by
  have checked (activity : String) :
      (run.checkSave activity outcome).run.execution.status = .running := by
    have calm := @checkSave_calm (fun _ => True) run activity outcome (fun _ _ _ => trivial)
    exact calm.status.trans running
  cases errand with
  | opening =>
    have entered := @enter_calm (fun _ => True) (run.checkSave "saving execution" outcome).run
    exact proceed_entered (entered.status.trans (checked _)) now
  | dispatching index previous =>
    cases outcome with
    | ok => exact @proceed_entered { run with inFlight := run.inFlight ++ [index] } running now
    | error error =>
      have calm := @halt_calm (fun _ => True) (run.modifyRecord index fun _ => previous)
        (.failed (.infrastructureError ("saving step: " ++ error.message))) trivial
      exact proceed_entered (calm.status.trans running) now
  | settling index released halt =>
    simp only [afterSave, Turn.andThen]
    split
    · have calm := @releaseSuccessors_calm (fun _ => True)
        (run.checkSave "saving step" outcome).run index
      exact settled_entered (calm.status.trans (checked _)) now halt
    · split
      · have calm := @skipFrom_calm (fun _ => True) now
          (run.checkSave "saving step" outcome).run.plan.edgeCount
          (run.checkSave "saving step" outcome).run
          ((run.checkSave "saving step" outcome).run.successors index)
        exact tellSkipped_entered (calm.status.trans (checked _)) now halt _
      · exact settled_entered (checked _) now halt
  | skipping index rest halt => exact tellSkipped_entered (checked _) now halt rest
  | sweeping ending index rest => exact sweep_entered running ending rest
  | closing ending => exact absurd rfl (unclosed ending)

/-- An answer of the store counts as a failure only while a save is under way. -/
def failing (run : Run) (input : Input) : Bool :=
  match run.phase, input with
  | .saving _ _, .saved (.error _) => true
  | _, _ => false

/-- A run keeps its errand while its failures are fewer than the policy allows. -/
structure Keeping (run : Run) (input : Input) (turn : Turn) : Prop where
  opened : turn.run.Open
  errand : turn.run.errand? = run.errand?
  unsaved : ∀ errand failures, run.phase = .saving errand failures → input ≠ .saved (.ok ())
  failures : turn.run.failures = if run.failing input then run.failures + 1 else run.failures
  bounded : run.failing input = true → run.failures + 1 < run.infraRetry.attempts
  silent : turn.effects = []

/-- The last answer to the save of the verdict closes a run. -/
structure Closes (run : Run) (input : Input) (turn : Turn) : Prop where
  closed : turn.run.phase = .closed
  told : ∃ earlier, turn.effects = earlier ++ [turn.run.snapshot]
  last : ∃ ending outcome, run.phase = .saving (.closing ending) run.failures ∧
    input = .saved outcome ∧ turn.run.shown = finalVerdict turn.run.halted outcome ∧
    (∀ error, outcome = .error error → run.infraRetry.attempts ≤ run.failures + 1)

/-- An answer takes an open run to another phase, keeps its errand, or closes it. -/
inductive Passage (run : Run) (input : Input) (turn : Turn) : Prop where
  | entered (unended : run.execution.status.isTerminal = false) (entered : turn.run.Entered)
  | keeping (keeping : run.Keeping input turn)
  | closed (closes : run.Closes input turn)

theorem Open.running {errand : Errand} {failures : UInt32} (opened : run.Open)
    (phase : run.phase = .saving errand failures) (unclosed : ∀ ending, errand ≠ .closing ending) :
    run.execution.status = .running := by
  unfold Open at opened
  rw [phase] at opened
  cases errand <;> first | exact opened | exact absurd rfl (unclosed _)

theorem saved_passage {errand : Errand} {failures : UInt32} (opened : run.Open)
    (phase : run.phase = .saving errand failures) (now : Moment)
    (outcome : Except StoreError Unit) :
    run.Passage (.saved outcome) (run.saved now errand failures outcome) := by
  have counted : run.failures = failures := by simp [Run.failures, phase]
  have ends (outcome : Except StoreError Unit)
      (last : ∀ error, outcome = .error error → run.infraRetry.attempts ≤ run.failures + 1) :
      run.Passage (.saved outcome) (run.afterSave now outcome errand) := by
    by_cases closing : ∃ ending, errand = .closing ending
    · obtain ⟨ending, rfl⟩ := closing
      refine .closed ⟨rfl, ⟨(run.closeDown ending outcome).effects.take 4, rfl⟩, ending, outcome,
        counted ▸ phase, rfl, ?_, last⟩
      simp only [Open, phase] at opened
      cases outcome with
      | ok => exact opened
      | error error => rfl
    · have unclosed : ∀ ending, errand ≠ .closing ending := fun ending same =>
        closing ⟨ending, same⟩
      have running := opened.running phase unclosed
      exact .entered (by simp [running, ExecutionStatus.isTerminal])
        (afterSave_entered running now outcome unclosed)
  cases outcome with
  | ok => exact ends (.ok ()) (by simp)
  | error error =>
    unfold saved
    dsimp only
    split
    · next last => exact ends (.error error) (fun _ _ => counted ▸ last)
    · next more =>
      refine .keeping ⟨?_, by simp [errand?, phase], by simp, ?_, ?_, rfl⟩
      · unfold Open at opened ⊢
        rw [phase] at opened
        cases errand <;> exact opened
      · simp [Run.failures, phase, failing]
      · intro _
        rw [counted]
        exact UInt32.not_le.mp more

/-- Every answer to an open run is one of these passages. -/
theorem advance_passage (opened : run.Open) (now : Moment) (input : Input) :
    run.Passage input (run.advance now input) := by
  have takes := run.advance_takes now input
  generalize run.advance now input = turn at takes ⊢
  have running (phase : run.phase = .waiting) : run.execution.status = .running := by
    unfold Open at opened
    rwa [phase] at opened
  have unended (phase : run.phase = .waiting) : run.execution.status.isTerminal = false := by
    simp [running phase, ExecutionStatus.isTerminal]
  have halts (before : Run) (status : before.execution.status = .running) (halt : Halt) :
      ((before.halt halt).run.proceed now).run.Entered := by
    have calm := @halt_calm (fun _ => True) before halt trivial
    exact proceed_entered (calm.status.trans status) now
  cases takes with
  | opened phase =>
    simp only [Open, phase] at opened
    exact .entered (by simp [opened, ExecutionStatus.isTerminal]) ⟨rfl, rfl⟩
  | saved phase => exact saved_passage opened phase now _
  | @rested errand failures phase =>
    refine .keeping ⟨?_, by simp [errand?, phase], by simp, ?_, ?_, rfl⟩
    · unfold Open at opened ⊢
      rw [phase] at opened
      cases errand <;> exact opened
    · simp [Run.failures, phase, failing]
    · simp [failing, phase]
  | reported phase =>
    unfold settle
    split
    · exact .entered (unended phase) ⟨opened, by simp [Run.failures, phase]⟩
    · exact .entered (unended phase) ⟨running phase, rfl⟩
  | @lost index _ phase =>
    exact .entered (unended phase)
      (halts { run with inFlight := run.inFlight.erase index } (running phase) _)
  | cancelled phase => exact .entered (unended phase) (halts run (running phase) _)
  | expired phase => exact .entered (unended phase) (halts run (running phase) _)
  | idle unsaved unreported unlost =>
    have steady : run.failing input = false := by
      unfold failing
      split
      · next errand failures error phase => exact absurd rfl (unsaved errand failures _ phase)
      · rfl
    exact .keeping ⟨opened, rfl, fun errand failures phase => unsaved errand failures _ phase,
      by simp [steady], by simp [steady], rfl⟩

end

end WorkflowEngine.Run
