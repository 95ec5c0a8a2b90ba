/-
This file gathers what no turn changes while it passes from phase to phase: all that a run holds
apart from its records, its ready steps, its halt and its phase.
-/

import WorkflowEngine.Execution.Run

namespace WorkflowEngine.Run

/-- A steady view shows nothing of the records, the state, the halt and the phase. -/
structure Steady {A : Type} (view : Run → A) : Prop where
  records : ∀ run steps, view { run with execution := { run.execution with steps := steps } } =
    view run
  outcome : ∀ run status failure startedAt finishedAt, view { run with
    execution := { run.execution with
      status := status, failure := failure, startedAt := startedAt, finishedAt := finishedAt } } =
    view run
  ready : ∀ run ready, view { run with ready := ready } = view run
  halted : ∀ run halted, view { run with halted := halted } = view run
  phase : ∀ run phase, view { run with phase := phase } = view run

theorem inFlight_steady : Steady Run.inFlight :=
  ⟨fun _ _ => rfl, fun _ _ _ _ _ => rfl, fun _ _ => rfl, fun _ _ => rfl, fun _ _ => rfl⟩

theorem waitingOn_steady : Steady Run.waitingOn :=
  ⟨fun _ _ => rfl, fun _ _ _ _ _ => rfl, fun _ _ => rfl, fun _ _ => rfl, fun _ _ => rfl⟩

namespace Steady

variable {A : Type} {view : Run → A}

theorem save (steady : Steady view) (run : Run) (errand : Errand) :
    view (run.save errand) = view run :=
  steady.phase run _

theorem modifyRecord (steady : Steady view) (run : Run) (index : Nat)
    (change : StepRecord → StepRecord) : view (run.modifyRecord index change) = view run :=
  steady.records run _

theorem makeReady (steady : Steady view) (run : Run) (index : Nat) :
    view (run.makeReady index) = view run :=
  (steady.ready (run.modifyRecord index _) _).trans (steady.modifyRecord run index _)

theorem halt (steady : Steady view) (run : Run) (halt : Halt) :
    view (run.halt halt).run = view run := by
  unfold Run.halt
  split
  · rfl
  · exact steady.halted run _

theorem checkSave (steady : Steady view) (run : Run) (activity : String)
    (outcome : Except StoreError Unit) : view (run.checkSave activity outcome).run = view run := by
  cases outcome with
  | ok => rfl
  | error error => exact steady.halt run _

theorem enter (steady : Steady view) (run : Run) : view run.enter = view run := by
  unfold Run.enter
  induction run.plan.steps.filter (fun step => step.predecessors.isEmpty) generalizing run with
  | nil => rfl
  | cons first rest inductionHypothesis =>
    exact (inductionHypothesis _).trans (steady.makeReady run first.index)

theorem skipFrom (steady : Steady view) (now : Moment) (count : Nat) (run : Run)
    (queue : List Nat) : view (Run.skipFrom now count run queue).1 = view run := by
  induction count generalizing run queue with
  | zero => rfl
  | succ count inductionHypothesis =>
    cases queue with
    | nil => rfl
    | cons index rest =>
      unfold Run.skipFrom
      split
      · exact (inductionHypothesis _ _).trans
          ((steady.ready (run.modifyRecord index _) _).trans (steady.modifyRecord run index _))
      · exact inductionHypothesis run rest

theorem close (steady : Steady view) (run : Run) (ending : Ending) :
    view (run.close ending).run = view run :=
  (steady.save _ _).trans (steady.outcome run _ _ run.execution.startedAt _)

theorem sweep (steady : Steady view) (run : Run) (ending : Ending) (rest : List Nat) :
    view (run.sweep ending rest).run = view run := by
  cases rest with
  | nil => exact steady.close run ending
  | cons index rest => exact (steady.save _ _).trans (steady.modifyRecord run index _)

theorem dispatch (steady : Steady view) (run : Run) (now : Moment) (index : Nat)
    (rest : List Nat) : view (run.dispatch now index rest).run = view run :=
  (steady.save _ _).trans ((steady.modifyRecord _ index _).trans (steady.ready run rest))

theorem proceed (steady : Steady view) (run : Run) (now : Moment) :
    view (run.proceed now).run = view run := by
  unfold Run.proceed
  split
  · split
    · exact steady.dispatch run now _ _
    · split
      · exact steady.sweep run _ _
      · exact steady.phase run _
  · split
    · exact steady.sweep run _ _
    · exact steady.phase run _

theorem settled (steady : Steady view) (run : Run) (now : Moment) (halt : Option Halt) :
    view (run.settled now halt).run = view run := by
  cases halt with
  | none => exact steady.proceed run now
  | some halt => exact (steady.proceed _ now).trans (steady.halt run halt)

theorem tellSkipped (steady : Steady view) (run : Run) (now : Moment) (halt : Option Halt)
    (skipped : List Nat) : view (run.tellSkipped now halt skipped).run = view run := by
  cases skipped with
  | nil => exact steady.settled run now halt
  | cons index rest => exact steady.save run _

theorem closeDown (steady : Steady view) (run : Run) (ending : Ending)
    (outcome : Except StoreError Unit) : view (run.closeDown ending outcome).run = view run := by
  have closed := steady.phase run .closed
  cases outcome with
  | ok => exact closed
  | error error =>
    exact (steady.outcome { run with phase := .closed } .failed _ run.execution.startedAt
      run.execution.finishedAt).trans closed

end Steady

/-- A fixed view shows nothing either of the flights, the counters and the time. -/
structure Fixed {A : Type} (view : Run → A) : Prop extends Steady view where
  inFlight : ∀ run inFlight, view { run with inFlight := inFlight } = view run
  waitingOn : ∀ run waitingOn, view { run with waitingOn := waitingOn } = view run
  openedAt : ∀ run openedAt, view { run with openedAt := openedAt } = view run

theorem tenantId_fixed : Fixed fun run => run.execution.tenantId :=
  { records := fun _ _ => rfl
    outcome := fun _ _ _ _ _ => rfl
    ready := fun _ _ => rfl
    halted := fun _ _ => rfl
    phase := fun _ _ => rfl
    inFlight := fun _ _ => rfl
    waitingOn := fun _ _ => rfl
    openedAt := fun _ _ => rfl }

namespace Fixed

variable {A : Type} {view : Run → A}

theorem releaseSuccessors (fixed : Fixed view) (run : Run) (index : Nat) :
    view (run.releaseSuccessors index) = view run := by
  have released (run : Run) (target : Nat) : view (run.releaseStep target) = view run := by
    have counted := fixed.waitingOn run
      (run.waitingOn.set target ((run.waitingOn[target]?).getD 0 - 1))
    unfold Run.releaseStep
    dsimp only
    split
    · exact (fixed.makeReady _ target).trans counted
    · exact counted
  unfold Run.releaseSuccessors
  induction run.successors index generalizing run with
  | nil => rfl
  | cons first rest inductionHypothesis =>
    exact (inductionHypothesis (run.releaseStep first)).trans (released run first)

theorem start (fixed : Fixed view) (run : Run) (now : Moment) :
    view (run.start now).run = view run :=
  (fixed.save _ _).trans ((fixed.openedAt _ now.ticks).trans
    (fixed.outcome run .running run.execution.failure _ run.execution.finishedAt))

theorem settle (fixed : Fixed view) (run : Run) (now : Moment) (report : StepReport) :
    view (run.settle now report).run = view run := by
  unfold Run.settle
  split
  · rfl
  · exact (fixed.save _ _).trans ((fixed.modifyRecord _ _ _).trans (fixed.inFlight run _))

theorem afterSave (fixed : Fixed view) (run : Run) (now : Moment)
    (outcome : Except StoreError Unit) (errand : Errand) :
    view (run.afterSave now outcome errand).run = view run := by
  cases errand with
  | opening =>
    exact (fixed.proceed _ now).trans ((fixed.enter _).trans (fixed.checkSave run _ outcome))
  | dispatching index previous =>
    cases outcome with
    | ok => exact (fixed.proceed _ now).trans (fixed.inFlight run _)
    | error error =>
      exact (fixed.proceed _ now).trans ((fixed.halt _ _).trans (fixed.modifyRecord run index _))
  | settling index released halt =>
    have checked := fixed.checkSave run "saving step" outcome
    simp only [Run.afterSave, Turn.andThen]
    split
    · exact (fixed.settled _ now halt).trans ((fixed.releaseSuccessors _ index).trans checked)
    · split
      · exact (fixed.tellSkipped _ now halt _).trans ((fixed.skipFrom now _ _ _).trans checked)
      · exact (fixed.settled _ now halt).trans checked
  | skipping index rest halt =>
    exact (fixed.tellSkipped _ now halt rest).trans (fixed.checkSave run _ outcome)
  | sweeping ending index rest => exact fixed.sweep run ending rest
  | closing ending => exact fixed.closeDown run ending outcome

theorem saved (fixed : Fixed view) (run : Run) (now : Moment) (errand : Errand)
    (failures : UInt32) (outcome : Except StoreError Unit) :
    view (run.saved now errand failures outcome).run = view run := by
  cases outcome with
  | ok => exact fixed.afterSave run now (.ok ()) errand
  | error error =>
    unfold Run.saved
    dsimp only
    split
    · exact fixed.afterSave run now (.error error) errand
    · exact fixed.phase run _

/-- No answer changes what a fixed view shows. -/
theorem advance (fixed : Fixed view) (run : Run) (now : Moment) (input : Input) :
    view (run.advance now input).run = view run := by
  unfold Run.advance
  split
  · exact fixed.start run now
  · exact fixed.saved run now _ _ _
  · exact fixed.phase run _
  · exact fixed.settle run now _
  · exact (fixed.proceed _ now).trans ((fixed.halt _ _).trans (fixed.inFlight run _))
  · exact (fixed.proceed _ now).trans (fixed.halt run _)
  · exact (fixed.proceed _ now).trans (fixed.halt run _)
  · rfl

end Fixed

end WorkflowEngine.Run
