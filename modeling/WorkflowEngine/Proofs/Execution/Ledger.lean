/-
This file holds what is kept in mind about a run beside its state: which steps were launched, what
they reported, and which of these reports have had their consequences for the steps behind.
-/

import WorkflowEngine.Execution.Job
import WorkflowEngine.Proofs.Workflow.PlanShape
import Mathlib.Logic.Relation

namespace WorkflowEngine

/-- An outcome is what a record shows of a step apart from its name and its times. -/
structure StepOutcome where
  status : StepStatus
  attempt : UInt32
  output : Option Json
  error : Option String
  deriving DecidableEq, Repr

namespace StepRecord

def outcome (record : StepRecord) : StepOutcome :=
  ⟨record.status, record.attempt, record.output, record.error⟩

/-- A blank record shows no attempt, no output and no error. -/
def Blank (record : StepRecord) : Prop :=
  record.attempt = 0 ∧ record.output = none ∧ record.error = none

/-- A record without a result belongs to a step that has neither succeeded nor failed. -/
def Unresolved (record : StepRecord) : Prop :=
  record.Blank ∧ record.status ≠ .succeeded ∧ record.status ≠ .failed

end StepRecord

/-- A report leaves this outcome in the record of its step. -/
def StepReport.outcome (report : StepReport) : StepOutcome :=
  match report.result with
  | .succeeded output => ⟨.succeeded, report.attempts, some output, none⟩
  | .failed message => ⟨.failed, report.attempts, none, some message⟩
  | .unavailable message => ⟨.failed, report.attempts, none, some message⟩
  | .interrupted => ⟨.cancelled, report.attempts, none, none⟩

namespace Plan

def tolerates (plan : Plan) (index : Nat) : Bool :=
  ((plan.steps[index]?).map PlanStep.tolerant).getD false

/-- A tolerant step is also released as it fails by its action. -/
def releases (plan : Plan) (report : StepReport) : Bool :=
  match report.result with
  | .succeeded _ => true
  | .failed _ => plan.tolerates report.index
  | .unavailable _ => false
  | .interrupted => false

/-- A failure that is not tolerated blocks what lies behind. -/
def blocks (plan : Plan) (report : StepReport) : Bool :=
  match report.result with
  | .succeeded _ => false
  | .failed _ => !plan.tolerates report.index
  | .unavailable _ => true
  | .interrupted => false

def released (plan : Plan) (reports : List StepReport) (index : Nat) : Bool :=
  reports.any fun report => report.index == index && plan.releases report

def awaited (plan : Plan) (reports : List StepReport) (step : PlanStep) : Nat :=
  (step.predecessors.map Predecessor.index).countP fun index => !plan.released reports index

/-- A step is cut off if it lies behind a step whose report blocks. -/
def CutOff (plan : Plan) (reports : List StepReport) (index : Nat) : Prop :=
  ∃ report ∈ reports, plan.blocks report = true ∧ Relation.TransGen plan.Edge report.index index

theorem released_iff (plan : Plan) (reports : List StepReport) (index : Nat) :
    plan.released reports index = true ↔
      ∃ report ∈ reports, report.index = index ∧ plan.releases report = true := by
  simp [released]

theorem released_append (plan : Plan) (reports : List StepReport) (report : StepReport)
    (index : Nat) : plan.released (reports ++ [report]) index =
      (plan.released reports index || (report.index == index && plan.releases report)) := by
  simp [released]

/-- No report both releases and blocks. -/
theorem releases_ne_blocks (plan : Plan) {report : StepReport}
    (releases : plan.releases report = true) : plan.blocks report = false := by
  unfold Plan.releases at releases
  unfold blocks
  split <;> simp_all

/-- What does not release blocks exactly if it is a failure. -/
theorem blocks_iff_failed (plan : Plan) {report : StepReport}
    (unreleased : plan.releases report = false) :
    plan.blocks report = true ↔ report.outcome.status = .failed := by
  unfold Plan.releases at unreleased
  unfold blocks StepReport.outcome
  cases result : report.result <;> simp_all

theorem awaited_eq_zero (plan : Plan) (reports : List StepReport) (step : PlanStep) :
    plan.awaited reports step = 0 ↔
      ∀ predecessor ∈ step.predecessors, plan.released reports predecessor.index = true := by
  simp [awaited, List.countP_eq_zero]

/-- A report that releases nothing leaves the counts as they are. -/
theorem awaited_append_of_not (plan : Plan) (reports : List StepReport) {report : StepReport}
    (step : PlanStep) (kept : plan.releases report = false) :
    plan.awaited (reports ++ [report]) step = plan.awaited reports step := by
  simp [awaited, released_append, kept]

/-- A step that is released is awaited no more by those that depend on it. -/
theorem awaited_append (plan : Plan) {reports : List StepReport} {report : StepReport}
    {step : PlanStep} (distinct : (step.predecessors.map Predecessor.index).Nodup)
    (fresh : plan.released reports report.index = false) (releases : plan.releases report = true) :
    plan.awaited reports step = plan.awaited (reports ++ [report]) step +
      if report.index ∈ step.predecessors.map Predecessor.index then 1 else 0 := by
  have split := countP_without distinct (fun index => !plan.released reports index)
    (by simpa using fresh : (!plan.released reports report.index) = true)
  unfold awaited
  rw [split]
  congr 2
  funext index
  rw [released_append, releases, Bool.and_true, Bool.not_or, bne, BEq.comm]

end Plan

/-- The list `spread` holds the reports that have had their consequences. -/
structure Ledger where
  launched : List Nat := []
  reports : List StepReport := []
  spread : List StepReport := []
  starting : Option Nat := none
  pending : Option Halt := none

namespace Ledger

def reported (ledger : Ledger) : List Nat :=
  ledger.reports.map StepReport.index

end Ledger

/-- The records show what was reported, and only released steps have others started. -/
structure Run.Coherent (run : Run) (ledger : Ledger) : Prop where
  recordCount : run.execution.steps.length = run.plan.steps.length
  launchedDistinct : ledger.launched.Nodup
  launchedInside : ∀ index ∈ ledger.launched, index < run.plan.steps.length
  reportedDistinct : ledger.reported.Nodup
  reportedLaunched : ∀ index ∈ ledger.reported, index ∈ ledger.launched
  spreadReported : ∀ report ∈ ledger.spread, report ∈ ledger.reports
  resolved : ∀ report ∈ ledger.reports, (run.record report.index).outcome = report.outcome
  unresolved : ∀ index, index ∉ ledger.reported → (run.record index).Unresolved
  enabled : ∀ {index : Nat} {step : PlanStep}, run.plan.steps[index]? = some step →
    (run.record index).status = .ready ∨ (run.record index).status = .running ∨
      index ∈ ledger.launched → run.plan.awaited ledger.spread step = 0
  skippedIff : ∀ index, (run.record index).status = .skipped ↔
    run.plan.CutOff ledger.spread index

/-- What the code does only until the first halt is asked for only until then. -/
structure Run.Live (run : Run) (ledger : Ledger) : Prop extends Run.Coherent run ledger where
  waiting : ∀ {index : Nat} {step : PlanStep}, run.plan.steps[index]? = some step →
    run.waitingOn[index]? = some (run.plan.awaited ledger.spread step)
  flightDistinct : run.inFlight.Nodup
  flightLaunched : ∀ index ∈ run.inFlight, index ∈ ledger.launched
  flightUnreported : ∀ index ∈ run.inFlight, index ∉ ledger.reported
  launchedRunning : ∀ index ∈ ledger.launched, index ∉ ledger.reported →
    (run.record index).status = .running
  cancelledReported : ∀ index, (run.record index).status = .cancelled → index ∈ ledger.reported
  readyInside : ∀ index ∈ run.ready, index < run.plan.steps.length
  readyStatus : ∀ index ∈ run.ready, (run.record index).status = .ready
  readySorted : run.ready.Pairwise (· < ·)
  readyListed : run.halted = none → ∀ index, (run.record index).status = .ready →
    index ∈ run.ready
  runningFlies : run.halted = none → ∀ index, (run.record index).status = .running →
    index ∈ run.inFlight ∨ ledger.starting = some index
  pendingAwaits : run.halted = none → ∀ {index : Nat} {step : PlanStep},
    run.plan.steps[index]? = some step → (run.record index).status = .pending →
      0 < run.plan.awaited ledger.spread step
  undisturbed : run.halted = none → ledger.pending = none →
    ∀ report ∈ ledger.reports, run.plan.releases report = true

/-- An ended run starts nothing more. If it has not been halted, every step was released. -/
structure Run.Ended (run : Run) (ledger : Ledger) : Prop extends Run.Coherent run ledger where
  flawless : run.halted = none → ∀ index < run.plan.steps.length,
    run.plan.released ledger.reports index = true

end WorkflowEngine
