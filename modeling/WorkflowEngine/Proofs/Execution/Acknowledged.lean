/-
This file holds what the store acknowledges of an execution: its header, or the record of one step,
as the run has handed it over.
-/

import WorkflowEngine.Engine.Progress
import WorkflowEngine.Proofs.Execution.Standing
import WorkflowEngine.Proofs.Execution.Finality

namespace WorkflowEngine

/-- A run hands the header of its execution to the store, or the record of one step. -/
inductive Saved where
  | header (execution : Execution)
  | step (executionId : Uuid) (record : StepRecord)
  deriving DecidableEq, Repr

def Saved.put {S : Type} [ExecutionStore S] : Saved → S → Except StoreError Unit × S
  | .header execution => ExecutionStore.saveExecution execution
  | .step executionId record => ExecutionStore.saveStep executionId record

namespace Run

def handed (run : Run) (errand : Errand) : Saved :=
  match Run.target errand with
  | none => .header run.execution
  | some index => .step run.execution.id (run.record index)

/-- The engine saves what the run hands over. -/
theorem performSave_handed {S : Type} [ExecutionStore S] (run : Run) (errand : Errand)
    (store : S) : Engine.performSave run errand store = (run.handed errand).put store := by
  cases errand <;> rfl

theorem id_fixed : Fixed fun run => run.execution.id :=
  { records := fun _ _ => rfl
    outcome := fun _ _ _ _ _ => rfl
    ready := fun _ _ => rfl
    halted := fun _ _ => rfl
    phase := fun _ _ => rfl
    inFlight := fun _ _ => rfl
    waitingOn := fun _ _ => rfl
    openedAt := fun _ _ => rfl }

section

variable {run : Run} {errand : Errand}

/-- The last answer to a save leads on from its errand. -/
theorem advance_last {failures : UInt32} (phase : run.phase = .saving errand failures)
    (now : Moment) {outcome : Except StoreError Unit}
    (last : ∀ error, outcome = .error error → run.infraRetry.attempts ≤ failures + 1) :
    run.advance now (.saved outcome) = run.afterSave now outcome errand := by
  simp only [advance, phase]
  cases outcome with
  | ok => rfl
  | error error => exact if_pos (last error rfl)

/-- A run leaves its errand only after the last answer of the store. -/
theorem advance_errand (own : run.errand? = some errand) (now : Moment) (input : Input) :
    (run.advance now input).run.errand? = some errand ∨
    ∃ failures outcome, run.phase = .saving errand failures ∧ input = .saved outcome ∧
      run.advance now input = run.afterSave now outcome errand ∧
      ∀ error, outcome = .error error → run.infraRetry.attempts ≤ failures + 1 := by
  have takes := run.advance_takes now input
  generalize run.advance now input = turn at takes ⊢
  have awake : run.phase ≠ .unopened ∧ run.phase ≠ .waiting := by
    unfold errand? at own
    constructor <;> intro phase <;> simp [phase] at own
  cases takes with
  | opened phase => exact absurd phase awake.1
  | @saved other failures outcome phase =>
    have same : other = errand := by simpa [errand?, phase] using own
    subst same
    cases outcome with
    | ok => exact .inr ⟨failures, .ok (), phase, rfl, rfl, by simp⟩
    | error error =>
      unfold saved
      dsimp only
      split
      · next last => exact .inr ⟨failures, .error error, phase, rfl, rfl, fun _ _ => last⟩
      · exact .inl rfl
  | rested phase => exact .inl (by simpa [errand?, phase] using own)
  | reported phase => exact absurd phase awake.2
  | lost phase => exact absurd phase awake.2
  | cancelled phase => exact absurd phase awake.2
  | expired phase => exact absurd phase awake.2
  | idle => exact .inl own

end

end Run

namespace Job

def Occurrence.acknowledged (occurrence : Occurrence) : List Saved :=
  match occurrence.before.run.phase, occurrence.input with
  | .saving errand _, .saved (.ok ()) => [occurrence.before.run.handed errand]
  | _, _ => []

def acknowledged (past : List Occurrence) : List Saved :=
  past.flatMap Occurrence.acknowledged

theorem acknowledged_concat (past : List Occurrence) (occurrence : Occurrence) :
    acknowledged (past ++ [occurrence]) = acknowledged past ++ occurrence.acknowledged := by
  simp [acknowledged]

section

variable {start job : Job} {past : List Occurrence} {now : Moment} {input : Input}

theorem mem_acknowledged {saved : Saved} :
    saved ∈ Occurrence.acknowledged ⟨job, now, input⟩ ↔
      ∃ errand failures, job.run.phase = .saving errand failures ∧ input = .saved (.ok ()) ∧
        saved = job.run.handed errand := by
  unfold Occurrence.acknowledged
  split
  · next errand failures phase same =>
    dsimp only at phase same
    simp [phase, same]
  · next unsaved =>
    constructor
    · intro member
      cases member
    · rintro ⟨errand, failures, phase, same, _⟩
      exact absurd same (unsaved errand failures phase)

theorem id_after (job : Job) (now : Moment) (input : Input) :
    (job.advance now input).1.run.execution.id = job.run.execution.id :=
  fixed_after Run.id_fixed job now input

theorem Course.id (course : Course start past job) :
    job.run.execution.id = start.run.execution.id :=
  course.fixed Run.id_fixed

/-- A step that has reported has settled. -/
theorem Sound.reported_settled (sound : Sound start past job) {report : StepReport}
    (member : report ∈ reports past) : job.run.Settled report.index := by
  obtain ⟨_, _, _, coherent⟩ := sound.valid.coherent
  rcases coherent.reported_status (List.mem_map_of_mem member) with status | status | status <;>
    simp [Run.Settled, status, StepStatus.isSettled]

/-- The records of a new execution bear the names of the steps. -/
theorem Sound.named {executor : Executor} {plan : Plan} {infraRetry : RetryPolicy}
    {timeoutMs : Nat} {id tenantId : Uuid} {triggerInput : Json}
    (sound : Sound (prepare executor plan infraRetry timeoutMs
      (.pending plan id tenantId triggerInput)) past job) {index : Nat} {step : PlanStep}
    (found : plan.steps[index]? = some step) : (job.run.record index).nodeId = step.nodeId := by
  have names : job.run.execution.steps.map StepRecord.nodeId =
      plan.steps.map PlanStep.nodeId := by
    rw [sound.names]
    simp [prepare, Run.prepare, Execution.pending, StepRecord.pending, Function.comp_def]
  have named := congrArg (fun names => names[index]?) names
  simp only [List.getElem?_map, found, Option.map_some] at named
  obtain ⟨record, recorded, same⟩ := Option.map_eq_some_iff.mp named
  simpa [Run.record, recorded] using same

end

end Job

end WorkflowEngine
