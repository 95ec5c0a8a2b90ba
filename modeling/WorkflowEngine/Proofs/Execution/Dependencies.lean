/-
This file proves that no step is started before the steps that it depends on are released, and that
no step is handed to a task twice.
-/

import WorkflowEngine.Proofs.Execution.Soundness

namespace WorkflowEngine

/-- A released step has succeeded, or it is tolerant and has failed by its action. -/
def Run.Released (run : Run) (reports : List StepReport) (index : Nat) : Prop :=
  (run.record index).status = .succeeded ∨
    (run.record index).status = .failed ∧ run.plan.tolerates index = true ∧
      ∃ attempts message, ⟨index, attempts, .failed message⟩ ∈ reports

namespace Job

/-- A step that is ready counts as started, and so does one that ever ran. -/
def Started (past : List Occurrence) (job : Job) (index : Nat) : Prop :=
  (job.run.record index).status = .ready ∨ (job.run.record index).status = .running ∨
    index ∈ launched past ∨
      ∃ occurrence ∈ past, (occurrence.before.run.record index).status = .running

section

variable {start job : Job} {past : List Occurrence}

/-- The dependencies of a step that has been started are all released. -/
theorem Sound.awaited (sound : Sound start past job) {index : Nat} {step : PlanStep}
    (found : start.run.plan.steps[index]? = some step)
    (begun : (job.run.record index).status = .ready ∨ (job.run.record index).status = .running ∨
      index ∈ launched past) : start.run.plan.awaited (reports past) step = 0 := by
  obtain ⟨spread, starting, pending, coherent⟩ := sound.valid.coherent
  have free := coherent.enabled (sound.plan ▸ found) begun
  rw [sound.plan] at free
  exact start.run.plan.awaited_mono step coherent.spreadReported free

theorem Course.started_awaited (course : Course start past job)
    (sound : ∀ past job, Course start past job → Sound start past job) {index : Nat}
    {step : PlanStep} (found : start.run.plan.steps[index]? = some step)
    (begun : Started past job index) : start.run.plan.awaited (reports past) step = 0 := by
  rcases begun with ready | running | member | ran
  · exact (sound past job course).awaited found (Or.inl ready)
  · exact (sound past job course).awaited found (Or.inr (Or.inl running))
  · exact (sound past job course).awaited found (Or.inr (Or.inr member))
  · induction course with
    | start => simp at ran
    | @next past job course now input inductionHypothesis =>
      have earlier : start.run.plan.awaited (reports past) step = 0 := by
        obtain ⟨occurrence, member, running⟩ := ran
        rcases List.mem_append.mp member with old | new
        · exact inductionHypothesis ⟨occurrence, old, running⟩
        · rw [List.mem_singleton.mp new] at running
          exact (sound past job course).awaited found (Or.inr (Or.inl running))
      rw [reports_append]
      exact start.run.plan.awaited_mono step (fun report => List.mem_append_left _) earlier

/-- A step that is released shows it in its record. -/
theorem Sound.released (sound : Sound start past job) {index : Nat}
    (released : start.run.plan.released (reports past) index = true) :
    job.run.Released (reports past) index := by
  obtain ⟨spread, starting, pending, coherent⟩ := sound.valid.coherent
  obtain ⟨report, member, rfl, releases⟩ := (Plan.released_iff ..).mp released
  have status := congrArg StepOutcome.status (coherent.resolved report member)
  simp only [StepRecord.outcome, StepReport.outcome] at status
  unfold Plan.releases at releases
  unfold Run.Released
  rw [status, sound.plan]
  obtain ⟨index, attempts, result⟩ := report
  cases result with
  | succeeded output => exact Or.inl rfl
  | failed message => exact Or.inr ⟨rfl, releases, attempts, message, member⟩
  | unavailable message => cases releases
  | interrupted => cases releases

end

/-- The dependencies of a started step are released, and none is launched twice. -/
theorem started_after_released {compiler : Compiler} {definition : Definition} {plan : Plan}
    (compiled : compiler.compile definition = .ok plan) {executor : Executor}
    {infraRetry : RetryPolicy} {timeoutMs : Nat} {id tenantId : Uuid} {triggerInput : Json}
    {past : List Occurrence} {job : Job}
    (course : Course (prepare executor plan infraRetry timeoutMs
      (.pending plan id tenantId triggerInput)) past job) :
    (∀ index step, plan.steps[index]? = some step → Started past job index →
      ∀ predecessor ∈ step.predecessors, job.run.Released (reports past) predecessor.index) ∧
    (launched past).Nodup := by
  have wellFormed := Compiler.compile_wellFormed compiled
  constructor
  · intro index step found begun predecessor member
    have free := course.started_awaited (fun _ _ course => course.sound wellFormed) found begun
    exact (course.sound wellFormed).released
      ((Plan.awaited_eq_zero ..).mp free predecessor member)
  · obtain ⟨_, _, _, coherent⟩ := (course.sound wellFormed).valid.coherent
    exact coherent.launchedDistinct

/-- The second step of the pair is launched once the first one has succeeded. -/
theorem pair_started_after_released :
    1 ∈ launched finishedPair.1 ∧
      finishedPair.2.run.Released (reports finishedPair.1) 0 ∧ (launched finishedPair.1).Nodup := by
  have begun : 1 ∈ launched finishedPair.1 := by decide +kernel
  obtain ⟨released, distinct⟩ := started_after_released Plan.pair_compiled
    (Course.start.replay _ : Course ofPair finishedPair.1 finishedPair.2)
  refine ⟨begun, released 1 _ rfl (Or.inr (Or.inr (Or.inl begun))) ⟨"first", 0, none⟩ ?_, distinct⟩
  decide +kernel

end Job

end WorkflowEngine
