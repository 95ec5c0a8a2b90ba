/-
This file proves that the results of a run do not depend on its schedule: whatever the order in
which things happen, each step that ends by its action has its outcome in the reference evaluation.
-/

import WorkflowEngine.Proofs.Execution.Reference
import WorkflowEngine.Proofs.Execution.Skipping
import WorkflowEngine.Proofs.Execution.Dependencies

namespace WorkflowEngine

/-- A step ends by its action if it succeeds or if the action fails for the last time. -/
def StepResult.byAction : StepResult → Bool
  | .succeeded _ => true
  | .failed _ => true
  | .unavailable _ => false
  | .interrupted => false

theorem Plan.releases_byAction (plan : Plan) {report : StepReport}
    (releases : plan.releases report = true) : report.result.byAction = true := by
  unfold Plan.releases at releases
  cases result : report.result <;> simp_all [StepResult.byAction]

/-- The step shows a success, or it has reported that it ended by the action. -/
def Run.SettledByAction (run : Run) (reports : List StepReport) (index : Nat) : Prop :=
  (run.record index).status = .succeeded ∨
    ∃ report ∈ reports, report.index = index ∧ report.result.byAction = true

/-- A step that shows a success has reported it. -/
theorem Run.Coherent.settled_report {run : Run} {ledger : Ledger} (coherent : run.Coherent ledger)
    {index : Nat} (settled : run.SettledByAction ledger.reports index) :
    ∃ report ∈ ledger.reports, report.index = index ∧ report.result.byAction = true := by
  rcases settled with succeeded | reported
  · by_cases known : index ∈ ledger.reported
    · obtain ⟨report, member, rfl⟩ := List.mem_map.mp known
      have status := congrArg StepOutcome.status (coherent.resolved report member)
      simp only [StepRecord.outcome, StepReport.outcome, succeeded] at status
      refine ⟨report, member, rfl, ?_⟩
      cases result : report.result <;> simp [result, StepResult.byAction] at status ⊢
    · obtain ⟨_, unsucceeded, _⟩ := coherent.unresolved index known
      exact absurd succeeded unsucceeded
  · exact reported

/-- What a task still does completes what it has done to all the attempts. -/
def StepTask.OnTrack (task : StepTask) (act : UInt32 → AttemptOutcome) : Prop :=
  match task.phase with
  | .ended result => result.byAction = true →
      (StepReport.mk task.index task.attempts result).outcome =
        .ofAttempts act (task.retry.attempts.toNat - 1) 1
  | _ => task.attempts < task.retry.attempts ∧
      .ofAttempts act (task.retry.attempts.toNat - 1 - task.attempts.toNat) task.attempt =
        StepOutcome.ofAttempts act (task.retry.attempts.toNat - 1) 1

namespace StepTask

variable {task : StepTask} {act : UInt32 → AttemptOutcome}

theorem OnTrack.attempts (onTrack : task.OnTrack act)
    (unended : ∀ result, task.phase ≠ .ended result) : task.attempts < task.retry.attempts ∧
      .ofAttempts act (task.retry.attempts.toNat - 1 - task.attempts.toNat) task.attempt =
        StepOutcome.ofAttempts act (task.retry.attempts.toNat - 1) 1 := by
  unfold OnTrack at onTrack
  split at onTrack
  · next result ended => exact absurd ended (unended result)
  · exact onTrack

/-- An attempt that does what the action does keeps the task on track. -/
theorem OnTrack.attemptEnded (onTrack : task.OnTrack act)
    (attempting : task.phase = .attempting) :
    (task.attemptEnded (act task.attempt)).OnTrack act := by
  obtain ⟨less, whole⟩ := onTrack.attempts (by simp [attempting])
  have word := UInt32.lt_iff_toNat_lt.mp less
  have bound := task.retry.attempts.toNat_lt
  have counted : task.attempt.toNat = task.attempts.toNat + 1 := by
    rw [attempt, UInt32.toNat_add]
    simp only [UInt32.reduceToNat]
    omega
  unfold StepTask.attemptEnded
  dsimp only
  cases left : task.retry.attempts.toNat - 1 - task.attempts.toNat with
  | zero =>
    have last : task.retry.attempts ≤ task.attempt := by
      rw [UInt32.le_iff_toNat_le]
      omega
    rw [left, StepOutcome.ofAttempts] at whole
    split
    · next output ok =>
      rw [ok] at whole
      exact fun _ => whole
    · next failure failed =>
      rw [failed] at whole
      rw [if_pos (by simp [last])]
      exact fun _ => whole
  | succ further =>
    have more : ¬task.retry.attempts ≤ task.attempt := by
      rw [UInt32.le_iff_toNat_le]
      omega
    rw [left, StepOutcome.ofAttempts] at whole
    split
    · next output ok =>
      rw [ok] at whole
      exact fun _ => whole
    · next failure failed =>
      rw [failed] at whole
      cases retryable : failure.retryable with
      | false =>
        simp only [retryable, Bool.false_eq_true, if_false] at whole
        rw [if_pos (by simp)]
        exact fun _ => whole
      | true =>
        simp only [retryable, if_true] at whole
        rw [if_neg (by simp [more])]
        refine ⟨UInt32.not_le.mp more, ?_⟩
        rw [← whole]
        dsimp only [attempt]
        congr 1
        rw [show task.attempts + 1 = task.attempt from rfl, counted]
        omega

/-- A move that makes no attempt keeps the task on track. -/
theorem OnTrack.rephase (onTrack : task.OnTrack act)
    (unended : ∀ result, task.phase ≠ .ended result) {after : StepTask}
    (attempts : after.attempts = task.attempts) (retry : after.retry = task.retry)
    (settles : ∀ result, after.phase = .ended result → result.byAction = false) :
    after.OnTrack act := by
  have kept := onTrack.attempts unended
  unfold OnTrack
  split
  · next result ended =>
    intro byAction
    rw [settles result ended] at byAction
    cases byAction
  · rw [attempt, attempts, retry]
    exact kept

theorem OnTrack.lacksExecutor (onTrack : task.OnTrack act) (attempting : task.phase = .attempting)
    (message : String) : (task.lacksExecutor message).OnTrack act := by
  unfold StepTask.lacksExecutor
  dsimp only
  split
  · exact onTrack.rephase (by simp [attempting]) rfl rfl
      (fun result ended => by cases ended; rfl)
  · exact onTrack.rephase (by simp [attempting]) rfl rfl (fun result ended => by cases ended)

theorem OnTrack.rested (onTrack : task.OnTrack act) : task.rested.OnTrack act := by
  unfold StepTask.rested
  split
  · next pausing =>
    exact onTrack.rephase (by simp [pausing]) rfl rfl (fun result ended => by cases ended)
  · exact onTrack

theorem OnTrack.interrupt (onTrack : task.OnTrack act) : task.interrupt.OnTrack act := by
  unfold StepTask.interrupt
  split
  · next pausing =>
    exact onTrack.rephase (by simp [pausing]) rfl rfl (fun result ended => by cases ended; rfl)
  · exact onTrack

end StepTask

namespace Job

/-- Every attempt in a course has the outcome that the behaviour gives it. -/
def Obeys (behaviour : Behaviour) (past : List Occurrence) : Prop :=
  ∀ occurrence ∈ past, ∀ index outcome, occurrence.input = .attemptEnded index outcome →
    ∀ task ∈ occurrence.before.tasks, task.index = index → task.phase = .attempting →
      ∀ step, occurrence.before.run.plan.steps[index]? = some step →
        outcome = behaviour step.nodeType step.parameters task.input task.attempt

section

variable {start job : Job} {past : List Occurrence} {now : Moment} {input : Input}
  {behaviour : Behaviour}

theorem touch_onTrack {task : StepTask} {act : UInt32 → AttemptOutcome}
    (onTrack : task.OnTrack act)
    (acts : ∀ outcome, input = .attemptEnded task.index outcome → task.phase = .attempting →
      outcome = act task.attempt) : (job.touch input task).OnTrack act := by
  unfold touch
  split
  · split
    · next index outcome own =>
      obtain ⟨rfl, attempting⟩ := own
      rw [acts outcome rfl attempting]
      exact onTrack.attemptEnded attempting
    · exact onTrack
  · split
    · next own => exact onTrack.lacksExecutor own.2 _
    · exact onTrack
  · split
    · exact onTrack.rested
    · exact onTrack
  · split
    · exact onTrack.interrupt
    · exact onTrack
  · exact onTrack

/-- A run resolves the input of a step from the outputs in its records. -/
theorem resolveInput_feed {run : Run} {index : Nat} {step : PlanStep}
    (found : run.plan.steps[index]? = some step) : run.resolveInput index =
      step.feed run.execution.triggerInput fun other => ((run.record other).output).getD .null := by
  unfold Run.resolveInput PlanStep.feed
  rw [found]
  rfl

/-- The tasks of a job and the reports of a course conform to the reference evaluation. -/
structure Conforms (start : Job) (behaviour : Behaviour) (past : List Occurrence) (job : Job) :
    Prop where
  fed : ∀ task ∈ job.tasks, ∀ step, start.run.plan.steps[task.index]? = some step →
    task.input = step.feed start.run.execution.triggerInput
      (outputs (start.run.plan.reference behaviour start.run.execution.triggerInput))
  onTrack : ∀ task ∈ job.tasks, ∀ step, start.run.plan.steps[task.index]? = some step →
    task.OnTrack (step.act behaviour task.input)
  reported : ∀ report ∈ reports past, report.result.byAction = true →
    (start.run.plan.reference behaviour start.run.execution.triggerInput)[report.index]? =
      some report.outcome

/-- A step that starts is fed what the reference evaluation feeds to it. -/
theorem Conforms.feeds (sound : Sound start past job) (conforms : Conforms start behaviour past job)
    {index : Nat} {step : PlanStep} (found : start.run.plan.steps[index]? = some step)
    (running : (job.run.record index).status = .running) : job.run.resolveInput index =
      step.feed start.run.execution.triggerInput
        (outputs (start.run.plan.reference behaviour start.run.execution.triggerInput)) := by
  rw [resolveInput_feed (sound.plan ▸ found), sound.triggerInput]
  apply PlanStep.feed_congr
  intro predecessor member
  have free := sound.awaited found (Or.inr (Or.inl running))
  obtain ⟨report, reported, same, releases⟩ :=
    (Plan.released_iff ..).mp ((Plan.awaited_eq_zero ..).mp free predecessor member)
  have byAction := Plan.releases_byAction _ releases
  obtain ⟨_, _, _, coherent⟩ := sound.valid.coherent
  have resolved := congrArg StepOutcome.output (coherent.resolved report reported)
  have reference := conforms.reported report reported byAction
  rw [same] at resolved reference
  rw [outputs, reference, Option.bind_some, ← resolved]
  rfl

theorem Conforms.next (wellFormed : start.run.plan.WellFormed) (sound : Sound start past job)
    (conforms : Conforms start behaviour past job)
    (obeys : Obeys behaviour (past ++ [⟨job, now, input⟩])) :
    Conforms start behaviour (past ++ [⟨job, now, input⟩]) (job.advance now input).1 := by
  refine ⟨?_, ?_, ?_⟩
  · intro task member step found
    rcases sound.task_after member with ⟨earlier, old, rfl⟩ | ⟨index, launches, rfl⟩
    · have alike := touch_alike job input earlier
      rw [alike.index] at found
      rw [alike.input]
      exact conforms.fed earlier old step found
    · obtain ⟨_, _, _, _, _, _, _, _, running, _⟩ := sound.launching_errand launches
      exact conforms.feeds sound found running
  · intro task member step found
    rcases sound.task_after member with ⟨earlier, old, rfl⟩ | ⟨index, launches, rfl⟩
    · have alike := touch_alike job input earlier
      rw [alike.index] at found
      rw [alike.input]
      apply touch_onTrack (conforms.onTrack earlier old step found)
      intro outcome same attempting
      exact obeys ⟨job, now, input⟩ (by simp) earlier.index outcome same earlier old rfl attempting
        step (sound.plan ▸ found)
    · refine ⟨RetryPolicy.attempts_positive _, ?_⟩
      simp [newTask, StepTask.attempt]
  · intro report member byAction
    rw [reports_append, List.mem_append] at member
    rcases member with old | new
    · exact conforms.reported report old byAction
    · obtain ⟨task, inside, result, ended, rfl⟩ := task_of_report (by simpa [reports] using new)
      have bound : task.index < start.run.plan.steps.length := by
        obtain ⟨_, _, _, coherent⟩ := sound.valid.coherent
        rw [← sound.plan]
        exact coherent.launchedInside _ (sound.manned task inside)
      have found := List.getElem?_eq_getElem bound
      have track := conforms.onTrack task inside _ found
      rw [conforms.fed task inside _ found] at track
      simp only [StepTask.OnTrack, ended] at track
      rw [Plan.reference_get wellFormed found, track byAction, PlanStep.perform,
        (sound.charged task inside).2 _ found, RetryPolicy.attempts_toNat]

theorem Course.conforms {plan : Plan} (wellFormed : plan.WellFormed) {executor : Executor}
    {infraRetry : RetryPolicy} {timeoutMs : Nat} {id tenantId : Uuid} {triggerInput : Json}
    (course : Course (prepare executor plan infraRetry timeoutMs
      (.pending plan id tenantId triggerInput)) past job) (obeys : Obeys behaviour past) :
    Conforms (prepare executor plan infraRetry timeoutMs
      (.pending plan id tenantId triggerInput)) behaviour past job := by
  induction course with
  | start => refine ⟨?_, ?_, ?_⟩ <;> simp [prepare, reports]
  | next course now input inductionHypothesis =>
    have earlier := inductionHypothesis fun occurrence member =>
      obeys occurrence (List.mem_append_left _ member)
    exact earlier.next wellFormed (course.sound wellFormed) obeys

/-- If every step has been released, the records show the reference evaluation. -/
theorem Conforms.complete (sound : Sound start past job)
    (conforms : Conforms start behaviour past job)
    (ended : job.run.Ended ⟨launched past, reports past, reports past, none, none⟩)
    (unhalted : job.run.halted = none) : job.run.execution.steps.map StepRecord.outcome =
      start.run.plan.reference behaviour start.run.execution.triggerInput := by
  have counted : job.run.execution.steps.length = start.run.plan.steps.length := by
    rw [ended.recordCount, sound.plan]
  apply List.ext_getElem?
  intro index
  by_cases bound : index < start.run.plan.steps.length
  · have released := ended.flawless unhalted index (sound.plan ▸ bound)
    obtain ⟨report, member, rfl, releases⟩ := (Plan.released_iff ..).mp released
    rw [conforms.reported report member (Plan.releases_byAction _ releases),
      ← ended.resolved report member, List.getElem?_map, Run.record, List.getElem?_eq_getElem (counted ▸ bound)]
    rfl
  · rw [List.getElem?_eq_none (by simpa [counted] using bound),
      List.getElem?_eq_none (by simpa [Plan.reference_length] using bound)]

end

/-- Whatever the schedule, settled steps have their outcome in the reference. -/
theorem schedule_independent {compiler : Compiler} {definition : Definition} {plan : Plan}
    (compiled : compiler.compile definition = .ok plan) {count : Nat} (positive : 1 ≤ count)
    {executor : Executor} {infraRetry : RetryPolicy} {timeoutMs : Nat} {id tenantId : Uuid}
    {triggerInput : Json} {behaviour : Behaviour} {past : List Occurrence} {job : Job}
    (course : Course (prepare executor { plan with maxConcurrency := count } infraRetry timeoutMs
      (.pending { plan with maxConcurrency := count } id tenantId triggerInput)) past job)
    (obeys : Obeys behaviour past) :
    (∀ index, job.run.SettledByAction (reports past) index →
      (plan.reference behaviour triggerInput)[index]? = some (job.run.record index).outcome) ∧
    (job.snapshot.status.isTerminal = true → job.run.halted = none →
      job.snapshot.steps.map StepRecord.outcome = plan.reference behaviour triggerInput) := by
  have wellFormed := (Compiler.compile_wellFormed compiled).resize positive
  have sound := course.sound wellFormed
  have conforms := course.conforms wellFormed obeys
  constructor
  · intro index settled
    obtain ⟨_, _, _, coherent⟩ := sound.valid.coherent
    obtain ⟨report, member, rfl, byAction⟩ := coherent.settled_report settled
    rw [coherent.resolved report member]
    exact conforms.reported report member byAction
  · intro terminal unhalted
    obtain ⟨shows, ended, _⟩ := (course.standing wellFormed).ended sound terminal
    rw [shows]
    exact conforms.complete sound ended unhalted

/-- The pair whose steps pass on what they get ends with the reference evaluation. -/
theorem pair_schedule_independent :
    finishedPair.2.snapshot.steps.map StepRecord.outcome =
      Plan.pair.reference (fun _ _ input _ => .succeeded input) .null := by
  have obeys : Obeys (fun _ _ input _ => .succeeded input) finishedPair.1 := by
    have fed : ∀ occurrence ∈ finishedPair.1, ∀ task ∈ occurrence.before.tasks,
        task.input = .null := by decide +kernel
    have inputs : finishedPair.1.map Occurrence.input =
        [.opened, .saved (.ok ()), .saved (.ok ()), .attemptEnded 0 (.succeeded .null), .joined 0,
          .saved (.ok ()), .saved (.ok ()), .attemptEnded 1 (.succeeded .null), .joined 1,
          .saved (.ok ()), .saved (.ok ())] := rfl
    intro occurrence member index outcome same task inside _ _ _ _
    have happened := List.mem_map_of_mem (f := Occurrence.input) member
    rw [inputs, same] at happened
    rw [fed occurrence member task inside]
    have given : index = 0 ∧ outcome = .succeeded .null ∨
        index = 1 ∧ outcome = .succeeded .null := by simpa using happened
    rcases given with ⟨_, given⟩ | ⟨_, given⟩ <;> exact given
  exact (schedule_independent Plan.pair_compiled (by decide)
    (Course.start.replay _ : Course ofPair finishedPair.1 finishedPair.2) obeys).2
      (by decide +kernel) (by decide +kernel)

end Job

end WorkflowEngine
