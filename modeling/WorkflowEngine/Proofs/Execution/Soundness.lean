/-
This file proves that every course of a job keeps the run valid: the ledger of the run is what the
course shows, and the tasks are those of the steps in flight.
-/

import WorkflowEngine.Proofs.Execution.Tasks

namespace WorkflowEngine

namespace Job

/-- A job is sound if it agrees with what has happened since its start. -/
structure Sound (start : Job) (past : List Occurrence) (job : Job) : Prop where
  plan : job.run.plan = start.run.plan
  infraRetry : job.run.infraRetry = start.run.infraRetry
  triggerInput : job.run.execution.triggerInput = start.run.execution.triggerInput
  names : job.run.execution.steps.map StepRecord.nodeId =
    start.run.execution.steps.map StepRecord.nodeId
  timeoutMs : job.timeoutMs = start.timeoutMs
  valid : job.run.Valid (launched past) (reports past)
  flight : job.tasks.map StepTask.index = job.run.inFlight
  distinct : (job.tasks.map StepTask.index).Nodup
  manned : ∀ task ∈ job.tasks, task.index ∈ launched past
  charged : ∀ task ∈ job.tasks, task.infraRetry = start.run.infraRetry ∧
    ∀ step, start.run.plan.steps[task.index]? = some step → task.retry = step.retry

section

variable {start job : Job} {past : List Occurrence} {now : Moment} {input : Input}

theorem dropTask_flight (distinct : (job.tasks.map StepTask.index).Nodup) (index : Nat) :
    (job.dropTask index).tasks.map StepTask.index =
      (job.tasks.map StepTask.index).erase index := by
  rw [distinct.erase_eq_filter, dropTask, List.filter_map]
  rfl

theorem touched_index (job : Job) (input : Input) (tasks : List StepTask) :
    (tasks.map (job.touch input)).map StepTask.index = tasks.map StepTask.index := by
  rw [List.map_map]
  exact List.map_congr_left fun task _ => (touch_alike job input task).index

theorem newTasks_index (job : Job) (input : Nat → Json) (indices : List Nat) :
    (indices.map fun index => job.newTask index (input index)).map StepTask.index = indices := by
  rw [List.map_map]
  exact List.map_id indices

theorem launched_append (past later : List Occurrence) :
    launched (past ++ later) = launched past ++ launched later := by
  simp [launched]

theorem reports_append (past later : List Occurrence) :
    reports (past ++ later) = reports past ++ reports later := by
  simp [reports]

/-- A report is taken only from a step in flight while the run waits. -/
theorem Sound.flies (sound : Sound start past job) {answer : Run.Input}
    (answered : job.answer? now input = some answer) : ∀ report, answer = .reported report →
      job.run.phase = .waiting ∧ report.index ∈ job.run.inFlight := by
  rintro report rfl
  cases answers_of_answer answered with
  | joined phase found ended =>
    refine ⟨phase, ?_⟩
    rw [← sound.flight, ← (mem_of_task found).2]
    exact List.mem_map_of_mem (mem_of_task found).1

/-- The tasks that remain are those of the steps that still fly. -/
theorem Sound.remaining_flight (sound : Sound start past job) (now : Moment) (input : Input) :
    (job.remaining now input).map StepTask.index = match job.answer? now input with
      | some answer => job.run.aloft answer
      | none => job.run.inFlight := by
  have drops (index : Nat) : (job.dropTask index).tasks.map StepTask.index =
      job.run.inFlight.erase index := by
    rw [dropTask_flight sound.distinct, sound.flight]
  cases answered : job.answer? now input with
  | none =>
    simp only [remaining, answered]
    exact sound.flight
  | some answer =>
    have answers := answers_of_answer answered
    simp only [remaining, answered]
    cases answers with
    | joined phase found ended =>
      simp only [relieved, Run.aloft, phase]
      exact drops _
    | died phase found unended =>
      simp only [relieved, Run.aloft, phase]
      exact drops _
    | _ => simp [relieved, Run.aloft, sound.flight]

theorem Sound.flight_after (sound : Sound start past job) (now : Moment) (input : Input) :
    (job.advance now input).1.tasks.map StepTask.index =
      (job.advance now input).1.run.inFlight := by
  rw [tasks_after sound.valid, List.map_append, touched_index, newTasks_index,
    sound.remaining_flight, run_after]
  cases answered : job.answer? now input with
  | none => simp only [launching, answered, List.append_nil]
  | some answer =>
    simp only [launching, answered]
    refine (Run.advance_inFlight job.run now ?_).symm
    intro report same
    obtain ⟨phase, member⟩ := sound.flies answered report same
    have valid := sound.valid
    simp only [Run.Valid, phase] at valid
    exact valid.launchedInside _ (valid.flightLaunched _ member)

theorem Sound.valid_after (wellFormed : start.run.plan.WellFormed) (sound : Sound start past job)
    (now : Moment) (input : Input) : (job.advance now input).1.run.Valid
      (launched past ++ job.launching now input)
      (reports past ++ Occurrence.reports ⟨job, now, input⟩) := by
  rw [run_after]
  cases answered : job.answer? now input with
  | none => simpa [launching, Occurrence.reports, Occurrence.answer?, answered] using sound.valid
  | some answer =>
    simp only [launching, Occurrence.reports, Occurrence.answer?, answered]
    exact Run.advance_valid (sound.plan ▸ wellFormed) sound.valid now (sound.flies answered)

/-- An input passes on what a run keeps, and a halt that comes about has a cause. -/
theorem Sound.advances (sound : Sound start past job) (now : Moment) (input : Input) :
    Run.Advances (fun halt => ∃ answer, job.Answers now input answer ∧
      job.run.Cause (reports past) answer halt) job.run (job.advance now input).1.run := by
  rw [run_after]
  split
  · next answer answered =>
    exact (Run.advance_tells sound.valid now answer).1.weaken fun halt cause =>
      ⟨answer, answers_of_answer answered, cause⟩
  · exact (Run.Calm.refl job.run).advances

/-- A step is launched when its start has been saved. -/
theorem Sound.launching_errand (sound : Sound start past job) {index : Nat}
    (member : index ∈ job.launching now input) : input = .saved (.ok ()) ∧
      ∃ previous failures, job.run.phase = .saving (.dispatching index previous) failures ∧
        job.run.AtErrand (launched past) (reports past) (.dispatching index previous) := by
  cases answered : job.answer? now input with
  | none => simp [launching, answered] at member
  | some answer =>
    simp only [launching, answered, Run.launching] at member
    cases answers_of_answer answered with
    | saved outcome =>
      split at member
      · next errand failures other phase same =>
        cases same
        unfold Run.launches at member
        split at member
        · next launched previous =>
          rw [List.mem_singleton.mp member]
          have valid := sound.valid
          simp only [Run.Valid, phase] at valid
          exact ⟨rfl, previous, failures, phase, valid⟩
        · simp at member
      · simp at member
    | _ => simp at member

/-- A step that is launched has not been launched before. -/
theorem Sound.launching_fresh (wellFormed : start.run.plan.WellFormed)
    (sound : Sound start past job) {index : Nat} (member : index ∈ job.launching now input) :
    index ∉ launched past := by
  obtain ⟨_, _, _, coherent⟩ := (sound.valid_after wellFormed now input).coherent
  intro earlier
  exact (List.nodup_append.mp coherent.launchedDistinct).2.2 index earlier index member rfl

theorem Sound.next (wellFormed : start.run.plan.WellFormed) (sound : Sound start past job)
    (now : Moment) (input : Input) :
    Sound start (past ++ [⟨job, now, input⟩]) (job.advance now input).1 := by
  have advances := sound.advances now input
  have launchedNext : launched (past ++ [⟨job, now, input⟩]) =
      launched past ++ job.launching now input := by
    rw [launched_append, ← effects_launched sound.valid now input]
    simp [launched, Occurrence.effects]
  have reportsNext : reports (past ++ [⟨job, now, input⟩]) =
      reports past ++ Occurrence.reports ⟨job, now, input⟩ := by
    rw [reports_append]
    simp [reports]
  have valid := sound.valid_after wellFormed now input
  obtain ⟨_, _, _, coherent⟩ := valid.coherent
  have tasks := tasks_after sound.valid now input
  have remains : ∀ task ∈ job.remaining now input, task ∈ job.tasks :=
    fun task member => (job.remaining_sublist now input).subset member
  refine ⟨?_, ?_, ?_, ?_, ?_, ?_, sound.flight_after now input, ?_, ?_, ?_⟩
  · rw [advances.plan, sound.plan]
  · rw [advances.infraRetry, sound.infraRetry]
  · rw [advances.triggerInput, sound.triggerInput]
  · rw [advances.names, sound.names]
  · rw [timeoutMs_after, sound.timeoutMs]
  · rw [launchedNext, reportsNext]
    exact valid
  · rw [tasks, List.map_append, touched_index, newTasks_index, List.nodup_append]
    refine ⟨sound.distinct.sublist ((job.remaining_sublist now input).map _),
      (List.nodup_append.mp coherent.launchedDistinct).2.1, ?_⟩
    intro index member another other
    obtain ⟨task, remained, rfl⟩ := List.mem_map.mp member
    rintro rfl
    exact sound.launching_fresh wellFormed other (sound.manned task (remains task remained))
  · rw [tasks, launchedNext]
    intro task member
    rcases List.mem_append.mp member with old | new
    · obtain ⟨earlier, remained, rfl⟩ := List.mem_map.mp old
      rw [(touch_alike job input earlier).index]
      exact List.mem_append_left _ (sound.manned earlier (remains earlier remained))
    · obtain ⟨index, launches, rfl⟩ := List.mem_map.mp new
      exact List.mem_append_right _ launches
  · rw [tasks]
    intro task member
    rcases List.mem_append.mp member with old | new
    · obtain ⟨earlier, remained, rfl⟩ := List.mem_map.mp old
      have alike := touch_alike job input earlier
      rw [alike.infraRetry, alike.retry, alike.index]
      exact sound.charged earlier (remains earlier remained)
    · obtain ⟨index, launches, rfl⟩ := List.mem_map.mp new
      refine ⟨sound.infraRetry, ?_⟩
      intro step found
      simp only [newTask] at found ⊢
      rw [sound.plan, found]
      rfl

/-- A report that the run takes comes from a task that has ended. -/
theorem task_of_report {report : StepReport}
    (member : report ∈ Occurrence.reports ⟨job, now, input⟩) :
    ∃ task ∈ job.tasks, ∃ result, task.phase = .ended result ∧
      report = ⟨task.index, task.attempts, result⟩ := by
  cases answered : job.answer? now input with
  | none => simp [Occurrence.reports, Occurrence.answer?, answered] at member
  | some answer =>
    simp only [Occurrence.reports, Occurrence.answer?, answered, Option.map_some,
      Option.getD_some] at member
    cases answers_of_answer answered with
    | @joined task other phase found ended =>
      rw [List.mem_singleton.mp member]
      unfold StepTask.report? at ended
      split at ended
      · next result own =>
        cases ended
        exact ⟨task, (mem_of_task found).1, result, own, rfl⟩
      · cases ended
    | _ => simp [Run.Input.reports] at member

/-- A task after an input was touched by it, or launched. -/
theorem Sound.task_after (sound : Sound start past job) {task : StepTask}
    (member : task ∈ (job.advance now input).1.tasks) :
    (∃ earlier ∈ job.tasks, task = job.touch input earlier) ∨
      ∃ index ∈ job.launching now input,
        task = job.newTask index (job.run.resolveInput index) := by
  rw [tasks_after sound.valid] at member
  rcases List.mem_append.mp member with old | new
  · obtain ⟨earlier, remains, rfl⟩ := List.mem_map.mp old
    exact Or.inl ⟨earlier, (job.remaining_sublist now input).subset remains, rfl⟩
  · obtain ⟨index, launches, rfl⟩ := List.mem_map.mp new
    exact Or.inr ⟨index, launches, rfl⟩

/-- The course of a new execution is sound all along. -/
theorem Course.sound {plan : Plan} (wellFormed : plan.WellFormed) {executor : Executor}
    {infraRetry : RetryPolicy} {timeoutMs : Nat} {id tenantId : Uuid} {triggerInput : Json}
    (course : Course (prepare executor plan infraRetry timeoutMs
      (.pending plan id tenantId triggerInput)) past job) :
    Sound (prepare executor plan infraRetry timeoutMs
      (.pending plan id tenantId triggerInput)) past job := by
  induction course with
  | start =>
    refine ⟨rfl, rfl, rfl, rfl, rfl, ?_, rfl, List.nodup_nil, by simp [prepare],
      by simp [prepare]⟩
    exact ⟨⟨rfl, rfl, rfl, rfl⟩, rfl, rfl, rfl⟩
  | next course now input inductionHypothesis => exact inductionHypothesis.next wellFormed now input

end

end Job

end WorkflowEngine
