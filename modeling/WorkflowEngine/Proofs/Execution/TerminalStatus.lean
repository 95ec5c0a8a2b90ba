/-
This file proves that the status with which an execution ends tells the truth: each halt has its
evidence in the course, the first halt decides, and nothing is started after it.
-/

import WorkflowEngine.Proofs.Execution.Dependencies
import WorkflowEngine.Proofs.Execution.Evidence
import WorkflowEngine.Proofs.Execution.Skipping

namespace WorkflowEngine.Job

/-- A halt is justified by what has happened before. -/
def Justified (plan : Plan) (limit : UInt32) (timeoutMs : Nat) (past : List Occurrence) :
    Halt → Prop
  | .cancelled => CancelCalled past
  | .failed (.stepFailed nodeId message) => ∃ report ∈ reports past,
      plan.haltOf report = some (.failed (.stepFailed nodeId message))
  | .failed .executionTimeout => Overdue timeoutMs past
  | .failed (.infrastructureError _) =>
      SaveExhausted limit past ∨ ExecutorLacked limit past ∨ TaskDied past

/-- What a snapshot shows of the end is borne out by the course. -/
structure Truthful (plan : Plan) (limit : UInt32) (timeoutMs : Nat) (past : List Occurrence)
    (job : Job) : Prop where
  shows : job.snapshot = job.run.execution
  counted : job.snapshot.steps.length = plan.steps.length
  settled : ∀ record ∈ job.snapshot.steps, record.status.isSettled = true
  succeeded : job.snapshot.status = .succeeded → job.snapshot.failure = none ∧
    ∀ (index : Nat) (step : PlanStep) (record : StepRecord),
      plan.steps[index]? = some step → job.snapshot.steps[index]? = some record →
        record.status = .succeeded ∨ step.tolerant = true ∧ record.status = .failed
  cancelled : job.snapshot.status = .cancelled →
    job.snapshot.failure = none ∧ CancelCalled past
  failed : job.snapshot.status = .failed → ∃ reason, job.snapshot.failure = some reason
  stepFailed : ∀ nodeId message, job.snapshot.failure = some (.stepFailed nodeId message) →
    ∃ (index : Nat) (step : PlanStep) (record : StepRecord),
      plan.steps[index]? = some step ∧ step.nodeId = nodeId ∧
      step.tolerant = false ∧ job.snapshot.steps[index]? = some record ∧
      record.nodeId = nodeId ∧ record.status = .failed ∧ record.error = some message
  overdue : job.snapshot.failure = some .executionTimeout → Overdue timeoutMs past
  infrastructure : ∀ message, job.snapshot.failure = some (.infrastructureError message) →
    SaveExhausted limit past ∨ ExecutorLacked limit past ∨ TaskDied past
  concluded : ∃ occurrence ∈ past, occurrence.Concludes job.run

/-- After a halt no step begins to run, and no task begins another attempt. -/
structure Occurrence.Still (occurrence : Occurrence) : Prop where
  running : ∀ index, (occurrence.after.run.record index).status = .running →
    (occurrence.before.run.record index).status = .running
  attempting : ∀ task ∈ occurrence.after.tasks, task.phase = .attempting →
    task ∈ occurrence.before.tasks

theorem Justified.append {plan : Plan} {limit : UInt32} {timeoutMs : Nat}
    {past : List Occurrence} {halt : Halt} (justified : Justified plan limit timeoutMs past halt)
    (more : List Occurrence) : Justified plan limit timeoutMs (past ++ more) halt := by
  match halt with
  | .cancelled => exact CancelCalled.append justified more
  | .failed (.stepFailed nodeId message) =>
    obtain ⟨report, member, halts⟩ := justified
    refine ⟨report, ?_, halts⟩
    rw [reports_append]
    exact List.mem_append_left _ member
  | .failed .executionTimeout => exact Overdue.append justified more
  | .failed (.infrastructureError message) =>
    rcases justified with exhausted | lacked | died
    · exact Or.inl (exhausted.append more)
    · exact Or.inr (Or.inl (lacked.append more))
    · exact Or.inr (Or.inr (died.append more))

/-- The course bears out why a run has halted. -/
structure Attested (start : Job) (past : List Occurrence) (job : Job) : Prop where
  opened : job.run.phase ≠ .unopened → ∃ opening ∈ past, opening.input = .opened ∧
    opening.before.run.phase = .unopened ∧ opening.now.ticks = job.run.openedAt
  requested : job.cancelRequested = true → job.run.phase ≠ .closed → CancelCalled past
  justified : ∀ halt, job.run.halted = some halt →
    Justified start.run.plan start.run.infraRetry.attempts start.timeoutMs past halt

section

variable {start job : Job} {past : List Occurrence} {now : Moment} {input : Input}

theorem run_after_closed (closed : job.run.phase = .closed) (now : Moment) (input : Input) :
    (job.advance now input).1.run = job.run := by
  apply run_still
  intro answer _
  exact advance_closed closed now answer

/-- A run is opened by the first answer that it takes. -/
theorem opened_after (unopened : job.run.phase = .unopened)
    (opened : (job.advance now input).1.run.phase ≠ .unopened) :
    input = .opened ∧ (job.advance now input).1.run.openedAt = now.ticks := by
  rw [run_after] at opened ⊢
  cases answered : job.answer? now input with
  | none => simp [answered, unopened] at opened
  | some answer =>
    simp only [answered] at opened ⊢
    cases answers_of_answer answered with
    | opened =>
      refine ⟨rfl, ?_⟩
      simp only [Run.advance, unopened]
      rfl
    | _ => simp [Run.advance, unopened] at opened

/-- A report that halts the run is borne out by the course. -/
theorem Attested.reported (sound : Sound start past job) (accounted : Accounted start past job)
    (attested : Attested start past job) (unhalted : job.run.halted = none)
    (unclosed : job.run.phase ≠ .closed) {report : StepReport} (member : report ∈ reports past)
    {halt : Halt} (halts : job.run.plan.haltOf report = some halt) :
    Justified start.run.plan start.run.infraRetry.attempts start.timeoutMs past halt := by
  rw [sound.plan] at halts
  have cause := halts
  unfold Plan.haltOf at halts
  split at halts
  · cases halts
  · split at halts
    · cases halts
    · cases halts
      exact ⟨report, member, cause⟩
  · next message lacks =>
    cases halts
    exact Or.inr (Or.inl ⟨report, member, ⟨message, lacks⟩,
      accounted.lacked report member message lacks⟩)
  · next interrupted =>
    cases halts
    have stopped := accounted.interrupted report member interrupted
    simp only [Job.interrupted, unhalted, Option.isSome_none, Bool.or_false] at stopped
    exact attested.requested stopped unclosed

theorem Attested.next (sound : Sound start past job) (tallied : Tallied past job)
    (accounted : Accounted start past job) (attested : Attested start past job) (now : Moment)
    (input : Input) :
    Attested start (past ++ [⟨job, now, input⟩]) (job.advance now input).1 := by
  have advances := sound.advances now input
  refine ⟨?_, ?_, ?_⟩
  · intro opened
    by_cases unopened : job.run.phase = .unopened
    · obtain ⟨rfl, ticks⟩ := opened_after unopened opened
      exact ⟨⟨job, now, .opened⟩, by simp, rfl, unopened, ticks.symm⟩
    · obtain ⟨opening, member, facts⟩ := attested.opened unopened
      rw [(advances.opened unopened).2]
      exact ⟨opening, List.mem_append_left _ member, facts⟩
  · intro requested unclosed
    have earlier : job.run.phase ≠ .closed := fun closed =>
      unclosed (run_after_closed closed now input ▸ closed)
    rw [cancelRequested_after, Bool.or_eq_true] at requested
    rcases requested with before | asks
    · exact (attested.requested before earlier).append _
    · cases input <;> simp [Input.requestsCancel] at asks
      exact ⟨⟨job, now, .cancelRequested⟩, by simp, rfl, earlier⟩
  · intro halt halted
    rcases advances.halted with same | ⟨unhalted, first, came, answer, answers, cause⟩
    · exact (attested.justified halt (same ▸ halted)).append _
    · have equal : first = halt := Option.some.inj (came.symm.trans halted)
      subst equal
      have unclosed : job.run.phase ≠ .closed := by
        intro closed
        rw [run_after_closed closed, unhalted] at halted
        cases halted
      cases cause with
      | cancelled phase =>
        cases answers with
        | cancelled hears =>
          simp only [hearsCancel, Bool.and_eq_true] at hears
          exact (attested.requested hears.1 unclosed).append _
      | expired phase =>
        cases answers with
        | expired hears =>
          obtain ⟨opening, member, asked, unopened, ticks⟩ :=
            attested.opened (by simp [phase])
          simp only [hearsDeadline, deadline, Bool.and_eq_true] at hears
          refine ⟨opening, List.mem_append_left _ member, asked, unopened,
            ⟨job, now, .expired⟩, by simp, phase, ?_⟩
          rw [ticks, ← sound.timeoutMs]
          exact of_decide_eq_true hears.1
      | lost index detail message =>
        cases answers with
        | @died task _ _ phase found unended =>
          obtain ⟨inside, same⟩ := mem_of_task found
          exact Or.inr (Or.inr ⟨⟨job, now, .died index detail⟩, by simp, index, detail, rfl, phase,
            task, inside, same, unended⟩)
      | @exhausted _ _ error message phase last =>
        cases answers with
        | saved =>
          have exhausted := tallied.exhausted phase now error last
          rw [sound.infraRetry] at exhausted
          exact Or.inl exhausted
      | reported member halts =>
        exact (attested.reported sound accounted unhalted unclosed member halts).append _

theorem Course.attested {plan : Plan} (wellFormed : plan.WellFormed) {executor : Executor}
    {infraRetry : RetryPolicy} {timeoutMs : Nat} {id tenantId : Uuid} {triggerInput : Json}
    (course : Course (prepare executor plan infraRetry timeoutMs
      (.pending plan id tenantId triggerInput)) past job) :
    Tallied past job ∧
      Accounted (prepare executor plan infraRetry timeoutMs
        (.pending plan id tenantId triggerInput)) past job ∧
      Attested (prepare executor plan infraRetry timeoutMs
        (.pending plan id tenantId triggerInput)) past job := by
  induction course with
  | start =>
    refine ⟨tallied_unfailed rfl, ⟨?_, ?_, ?_, ?_, ?_, ?_⟩, ⟨?_, ?_, ?_⟩⟩ <;>
      simp [prepare, Run.prepare, reports]
  | next course now input inductionHypothesis =>
    obtain ⟨tallied, accounted, attested⟩ := inductionHypothesis
    have sound := course.sound wellFormed
    exact ⟨tallied.next sound (course.standing wellFormed) now input,
      accounted.next wellFormed sound now input,
      attested.next sound tallied accounted now input⟩

theorem Course.before {occurrence : Occurrence} (course : Course start past job)
    (member : occurrence ∈ past) : ∃ earlier, Course start earlier occurrence.before := by
  obtain ⟨earlier, later, listed⟩ := List.append_of_mem member
  exact ⟨earlier, course.upTo listed⟩

/-- The first halt stays to the end of a course. -/
theorem Course.halted_mono (course : Course start past job)
    (sound : ∀ past job, Course start past job → Sound start past job)
    {occurrence : Occurrence} (member : occurrence ∈ past) {halt : Halt}
    (halted : occurrence.after.run.halted = some halt) : job.run.halted = some halt := by
  induction course with
  | start => simp at member
  | @next past job course now input inductionHypothesis =>
    rcases List.mem_append.mp member with old | new
    · exact ((sound past job course).advances now input).halted_mono (inductionHypothesis old)
    · rw [List.mem_singleton.mp new] at halted
      exact halted

/-- A run that launches a step does not halt in the same turn. -/
theorem Sound.launching_unhalted (sound : Sound start past job) {index : Nat}
    (member : index ∈ job.launching now input) :
    (job.advance now input).1.run.halted = none := by
  obtain ⟨rfl, previous, failures, phase, live, unhalted, _⟩ := sound.launching_errand member
  rcases (sound.advances now (.saved (.ok ()))).halted with
    same | ⟨_, halt, _, answer, answers, cause⟩
  · rw [same, unhalted]
  · -- neither the answer nor a report gives a reason to halt
    cases answers
    cases cause with
    | reported inside halts =>
      have releases := live.undisturbed unhalted rfl _ inside
      rw [(Plan.haltOf_eq_none ..).mpr releases] at halts
      cases halts

/-- A task attempts after an input as before, or because its pause has ended. -/
theorem touch_attempting {task : StepTask}
    (attempting : (job.touch input task).phase = .attempting) :
    job.touch input task = task ∨
      job.interrupted = false ∧ ∃ index, input = .pauseEnded index := by
  unfold touch at attempting ⊢
  split at attempting
  · split at attempting
    · unfold StepTask.attemptEnded at attempting
      dsimp only at attempting
      split at attempting
      · simp [StepTask.finish] at attempting
      · split at attempting <;> simp [StepTask.finish] at attempting
    · next other => exact Or.inl (if_neg other)
  · split at attempting
    · unfold StepTask.lacksExecutor at attempting
      dsimp only at attempting
      split at attempting <;> simp [StepTask.finish] at attempting
    · next other => exact Or.inl (if_neg other)
  · split at attempting
    · next index own => exact Or.inr ⟨by simpa using own.2, index, rfl⟩
    · next other => exact Or.inl (if_neg other)
  · split at attempting
    · next own =>
      unfold StepTask.interrupt at attempting
      split at attempting
      · simp [StepTask.finish] at attempting
      · next unpaused =>
        left
        rw [if_pos own]
        unfold StepTask.interrupt
        split
        · next pausing => exact absurd pausing (unpaused _)
        · rfl
    · next other => exact Or.inl (if_neg other)
  · exact Or.inl rfl

theorem Sound.still (sound : Sound start past job)
    (halted : (job.advance now input).1.run.halted ≠ none) :
    Occurrence.Still ⟨job, now, input⟩ := by
  refine ⟨(sound.advances now input).running halted, ?_⟩
  intro task member attempting
  rcases sound.task_after member with ⟨earlier, old, rfl⟩ | ⟨index, launches, rfl⟩
  · rcases touch_attempting attempting with same | ⟨calm, index, rfl⟩
    · rw [same]
      exact old
    · have kept : (job.advance now (.pauseEnded index)).1.run = job.run := run_after ..
      rw [kept] at halted
      simp only [Job.interrupted, Bool.or_eq_false_iff, Option.isSome_eq_false_iff,
        Option.isNone_iff_eq_none] at calm
      exact absurd calm.2 halted
  · exact absurd (sound.launching_unhalted launches) halted

/-- The last save that is exhausted leaves its evidence, too. -/
theorem Course.last_exhausted {plan : Plan} (wellFormed : plan.WellFormed) {executor : Executor}
    {infraRetry : RetryPolicy} {timeoutMs : Nat} {id tenantId : Uuid} {triggerInput : Json}
    (course : Course (prepare executor plan infraRetry timeoutMs
      (.pending plan id tenantId triggerInput)) past job)
    {occurrence : Occurrence} (member : occurrence ∈ past) {errand : Errand} {error : StoreError}
    (phase : occurrence.before.run.phase = .saving errand occurrence.before.run.failures)
    (answer : occurrence.input = .saved (.error error))
    (last : occurrence.before.run.infraRetry.attempts ≤ occurrence.before.run.failures + 1) :
    SaveExhausted infraRetry.attempts past := by
  induction course with
  | start => simp at member
  | @next past job course now input inductionHypothesis =>
    rcases List.mem_append.mp member with old | new
    · exact (inductionHypothesis old).append _
    · have same := List.mem_singleton.mp new
      subst same
      dsimp only at answer phase last
      subst answer
      have exhausted := (course.attested wellFormed).1.exhausted phase now error last
      rw [(course.sound wellFormed).infraRetry] at exhausted
      exact exhausted

/-- A failure in the verdict is that of the halt, or that of the last save. -/
theorem finalVerdict_failure {halted : Option Halt} {outcome : Except StoreError Unit}
    {reason : FailureReason} (failure : (Run.finalVerdict halted outcome).2 = some reason) :
    halted = some (.failed reason) ∨ ∃ error, outcome = .error error ∧
      ∃ message, reason = .infrastructureError message := by
  cases outcome with
  | ok =>
    left
    simp only [Run.finalVerdict, Run.verdict] at failure
    split at failure
    · cases failure
    · cases failure
    · cases failure
      rfl
  | error error =>
    right
    cases failure
    exact ⟨error, rfl, _, rfl⟩

/-- The status of the verdict is decided by the halt unless the last save has failed. -/
theorem finalVerdict_status {halted : Option Halt} {outcome : Except StoreError Unit} :
    ((Run.finalVerdict halted outcome).1 = .succeeded →
      (Run.finalVerdict halted outcome).2 = none ∧ halted = none) ∧
    ((Run.finalVerdict halted outcome).1 = .cancelled →
      (Run.finalVerdict halted outcome).2 = none ∧ halted = some .cancelled) ∧
    ((Run.finalVerdict halted outcome).1 = .failed →
      ∃ reason, (Run.finalVerdict halted outcome).2 = some reason) := by
  cases outcome with
  | ok =>
    simp only [Run.finalVerdict, Run.verdict]
    split <;> simp
  | error error => simp [Run.finalVerdict]

/-- A step whose failure has halted the run shows this failure. -/
theorem Sound.failed_step (sound : Sound start past job) {ledger : Ledger}
    (coherent : job.run.Coherent ledger) {report : StepReport} (member : report ∈ ledger.reports)
    (names : start.run.execution.steps.map StepRecord.nodeId =
      start.run.plan.steps.map PlanStep.nodeId) {nodeId message : String}
    (halts : start.run.plan.haltOf report = some (.failed (.stepFailed nodeId message))) :
    ∃ (index : Nat) (step : PlanStep) (record : StepRecord),
      start.run.plan.steps[index]? = some step ∧ step.nodeId = nodeId ∧ step.tolerant = false ∧
        job.run.execution.steps[index]? = some record ∧ record.nodeId = nodeId ∧
        record.status = .failed ∧ record.error = some message := by
  have inside := coherent.launchedInside _
    (coherent.reportedLaunched _ (List.mem_map_of_mem member))
  obtain ⟨record, recorded⟩ : ∃ record, job.run.execution.steps[report.index]? = some record :=
    ⟨_, List.getElem?_eq_getElem (coherent.recordCount ▸ inside)⟩
  obtain ⟨step, found⟩ : ∃ step, start.run.plan.steps[report.index]? = some step :=
    ⟨_, List.getElem?_eq_getElem (sound.plan ▸ inside)⟩
  have outcome := coherent.resolved report member
  have shown : job.run.record report.index = record := by simp [Run.record, recorded]
  have named := congrArg (fun names => names[report.index]?) (sound.names.trans names)
  simp only [List.getElem?_map, recorded, found, Option.map_some, Option.some.injEq] at named
  unfold Plan.haltOf at halts
  split at halts
  · cases halts
  · next text failed =>
    split at halts
    · cases halts
    · next strict =>
      simp only [found, Option.map_some, Option.getD_some, Option.some.injEq, Halt.failed.injEq,
        FailureReason.stepFailed.injEq] at halts
      obtain ⟨rfl, rfl⟩ := halts
      rw [shown] at outcome
      simp only [StepReport.outcome, failed] at outcome
      refine ⟨report.index, _, _, found, rfl, ?_, recorded, named,
        congrArg StepOutcome.status outcome, congrArg StepOutcome.error outcome⟩
      simpa [Plan.tolerates, found] using strict
  · cases halts
  · cases halts

/-- Without a halt every step has succeeded, or is tolerant and has failed. -/
theorem Sound.flawless (sound : Sound start past job)
    (ended : job.run.Ended ⟨launched past, reports past, reports past, none, none⟩)
    (unhalted : job.run.halted = none) {index : Nat} {step : PlanStep} {record : StepRecord}
    (found : start.run.plan.steps[index]? = some step)
    (recorded : job.run.execution.steps[index]? = some record) :
    record.status = .succeeded ∨ step.tolerant = true ∧ record.status = .failed := by
  have inside := (List.getElem?_eq_some_iff.mp found).1
  have released := ended.flawless unhalted index (sound.plan ▸ inside)
  have shown : job.run.record index = record := by simp [Run.record, recorded]
  rcases sound.released (sound.plan ▸ released) with succeeded | ⟨failed, tolerant, _⟩
  · exact Or.inl (shown ▸ succeeded)
  · rw [sound.plan] at tolerant
    exact Or.inr ⟨by simpa [Plan.tolerates, found] using tolerant, shown ▸ failed⟩

theorem Course.truthful {plan : Plan} (wellFormed : plan.WellFormed) {executor : Executor}
    {infraRetry : RetryPolicy} {timeoutMs : Nat} {id tenantId : Uuid} {triggerInput : Json}
    (course : Course (prepare executor plan infraRetry timeoutMs
      (.pending plan id tenantId triggerInput)) past job)
    (terminal : job.snapshot.status.isTerminal = true) :
    Truthful plan infraRetry.attempts timeoutMs past job := by
  have sound := course.sound wellFormed
  have standing := course.standing wellFormed
  obtain ⟨_, _, attested⟩ := course.attested wellFormed
  obtain ⟨shows, ended, sweeps⟩ := standing.ended sound terminal
  obtain ⟨occurrence, member, concludes⟩ : ∃ occurrence ∈ past, occurrence.Concludes job.run := by
    cases standing with
    | opened opened unended => simp [unended] at terminal
    | closed closed snapshot last => exact last
  obtain ⟨outcome, answer, shown, exhausted⟩ := concludes.shown
  obtain ⟨succeeds, cancels, fails⟩ := @finalVerdict_status job.run.halted outcome
  have status : job.snapshot.status = (Run.finalVerdict job.run.halted outcome).1 := by
    rw [shows, ← shown]
    rfl
  have failure : job.snapshot.failure = (Run.finalVerdict job.run.halted outcome).2 := by
    rw [shows, ← shown]
    rfl
  refine ⟨shows, ?_, ?_, ?_, ?_, ?_, ?_, ?_, ?_, ⟨occurrence, member, concludes⟩⟩
  · rw [shows, ended.recordCount, sound.plan]
    rfl
  · rw [shows]
    intro record inside
    obtain ⟨index, bound, rfl⟩ := List.getElem_of_mem inside
    have settled := sweeps.settled index (ended.recordCount ▸ bound) (by simp)
    simpa [Run.record, bound] using settled
  · intro succeeded
    obtain ⟨calm, unhalted⟩ := succeeds (status ▸ succeeded)
    refine ⟨failure.trans calm, ?_⟩
    intro index step record found recorded
    rw [shows] at recorded
    exact sound.flawless ended unhalted found recorded
  · intro cancelled
    obtain ⟨calm, halted⟩ := cancels (status ▸ cancelled)
    exact ⟨failure.trans calm, attested.justified _ halted⟩
  · intro failed
    rw [failure]
    exact fails (status ▸ failed)
  · intro nodeId message shownFailure
    rw [shows]
    rcases finalVerdict_failure (failure ▸ shownFailure) with halted | ⟨_, _, _, other⟩
    · obtain ⟨report, reported, halts⟩ := attested.justified _ halted
      have names : (prepare executor plan infraRetry timeoutMs
          (.pending plan id tenantId triggerInput)).run.execution.steps.map StepRecord.nodeId =
            plan.steps.map PlanStep.nodeId := by
        simp [prepare, Run.prepare, Execution.pending, StepRecord.pending]
      exact sound.failed_step ended.toCoherent reported names halts
    · cases other
  · intro shownFailure
    rcases finalVerdict_failure (failure ▸ shownFailure) with halted | ⟨_, _, _, other⟩
    · exact attested.justified _ halted
    · cases other
  · intro message shownFailure
    rcases finalVerdict_failure (failure ▸ shownFailure) with halted | ⟨error, rfl, _, _⟩
    · exact attested.justified _ halted
    · obtain ⟨ending, phase⟩ := concludes.saving
      exact Or.inl (course.last_exhausted wellFormed member phase answer (exhausted error rfl))

end

/-- The snapshot of an ended execution is truthful, and the first halt stays. -/
theorem terminal_status_truthful {compiler : Compiler} {definition : Definition} {plan : Plan}
    (compiled : compiler.compile definition = .ok plan) {executor : Executor}
    {infraRetry : RetryPolicy} {timeoutMs : Nat} {id tenantId : Uuid} {triggerInput : Json}
    {past : List Occurrence} {job : Job}
    (course : Course (prepare executor plan infraRetry timeoutMs
      (.pending plan id tenantId triggerInput)) past job) :
    (job.snapshot.status.isTerminal = true →
      Truthful plan infraRetry.attempts timeoutMs past job) ∧
    ∀ occurrence ∈ past, ∀ halt, occurrence.after.run.halted = some halt →
      job.run.halted = some halt ∧ occurrence.Still := by
  have wellFormed := Compiler.compile_wellFormed compiled
  refine ⟨course.truthful wellFormed, ?_⟩
  intro occurrence member halt halted
  obtain ⟨earlier, before⟩ := course.before member
  refine ⟨course.halted_mono (fun _ _ course => course.sound wellFormed) member halted, ?_⟩
  apply (before.sound wellFormed).still
  rw [show (occurrence.before.advance occurrence.now occurrence.input).1.run.halted =
    some halt from halted]
  simp

/-- The pair fails with the failure of its first step. -/
theorem pair_status_truthful :
    brokenPair.2.snapshot.failure = some (.stepFailed "first" "fatal node error: broken") ∧
      Truthful .pair RetryPolicy.standard.attempts 1000 brokenPair.1 brokenPair.2 := by
  have terminal : brokenPair.2.snapshot.status.isTerminal = true := by decide +kernel
  refine ⟨by decide +kernel, ?_⟩
  exact (terminal_status_truthful Plan.pair_compiled
    (Course.start.replay _ : Course ofPair brokenPair.1 brokenPair.2)).1 terminal

end WorkflowEngine.Job
