/-
This file proves the retry loop of a step: in every course the task of the step makes its attempts
up to the last one, unless a pause between them is interrupted.
-/

import WorkflowEngine.Proofs.Execution.Attempts
import WorkflowEngine.Proofs.Execution.Closing
import WorkflowEngine.Proofs.Execution.Evidence
import WorkflowEngine.Proofs.Execution.Progress
import WorkflowEngine.Proofs.Execution.TerminalStatus
import WorkflowEngine.Proofs.Simulation.StepMoves

namespace WorkflowEngine.Job

open StepTask (Deed)

def deed? (job : Job) (input : Input) (task : StepTask) : Option Deed :=
  match input with
  | .attemptEnded index outcome =>
    if task.index = index ∧ task.phase = .attempting then
      some (.attempted task.attempt.toNat outcome)
    else none
  | .executorMissing index =>
    if task.index = index ∧ task.phase = .attempting then some .lacked else none
  | .pauseEnded index =>
    if task.index = index ∧ ¬job.interrupted then task.pause?.map Deed.rested else none
  | .pauseInterrupted index =>
    if task.index = index ∧ job.interrupted then task.pause?.map fun _ => .interrupted else none
  | _ => none

/-- These are the ways in which an input touches a task, with what the task does. -/
inductive Touches (job : Job) (task : StepTask) : Option Deed → StepTask → Prop where
  | untouched : Touches job task none task
  | attempted {outcome : AttemptOutcome} (attempting : task.phase = .attempting) :
    Touches job task (some (.attempted task.attempt.toNat outcome)) (task.attemptEnded outcome)
  | lacked {message : String} (attempting : task.phase = .attempting) :
    Touches job task (some .lacked) (task.lacksExecutor message)
  | rested {milliseconds : UInt64} (pausing : task.phase = .pausing milliseconds)
    (free : job.interrupted = false) :
    Touches job task (some (.rested milliseconds)) { task with phase := .attempting }
  | interrupted {milliseconds : UInt64} (pausing : task.phase = .pausing milliseconds)
    (stopped : job.interrupted = true) :
    Touches job task (some .interrupted) (task.finish .interrupted)

theorem touches (job : Job) (input : Input) (task : StepTask) :
    job.Touches task (job.deed? input task) (job.touch input task) := by
  cases input with
  | attemptEnded index outcome =>
    simp only [deed?, touch]
    split
    · next own => exact .attempted own.2
    · exact .untouched
  | executorMissing index =>
    simp only [deed?, touch]
    split
    · next own => exact .lacked own.2
    · exact .untouched
  | pauseEnded index =>
    simp only [deed?, touch]
    split
    · next own =>
      cases phase : task.phase <;> simp only [StepTask.pause?, StepTask.rested, phase]
      case pausing => exact .rested phase (by simpa using own.2)
      all_goals exact .untouched
    · exact .untouched
  | pauseInterrupted index =>
    simp only [deed?, touch]
    split
    · next own =>
      cases phase : task.phase <;> simp only [StepTask.pause?, StepTask.interrupt, phase]
      case pausing => exact .interrupted phase own.2
      all_goals exact .untouched
    · exact .untouched
  | _ => exact .untouched

theorem deed_ended {job : Job} {input : Input} {task : StepTask} {result : StepResult}
    (ended : task.phase = .ended result) : job.deed? input task = none := by
  cases input <;> simp [deed?, StepTask.pause?, ended]

def Occurrence.deeds (index : Nat) (occurrence : Occurrence) : List Deed :=
  ((occurrence.before.task? index).bind (occurrence.before.deed? occurrence.input)).toList

def deeds (index : Nat) (past : List Occurrence) : List Deed :=
  past.flatMap (Occurrence.deeds index)

theorem deeds_concat (index : Nat) (past : List Occurrence) (occurrence : Occurrence) :
    deeds index (past ++ [occurrence]) = deeds index past ++ occurrence.deeds index := by
  simp [deeds]

/-- An executor is missing only to a step whose node type the catalog does not hold. -/
def Staffed (past : List Occurrence) : Prop :=
  ∀ occurrence ∈ past, ∀ index step, occurrence.input = .executorMissing index →
    occurrence.before.run.plan.steps[index]? = some step →
      occurrence.before.executor.catalog.get? step.nodeType = none

section

variable {start job : Job} {past : List Occurrence} {now : Moment} {input : Input}
  {outcomes : Nat → AttemptOutcome} {policy : RetryPolicy} {index : Nat}

theorem Course.append {last : Job} {later : List Occurrence} (course : Course start past job)
    (further : Course job later last) : Course start (past ++ later) last := by
  induction further with
  | start => rwa [List.append_nil]
  | next _ now input inductionHypothesis =>
    rw [← List.append_assoc]
    exact inductionHypothesis.next now input

theorem Course.executor (course : Course start past job) : job.executor = start.executor := by
  induction course with
  | start => rfl
  | next _ now input inductionHypothesis => rw [executor_after, inductionHypothesis]

theorem Sound.task_found (sound : Sound start past job) {task : StepTask}
    (member : task ∈ job.tasks) : job.task? task.index = some task := by
  have isSome : (job.task? task.index).isSome = true :=
    List.find?_isSome.mpr ⟨task, member, by simp⟩
  obtain ⟨found, same⟩ := Option.isSome_iff_exists.mp isSome
  obtain ⟨inside, index⟩ := mem_of_task same
  rw [same, List.inj_on_of_nodup_map sound.distinct inside member index]

theorem task_missing (missing : ∀ task ∈ job.tasks, task.index ≠ index) :
    job.task? index = none :=
  List.find?_eq_none.mpr fun task member => by simpa using missing task member

theorem Sound.unmanned (sound : Sound start past job) (fresh : index ∉ launched past) :
    job.task? index = none :=
  task_missing fun task member same => fresh (same ▸ sound.manned task member)

/-- A step whose node type the catalog holds does not lack its executor. -/
theorem Course.unlacked (course : Course start past job) (staffed : Staffed past)
    (plan : ∀ past job, Course start past job → job.run.plan = start.run.plan)
    {step : PlanStep} (found : start.run.plan.steps[index]? = some step) {node : Node}
    (known : start.executor.catalog.get? step.nodeType = some node) :
    .lacked ∉ deeds index past := by
  intro member
  obtain ⟨occurrence, occurs, lacks⟩ := List.mem_flatMap.mp member
  obtain ⟨earlier, before⟩ := course.before occurs
  obtain ⟨task, sought, lacks⟩ := Option.bind_eq_some_iff.mp (Option.mem_toList.mp lacks)
  have missing : occurrence.input = .executorMissing index := by
    rw [← (mem_of_task sought).2]
    cases input : occurrence.input <;> simp [deed?, input] at lacks
    exact congrArg _ lacks.1.symm
  have unknown := staffed occurrence occurs index step missing (plan _ _ before ▸ found)
  rw [before.executor, known] at unknown
  cases unknown

/-- A report comes from a step that has landed. -/
theorem landed_of_report {report : StepReport} (member : report ∈ reports past) :
    report.index ∈ landed past := by
  obtain ⟨occurrence, occurs, reported⟩ := List.mem_flatMap.mp member
  refine List.mem_flatMap.mpr ⟨occurrence, occurs, ?_⟩
  cases answered : occurrence.before.answer? occurrence.now occurrence.input with
  | none => simp [Occurrence.reports, Occurrence.answer?, answered] at reported
  | some answer =>
    simp only [Occurrence.reports, Occurrence.landed, Occurrence.answer?, answered,
      Option.map_some, Option.getD_some] at reported ⊢
    generalize occurrence.input = input at answered
    cases answers_of_answer answered with
    | joined phase found ended =>
      rw [List.mem_singleton.mp reported, phase]
      exact List.mem_singleton_self _
    | _ => simp [Run.Input.reports] at reported

/-- A deed of a task leads to the phase that the retries have after it. -/
theorem Touches.retries {task after : StepTask} {deed : Option Deed} {earlier : List Deed}
    (touches : job.Touches task deed after) (retry : task.retry = policy)
    (retries : policy.Retries outcomes earlier task.attempts.toNat task.phase)
    (follows : ∀ done ∈ deed.toList, done.Follows outcomes) :
    policy.Retries outcomes (earlier ++ deed.toList) after.attempts.toNat after.phase := by
  cases touches with
  | untouched => simpa using retries
  | attempted attempting =>
    rw [show _ = _ from follows _ (List.mem_singleton_self _)]
    exact (attempting ▸ retries).attempted retry
  | lacked => exact (follows _ (List.mem_singleton_self _)).elim
  | rested pausing => exact (pausing ▸ retries).rested
  | interrupted pausing => exact (pausing ▸ retries).interrupt

/-- What a step has done agrees with its task and with its report. -/
structure Retried (policy : RetryPolicy) (outcomes : Nat → AttemptOutcome) (index : Nat)
    (past : List Occurrence) (job : Job) : Prop where
  tasked : ∀ task, job.task? index = some task →
    policy.Retries outcomes (deeds index past) task.attempts.toNat task.phase
  reported : ∀ report ∈ reports past, report.index = index →
    policy.Retries outcomes (deeds index past) report.attempts.toNat (.ended report.result)
  unlaunched : index ∉ launched past → deeds index past = []
  stopped : .interrupted ∈ deeds index past → job.interrupted = true

theorem Retried.next (wellFormed : start.run.plan.WellFormed) (sound : Sound start past job)
    (paced : Paced past job) {step : PlanStep} (found : start.run.plan.steps[index]? = some step)
    (follows : ∀ deed ∈ Occurrence.deeds index ⟨job, now, input⟩, deed.Follows outcomes)
    (retried : Retried step.retry outcomes index past job) :
    Retried step.retry outcomes index (past ++ [⟨job, now, input⟩]) (job.advance now input).1 := by
  have idle (absent : job.task? index = none) : Occurrence.deeds index ⟨job, now, input⟩ = [] := by
    simp [Occurrence.deeds, absent]
  have manned {task : StepTask} (own : job.task? index = some task) :
      Occurrence.deeds index ⟨job, now, input⟩ = (job.deed? input task).toList := by
    simp [Occurrence.deeds, own]
  refine ⟨?_, ?_, ?_, ?_⟩
  · intro task own
    obtain ⟨inside, same⟩ := mem_of_task own
    rw [deeds_concat]
    rcases sound.task_after inside with ⟨earlier, old, rfl⟩ | ⟨other, launches, rfl⟩
    · have same : earlier.index = index := (touch_alike job input earlier).index.symm.trans same
      have before : job.task? index = some earlier := same ▸ sound.task_found old
      rw [manned before] at follows ⊢
      exact (touches job input earlier).retries
        ((sound.charged earlier old).2 step (same ▸ found)) (retried.tasked earlier before) follows
    · have same : other = index := same
      have fresh := sound.launching_fresh wellFormed (same ▸ launches)
      rw [retried.unlaunched fresh, idle (sound.unmanned fresh)]
      exact .fresh
  · intro report member same
    rw [deeds_concat]
    rw [reports_append, List.mem_append] at member
    rcases member with old | new
    · have down := paced.landed_down sound.launched_distinct (landed_of_report old)
      rw [same, ← sound.flight] at down
      have absent : job.task? index = none := task_missing fun task inside own =>
        down (own ▸ List.mem_map_of_mem inside)
      rw [idle absent, List.append_nil]
      exact retried.reported report old same
    · obtain ⟨task, inside, result, ended, rfl⟩ := task_of_report (by simpa [reports] using new)
      have before : job.task? index = some task := same ▸ sound.task_found inside
      rw [manned before, deed_ended ended]
      simpa [ended] using retried.tasked task before
  · intro fresh
    rw [launched_append, List.mem_append, not_or] at fresh
    rw [deeds_concat, retried.unlaunched fresh.1, idle (sound.unmanned fresh.1)]
    rfl
  · intro member
    apply sound.interrupted_after now input
    rw [deeds_concat, List.mem_append] at member
    rcases member with old | new
    · exact retried.stopped old
    · obtain ⟨task, own, deed⟩ := Option.bind_eq_some_iff.mp (Option.mem_toList.mp new)
      have touches := job.touches input task
      rw [show job.deed? input task = some .interrupted from deed] at touches
      generalize job.touch input task = after at touches
      cases touches with
      | interrupted _ stopped => exact stopped

/-- The retries of a step with an executor go on as its policy says. -/
theorem Course.retried {plan : Plan} (wellFormed : plan.WellFormed) {executor : Executor}
    {infraRetry : RetryPolicy} {timeoutMs : Nat} {id tenantId : Uuid} {triggerInput : Json}
    (course : Course (prepare executor plan infraRetry timeoutMs
      (.pending plan id tenantId triggerInput)) past job) {step : PlanStep}
    (found : plan.steps[index]? = some step)
    (follows : ∀ deed ∈ deeds index past, deed.Follows outcomes) :
    Retried step.retry outcomes index past job := by
  induction course with
  | start => refine ⟨?_, ?_, ?_, ?_⟩ <;> simp [prepare, task?, reports, deeds]
  | @next past job course now input inductionHypothesis =>
    rw [deeds_concat, List.forall_mem_append] at follows
    exact (inductionHypothesis follows.1).next wellFormed (course.sound wellFormed)
      (course.paced wellFormed) found follows.2

/-- The report waits for the run or has been taken by it. -/
def Reported (index : Nat) (past : List Occurrence) (job : Job) (report : StepReport) : Prop :=
  report.index = index ∧
    (report ∈ reports past ∨ (job.task? index).bind StepTask.report? = some report)

theorem phase_of_report {task : StepTask} {report : StepReport}
    (ended : task.report? = some report) : task.phase = .ended report.result ∧
      report.attempts = task.attempts := by
  unfold StepTask.report? at ended
  split at ended
  · next phase =>
    cases ended
    exact ⟨phase, rfl⟩
  · cases ended

/-- Every report of a step bears witness to its deeds. -/
theorem Retried.retries (retried : Retried policy outcomes index past job) {report : StepReport}
    (reported : Reported index past job report) :
    policy.Retries outcomes (deeds index past) report.attempts.toNat (.ended report.result) := by
  obtain ⟨same, taken | waiting⟩ := reported
  · exact retried.reported report taken same
  · obtain ⟨task, own, ended⟩ := Option.bind_eq_some_iff.mp waiting
    obtain ⟨phase, attempts⟩ := phase_of_report ended
    rw [← phase, attempts]
    exact retried.tasked task own

/-- These are the inputs with which a task goes on by itself. -/
def Input.CarriesOn (outcomes : Nat → AttemptOutcome) (index : Nat) : Input → Prop
  | .attemptEnded other outcome => other = index ∧ ∃ number, outcome = outcomes number
  | .pauseEnded other => other = index
  | _ => False

/-- What is no answer to the run and no request only touches the tasks. -/
theorem task_touched (unanswered : job.answer? now input = none)
    (silent : input.requestsCancel = false) (index : Nat) :
    (job.advance now input).1.interrupted = job.interrupted ∧
      (job.advance now input).1.task? index = (job.task? index).map (job.touch input) := by
  have kept : ((fun task : StepTask => task.index == index) ∘ job.touch input) =
      fun task => task.index == index :=
    funext fun task => by simp [(touch_alike job input task).index]
  rw [advance_unanswered unanswered, silent, Bool.or_false]
  refine ⟨rfl, ?_⟩
  simp only [task?]
  rw [List.find?_map, kept]

theorem Input.CarriesOn.advance (carriesOn : input.CarriesOn outcomes index) (job : Job)
    (now : Moment) : (job.advance now input).1.interrupted = job.interrupted ∧
      (job.advance now input).1.task? index = (job.task? index).map (job.touch input) := by
  cases input <;> first | exact task_touched rfl rfl index | exact carriesOn.elim

/-- A task that has not ended goes on with an attempt or with the end of its pause. -/
theorem carriesOn_deed {task : StepTask} (own : job.task? index = some task)
    (free : job.interrupted = false) (unended : ∀ result, task.phase ≠ .ended result) :
    ∃ input deed, input.CarriesOn outcomes index ∧ job.deed? input task = some deed ∧
      deed.Follows outcomes ∧ deed ≠ .interrupted := by
  have same := (mem_of_task own).2
  cases phase : task.phase with
  | attempting =>
    exact ⟨.attemptEnded index (outcomes task.attempt.toNat), _, ⟨rfl, _, rfl⟩,
      if_pos ⟨same, phase⟩, rfl, nofun⟩
  | pausing milliseconds =>
    exact ⟨.pauseEnded index, .rested milliseconds, rfl,
      by simp [deed?, same, phase, free, StepTask.pause?], trivial, nofun⟩
  | ended result => exact absurd phase (unended result)

/-- The task makes attempts or has ended, and no pause may be interrupted. -/
structure Underway (policy : RetryPolicy) (outcomes : Nat → AttemptOutcome) (index : Nat)
    (past : List Occurrence) (job : Job) (task : StepTask) : Prop where
  own : job.task? index = some task
  retry : task.retry = policy
  free : job.interrupted = false
  uninterrupted : .interrupted ∉ deeds index past
  retries : policy.Retries outcomes (deeds index past) task.attempts.toNat task.phase

/-- A step that is underway goes on by one deed. -/
theorem Underway.next {task : StepTask} (underway : Underway policy outcomes index past job task)
    (unended : ∀ result, task.phase ≠ .ended result) (now : Moment) :
    ∃ input after, input.CarriesOn outcomes index ∧
      (deeds index (past ++ [⟨job, now, input⟩])).length = (deeds index past).length + 1 ∧
      Underway policy outcomes index (past ++ [⟨job, now, input⟩]) (job.advance now input).1
        after := by
  obtain ⟨input, deed, carriesOn, does, follows, uninterrupting⟩ :=
    carriesOn_deed underway.own underway.free unended
  obtain ⟨free, tasks⟩ := carriesOn.advance job now
  have grown : deeds index (past ++ [⟨job, now, input⟩]) = deeds index past ++ [deed] := by
    rw [deeds_concat]
    simp [Occurrence.deeds, underway.own, does]
  have touches := job.touches input task
  rw [does] at touches
  refine ⟨input, job.touch input task, carriesOn, ?_, ?_, ?_, ?_, ?_, ?_⟩
  · rw [grown, List.length_append, List.length_singleton]
  · rw [tasks, underway.own, Option.map_some]
  · rw [(touch_alike job input task).retry, underway.retry]
  · rw [free, underway.free]
  · rw [grown, List.mem_append, List.mem_singleton, not_or]
    exact ⟨underway.uninterrupted, uninterrupting.symm⟩
  · rw [grown]
    exact touches.retries underway.retry underway.retries (by simpa using follows)

/-- A step that is underway and has ended is completed. -/
theorem Underway.ended {task : StepTask} (underway : Underway policy outcomes index past job task)
    {result : StepResult} (ended : task.phase = .ended result) :
    ∃ report, Reported index past job report ∧
      policy.Completed outcomes (deeds index past) report.attempts.toNat report.result := by
  have retries := underway.retries
  rw [ended] at retries
  refine ⟨⟨task.index, task.attempts, result⟩, ⟨(mem_of_task underway.own).2, .inr ?_⟩,
    retries.completed underway.uninterrupted⟩
  rw [underway.own, Option.bind_some, StepTask.report?, ended]

end

end WorkflowEngine.Job
