/-
This file holds the courses that a job may take, with all that happens to it in any order, and what
one thing that happens does to the job.
-/

import WorkflowEngine.Proofs.Execution.Attribution
import WorkflowEngine.Proofs.Execution.Flight
import WorkflowEngine.Proofs.Execution.Verdict

namespace WorkflowEngine

def Effect.launched? : Effect → Option Nat
  | .launch index _ => some index
  | _ => none

namespace Job

/-- Only some inputs answer the run. -/
def answer? (job : Job) (now : Moment) : Input → Option Run.Input
  | .opened => some .opened
  | .saved outcome => some (.saved outcome)
  | .rested => some .rested
  | .cancelNoticed => if job.hearsCancel then some .cancelled else none
  | .expired => if job.hearsDeadline now then some .expired else none
  | .joined index =>
    match job.run.phase, (job.task? index).bind StepTask.report? with
    | .waiting, some report => some (.reported report)
    | _, _ => none
  | .died index detail =>
    match job.run.phase, job.task? index with
    | .waiting, some task => if task.report?.isNone then some (.lost index detail) else none
    | _, _ => none
  | _ => none

/-- These are the inputs that hand an answer to the run, with what they ask for. -/
inductive Answers (job : Job) (now : Moment) : Input → Run.Input → Prop where
  | opened : Answers job now .opened .opened
  | saved (outcome : Except StoreError Unit) : Answers job now (.saved outcome) (.saved outcome)
  | rested : Answers job now .rested .rested
  | cancelled (hears : job.hearsCancel = true) : Answers job now .cancelNoticed .cancelled
  | expired (hears : job.hearsDeadline now = true) : Answers job now .expired .expired
  | joined {task : StepTask} {report : StepReport} (phase : job.run.phase = .waiting)
    (found : job.task? report.index = some task) (ended : task.report? = some report) :
    Answers job now (.joined report.index) (.reported report)
  | died {task : StepTask} {index : Nat} {detail : String} (phase : job.run.phase = .waiting)
    (found : job.task? index = some task) (unended : task.report? = none) :
    Answers job now (.died index detail) (.lost index detail)

theorem mem_of_task {job : Job} {index : Nat} {task : StepTask}
    (found : job.task? index = some task) : task ∈ job.tasks ∧ task.index = index :=
  ⟨List.mem_of_find?_eq_some found, by simpa using List.find?_some found⟩

theorem report_index {task : StepTask} {report : StepReport}
    (ended : task.report? = some report) : report.index = task.index := by
  unfold StepTask.report? at ended
  split at ended
  · cases ended
    rfl
  · cases ended

theorem answers_of_answer {job : Job} {now : Moment} {input : Input} {answer : Run.Input}
    (answered : job.answer? now input = some answer) : job.Answers now input answer := by
  cases input <;> simp only [answer?, reduceCtorEq, Option.some.injEq] at answered
  case opened => exact answered ▸ .opened
  case saved outcome => exact answered ▸ .saved outcome
  case rested => exact answered ▸ .rested
  case cancelNoticed =>
    split at answered
    · next hears =>
      cases answered
      exact .cancelled hears
    · cases answered
  case expired =>
    split at answered
    · next hears =>
      cases answered
      exact .expired hears
    · cases answered
  case joined index =>
    split at answered
    · next report phase found =>
      cases answered
      obtain ⟨task, sought, ended⟩ := Option.bind_eq_some_iff.mp found
      have same : report.index = index := (report_index ended).trans (mem_of_task sought).2
      subst same
      exact .joined phase sought ended
    · cases answered
  case died index detail =>
    split at answered
    · next task phase found =>
      split at answered
      · next unended =>
        cases answered
        exact .died phase found (by simpa using unended)
      · cases answered
    · cases answered

/-- A task whose end the run learns of is dropped. -/
def relieved (job : Job) : Input → Job
  | .joined index => job.dropTask index
  | .died index _ => job.dropTask index
  | _ => job

def touch (job : Job) (input : Input) (task : StepTask) : StepTask :=
  match input with
  | .attemptEnded index outcome =>
    if task.index = index ∧ task.phase = .attempting then task.attemptEnded outcome else task
  | .executorMissing index =>
    if task.index = index ∧ task.phase = .attempting then task.lacksExecutor (executorUnavailable
      (((job.run.plan.steps[index]?).map PlanStep.nodeType).getD ""))
    else task
  | .pauseEnded index => if task.index = index ∧ ¬job.interrupted then task.rested else task
  | .pauseInterrupted index => if task.index = index ∧ job.interrupted then task.interrupt else task
  | _ => task

def Input.requestsCancel : Input → Bool
  | .cancelRequested => true
  | _ => false

theorem advance_answered {job : Job} {now : Moment} {input : Input} {answer : Run.Input}
    (answered : job.answer? now input = some answer) :
    job.advance now input = (job.relieved input).takeTurn (job.run.advance now answer) := by
  cases answers_of_answer answered with
  | opened => rfl
  | saved outcome => rfl
  | rested => rfl
  | cancelled hears =>
    simp only [advance, if_pos hears]
    rfl
  | expired hears =>
    simp only [advance, if_pos hears]
    rfl
  | joined phase found ended =>
    simp only [advance, join, phase, found, Option.bind_some, ended]
    rfl
  | died phase found unended =>
    simp only [advance, bury, phase, found, unended, Option.isNone_none, if_true]
    rfl

theorem modifyTask_map (job : Job) {index : Nat} {change touch : StepTask → StepTask}
    (same : ∀ task, touch task = if task.index = index then change task else task) :
    job.modifyTask index change = { job with tasks := job.tasks.map touch } := by
  have equal : touch = fun task => if task.index = index then change task else task :=
    funext same
  rw [equal]
  rfl

theorem map_untouched {touch : StepTask → StepTask} (same : ∀ task, touch task = task)
    (tasks : List StepTask) : tasks.map touch = tasks := by
  rw [funext same]
  exact List.map_id tasks

/-- What is no answer to the run changes the tasks or requests a cancellation. -/
theorem advance_unanswered {job : Job} {now : Moment} {input : Input}
    (unanswered : job.answer? now input = none) :
    job.advance now input = ({ job with
      tasks := job.tasks.map (job.touch input),
      cancelRequested := job.cancelRequested || input.requestsCancel }, []) := by
  have idle (same : job.advance now input = (job, []))
      (untouched : ∀ task, job.touch input task = task)
      (silent : input.requestsCancel = false) : job.advance now input = ({ job with
        tasks := job.tasks.map (job.touch input),
        cancelRequested := job.cancelRequested || input.requestsCancel }, []) := by
    rw [same, map_untouched untouched, silent, Bool.or_false]
  have touched {index : Nat} {change : StepTask → StepTask}
      (moved : job.advance now input = (job.modifyTask index change, []))
      (same : ∀ task, job.touch input task = if task.index = index then change task else task)
      (silent : input.requestsCancel = false) : job.advance now input = ({ job with
        tasks := job.tasks.map (job.touch input),
        cancelRequested := job.cancelRequested || input.requestsCancel }, []) := by
    rw [moved, modifyTask_map job same, silent, Bool.or_false]
  cases input <;> simp only [answer?, reduceCtorEq] at unanswered
  case cancelRequested =>
    have untouched := @map_untouched (job.touch .cancelRequested) (fun _ => rfl) job.tasks
    simp only [advance, Input.requestsCancel, Bool.or_true, untouched]
  case cancelNoticed =>
    split at unanswered
    · cases unanswered
    · next deaf => exact idle (by simp only [advance, if_neg deaf]) (fun _ => rfl) rfl
  case expired =>
    split at unanswered
    · cases unanswered
    · next deaf => exact idle (by simp only [advance, if_neg deaf]) (fun _ => rfl) rfl
  case attemptEnded index outcome =>
    refine touched rfl (fun task => ?_) rfl
    simp only [touch]
    split <;> split <;> simp_all
  case executorMissing index =>
    refine touched rfl (fun task => ?_) rfl
    simp only [touch]
    split <;> split <;> simp_all
  case pauseEnded index =>
    by_cases interrupted : job.interrupted = true
    · exact idle (by simp only [advance, if_pos interrupted]) (by simp [touch, interrupted]) rfl
    · have moved : job.advance now (.pauseEnded index) =
          (job.modifyTask index StepTask.rested, []) := by simp only [advance, if_neg interrupted]
      exact touched moved (by simp [touch, interrupted]) rfl
  case pauseInterrupted index =>
    by_cases interrupted : job.interrupted = true
    · have moved : job.advance now (.pauseInterrupted index) =
          (job.modifyTask index StepTask.interrupt, []) := by
        simp only [advance, if_pos interrupted]
      exact touched moved (by simp [touch, interrupted]) rfl
    · exact idle (by simp only [advance, if_neg interrupted]) (by simp [touch, interrupted]) rfl
  case joined index =>
    refine idle ?_ (fun _ => rfl) rfl
    simp only [advance, join]
    split
    · next report phase found => simp [phase, found] at unanswered
    · rfl
  case died index detail =>
    refine idle ?_ (fun _ => rfl) rfl
    simp only [advance, bury]
    split
    · next task phase found =>
      simp only [phase, found] at unanswered
      split at unanswered
      · cases unanswered
      · next ended => rw [if_neg ended]
    · rfl

theorem relieved_rest (job : Job) (input : Input) :
    (job.relieved input).snapshot = job.snapshot ∧ (job.relieved input).timeoutMs = job.timeoutMs ∧
      (job.relieved input).cancelRequested = job.cancelRequested := by
  cases input <;> exact ⟨rfl, rfl, rfl⟩

theorem foldl_absorb_rest (job : Job) (effects : List Effect) :
    (effects.foldl absorb job).run = job.run ∧
      (effects.foldl absorb job).timeoutMs = job.timeoutMs ∧
      (effects.foldl absorb job).cancelRequested = job.cancelRequested := by
  induction effects generalizing job with
  | nil => exact ⟨rfl, rfl, rfl⟩
  | cons effect rest inductionHypothesis =>
    have later := inductionHypothesis (job.absorb effect)
    cases effect <;> exact later

/-- A turn that is taken over leaves the run as it ends, and the rest as it was. -/
theorem takeTurn_rest (job : Job) (turn : Turn) :
    (job.takeTurn turn).1.run = turn.run ∧ (job.takeTurn turn).1.timeoutMs = job.timeoutMs ∧
      (job.takeTurn turn).1.cancelRequested = job.cancelRequested :=
  foldl_absorb_rest { job with run := turn.run } turn.effects

/-- Mild effects launch no task, and what they publish shows the given state. -/
theorem foldl_absorb_mild (job : Job) {status : ExecutionStatus} {effects : List Effect}
    (mild : ∀ effect ∈ effects, effect.Mild status) :
    (effects.foldl absorb job).tasks = job.tasks ∧
      ((effects.foldl absorb job).snapshot = job.snapshot ∨
        (effects.foldl absorb job).snapshot.status = status) := by
  induction effects generalizing job with
  | nil => exact ⟨rfl, Or.inl rfl⟩
  | cons effect rest inductionHypothesis =>
    have first := mild effect List.mem_cons_self
    obtain ⟨tasks, snapshot⟩ := inductionHypothesis (job.absorb effect)
      (fun other member => mild other (List.mem_cons_of_mem _ member))
    cases effect with
    | publish shown =>
      refine ⟨tasks, Or.inr ?_⟩
      rcases snapshot with same | later
      · exact (congrArg Execution.status same).trans first
      · exact later
    | launch index input => exact first.elim
    | _ => exact ⟨tasks, snapshot⟩

theorem launched_mild {status : ExecutionStatus} {effects : List Effect}
    (mild : ∀ effect ∈ effects, effect.Mild status) : effects.filterMap Effect.launched? = [] := by
  rw [List.filterMap_eq_nil_iff]
  intro effect member
  have quiet := mild effect member
  cases effect <;> first | rfl | exact quiet.elim

theorem tells_launched {run : Run} {answer : Run.Input} {turn : Turn}
    (tells : run.Tells answer turn) :
    turn.effects.filterMap Effect.launched? = run.launching answer := by
  cases tells with
  | mild quiet mild => rw [launched_mild mild, quiet]
  | launch index later launching told mild =>
    rw [told, List.filterMap_append, launched_mild mild, launching]
    rfl
  | close earlier quiet closed told mild =>
    rw [told, List.filterMap_append, launched_mild mild, quiet]
    rfl

/-- The tasks after a turn are those before it and that of the step that is launched. -/
theorem tells_tasks {job : Job} {run : Run} {answer : Run.Input} {turn : Turn}
    (tells : run.Tells answer turn) (plan : turn.run.plan = run.plan)
    (infraRetry : turn.run.infraRetry = run.infraRetry) :
    (job.takeTurn turn).1.tasks = job.tasks ++ (run.launching answer).map fun index =>
      { job with run := run }.newTask index (run.resolveInput index) := by
  unfold takeTurn
  cases tells with
  | mild quiet mild =>
    rw [quiet, List.map_nil, List.append_nil]
    exact (foldl_absorb_mild { job with run := turn.run } mild).1
  | launch index later launching told mild =>
    rw [told, launching, List.foldl_append]
    rw [(foldl_absorb_mild _ mild).1]
    simp [absorb, Run.announceStep, Run.snapshot, newTask, plan, infraRetry]
  | close earlier quiet closed told mild =>
    rw [told, quiet, List.map_nil, List.append_nil, List.foldl_append]
    exact (foldl_absorb_mild { job with run := turn.run } mild).1

def remaining (job : Job) (now : Moment) (input : Input) : List StepTask :=
  match job.answer? now input with
  | some _ => (job.relieved input).tasks
  | none => job.tasks

def launching (job : Job) (now : Moment) (input : Input) : List Nat :=
  match job.answer? now input with
  | some answer => job.run.launching answer
  | none => []

theorem remaining_sublist (job : Job) (now : Moment) (input : Input) :
    (job.remaining now input).Sublist job.tasks := by
  unfold remaining
  split
  · cases input <;> first | exact List.filter_sublist | exact List.Sublist.refl _
  · exact List.Sublist.refl _

theorem run_after (job : Job) (now : Moment) (input : Input) :
    (job.advance now input).1.run = match job.answer? now input with
      | some answer => (job.run.advance now answer).run
      | none => job.run := by
  split
  · next answer answered =>
    rw [advance_answered answered, (takeTurn_rest ..).1]
  · next unanswered => rw [advance_unanswered unanswered]

/-- A run stays as it is if it takes nothing of what an input tells it. -/
theorem run_still {job : Job} {now : Moment} {input : Input}
    (still : ∀ answer, job.Answers now input answer →
      job.run.advance now answer = ⟨job.run, []⟩) : (job.advance now input).1.run = job.run := by
  rw [run_after]
  split
  · next answer answered => rw [still answer (answers_of_answer answered)]
  · rfl

/-- What no turn of a run changes is not changed by what happens to its job. -/
theorem fixed_after {A : Type} {view : Run → A} (fixed : Run.Fixed view) (job : Job) (now : Moment)
    (input : Input) : view (job.advance now input).1.run = view job.run := by
  rw [run_after]
  cases job.answer? now input with
  | none => rfl
  | some answer => exact fixed.advance job.run now answer

theorem timeoutMs_after (job : Job) (now : Moment) (input : Input) :
    (job.advance now input).1.timeoutMs = job.timeoutMs := by
  cases answered : job.answer? now input with
  | none => rw [advance_unanswered answered]
  | some answer =>
    rw [advance_answered answered, (takeTurn_rest ..).2.1, (relieved_rest job input).2.1]

theorem cancelRequested_after (job : Job) (now : Moment) (input : Input) :
    (job.advance now input).1.cancelRequested =
      (job.cancelRequested || input.requestsCancel) := by
  cases answered : job.answer? now input with
  | none => rw [advance_unanswered answered]
  | some answer =>
    have silent : input.requestsCancel = false := by
      cases answers_of_answer answered <;> rfl
    rw [advance_answered answered, (takeTurn_rest ..).2.2, (relieved_rest job input).2.2, silent,
      Bool.or_false]

section

variable {job : Job} {launched : List Nat} {reports : List StepReport}

/-- The effects of an input hand the steps that it launches to tasks, and no others. -/
theorem effects_launched (valid : job.run.Valid launched reports) (now : Moment) (input : Input) :
    (job.advance now input).2.filterMap Effect.launched? = job.launching now input := by
  unfold launching
  split
  · next answer answered =>
    rw [advance_answered answered]
    exact tells_launched (Run.advance_tells valid now answer).2
  · next unanswered =>
    rw [advance_unanswered unanswered]
    rfl

/-- An input touches the tasks that remain, and adds the launched ones. -/
theorem tasks_after (valid : job.run.Valid launched reports) (now : Moment) (input : Input) :
    (job.advance now input).1.tasks = (job.remaining now input).map (job.touch input) ++
      (job.launching now input).map fun index =>
        job.newTask index (job.run.resolveInput index) := by
  unfold remaining launching
  split
  · next answer answered =>
    obtain ⟨advances, tells⟩ := Run.advance_tells valid now answer
    have untouched : ∀ task, job.touch input task = task := by
      cases answers_of_answer answered <;> exact fun _ => rfl
    rw [advance_answered answered, tells_tasks tells advances.plan advances.infraRetry,
      map_untouched untouched]
    rfl
  · next unanswered =>
    rw [advance_unanswered unanswered, List.map_nil, List.append_nil]

end

/-- An occurrence is one thing that happens to a job, with the job before it. -/
structure Occurrence where
  before : Job
  now : Moment
  input : Input

namespace Occurrence

def after (occurrence : Occurrence) : Job :=
  (occurrence.before.advance occurrence.now occurrence.input).1

def effects (occurrence : Occurrence) : List Effect :=
  (occurrence.before.advance occurrence.now occurrence.input).2

def answer? (occurrence : Occurrence) : Option Run.Input :=
  occurrence.before.answer? occurrence.now occurrence.input

def reports (occurrence : Occurrence) : List StepReport :=
  (occurrence.answer?.map Run.Input.reports).getD []

end Occurrence

/-- The inputs of a course may come in any order. -/
inductive Course (start : Job) : List Occurrence → Job → Prop where
  | start : Course start [] start
  | next {past : List Occurrence} {job : Job} (course : Course start past job) (now : Moment)
    (input : Input) : Course start (past ++ [⟨job, now, input⟩]) (job.advance now input).1

def reports (past : List Occurrence) : List StepReport :=
  past.flatMap Occurrence.reports

def launched (past : List Occurrence) : List Nat :=
  past.flatMap fun occurrence => occurrence.effects.filterMap Effect.launched?

def replay (past : List Occurrence) (job : Job) :
    List (Moment × Input) → List Occurrence × Job
  | [] => (past, job)
  | (now, input) :: rest => replay (past ++ [⟨job, now, input⟩]) (job.advance now input).1 rest

/-- Every script goes on with a course. -/
theorem Course.replay {start job : Job} {past : List Occurrence} (course : Course start past job)
    (script : List (Moment × Input)) :
    Course start (Job.replay past job script).1 (Job.replay past job script).2 := by
  induction script generalizing past job with
  | nil => exact course
  | cons first rest inductionHypothesis => exact inductionHypothesis (course.next first.1 first.2)

theorem Course.fixed {A : Type} {view : Run → A} (fixed : Run.Fixed view) {start job : Job}
    {past : List Occurrence} (course : Course start past job) : view job.run = view start.run := by
  induction course with
  | start => rfl
  | next course now input inductionHypothesis => rw [fixed_after fixed, inductionHypothesis]

/-- In the middle of a course stands the course up to there. -/
theorem Course.upTo {start job : Job} {past earlier later : List Occurrence}
    {occurrence : Occurrence} (course : Course start past job)
    (listed : past = earlier ++ occurrence :: later) : Course start earlier occurrence.before := by
  induction course generalizing later with
  | start => simp at listed
  | @next past job course now input inductionHypothesis =>
    rcases List.eq_nil_or_concat later with rfl | ⟨front, last, rfl⟩
    · obtain ⟨rfl, same⟩ := List.append_inj' listed rfl
      cases same
      exact course
    · rw [List.concat_eq_append, ← List.cons_append, ← List.append_assoc] at listed
      exact inductionHypothesis (List.append_inj' listed rfl).1

end Job

/-- Of this pair of steps the second one reads the output of the first one. -/
def Definition.pair : Definition :=
  { id := .nil
    name := "pair"
    nodes := [{ id := "first", nodeType := "passthrough" },
      { id := "second", nodeType := "passthrough" }]
    edges := [{ source := "first", target := "second" }]
    createdAt := ⟨0, 0⟩ }

def Compiler.passthrough : Compiler :=
  ⟨["passthrough"], {}⟩

def Plan.pair : Plan :=
  Compiler.passthrough.plan .pair ["first", "second"]

theorem Plan.pair_compiled : Compiler.passthrough.compile .pair = .ok .pair := by
  decide +kernel

namespace Job

def ofPair : Job :=
  prepare ⟨"executor", .builtin⟩ .pair .standard 1000 (.pending .pair .nil .nil .null)

/-- These inputs happen all at once. -/
def atOnce (inputs : List Input) : List (Moment × Input) :=
  inputs.map fun input => (⟨⟨0, 0⟩, 0⟩, input)

/-- In this script all saves succeed and the first step ends as it is given. -/
def pairScript (outcome : AttemptOutcome) : List (Moment × Input) :=
  atOnce [.opened, .saved (.ok ()), .saved (.ok ()), .attemptEnded 0 outcome, .joined 0,
    .saved (.ok ()), .saved (.ok ())]

/-- The first step fails for good, so that the run closes after one more save. -/
def brokenPair : List Occurrence × Job :=
  replay [] ofPair (pairScript (.failed (.fatal "broken")) ++ atOnce [.saved (.ok ())])

/-- The first step succeeds and so does the second one. -/
def finishedPair : List Occurrence × Job :=
  replay [] ofPair (pairScript (.succeeded .null) ++
    atOnce [.attemptEnded 1 (.succeeded .null), .joined 1, .saved (.ok ()), .saved (.ok ())])

end Job

end WorkflowEngine
