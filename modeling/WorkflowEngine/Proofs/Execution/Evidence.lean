/-
This file holds the evidence that a course gives for a halt: who asked for it, what was late, and
what failed as often as it was tried. It proves that the counts of the code are those of the course.
-/

import WorkflowEngine.Proofs.Execution.Standing

namespace WorkflowEngine.Job

namespace Occurrence

/-- The store answers with an error while the run saves. -/
def failsSave (occurrence : Occurrence) : Bool :=
  match occurrence.before.run.phase, occurrence.input with
  | .saving _ _, .saved (.error _) => true
  | _, _ => false

/-- The store answers that it has saved what the run saves. -/
def savesWell (occurrence : Occurrence) : Bool :=
  match occurrence.before.run.phase, occurrence.input with
  | .saving _ _, .saved (.ok ()) => true
  | _, _ => false

/-- An attempt of a step finds no executor. -/
def lacks (index : Nat) (occurrence : Occurrence) : Bool :=
  match occurrence.input with
  | .executorMissing other => other == index && occurrence.before.tasks.any fun task =>
      task.index == index && task.phase == .attempting
  | _ => false

end Occurrence

/-- The answers to the save of one errand were all failures, as many as are allowed. -/
def SaveExhausted (limit : UInt32) (past : List Occurrence) : Prop :=
  ∃ errand earlier block later, past = earlier ++ block ++ later ∧
    (∀ occurrence ∈ block,
      occurrence.before.run.errand? = some errand ∧ occurrence.savesWell = false) ∧
    block.countP Occurrence.failsSave = limit.toNat

/-- A step has reported that its attempts found no executor as often as is allowed. -/
def ExecutorLacked (limit : UInt32) (past : List Occurrence) : Prop :=
  ∃ report ∈ reports past, (∃ message, report.result = .unavailable message) ∧
    limit.toNat ≤ past.countP (Occurrence.lacks report.index)

/-- The task of a step died while the run waited for it. -/
def TaskDied (past : List Occurrence) : Prop :=
  ∃ occurrence ∈ past, ∃ index detail, occurrence.input = .died index detail ∧
    occurrence.before.run.phase = .waiting ∧
    ∃ task ∈ occurrence.before.tasks, task.index = index ∧ task.report? = none

/-- A cancellation was asked for before the run was closed. -/
def CancelCalled (past : List Occurrence) : Prop :=
  ∃ occurrence ∈ past, occurrence.input = .cancelRequested ∧
    occurrence.before.run.phase ≠ .closed

/-- The time that the execution may take was over while its run waited. -/
def Overdue (timeoutMs : Nat) (past : List Occurrence) : Prop :=
  ∃ opening ∈ past, opening.input = .opened ∧ opening.before.run.phase = .unopened ∧
    ∃ occurrence ∈ past, occurrence.before.run.phase = .waiting ∧
      opening.now.ticks + timeoutMs ≤ occurrence.now.ticks

section

variable {start job : Job} {past : List Occurrence} {limit : UInt32}

theorem SaveExhausted.append (exhausted : SaveExhausted limit past) (more : List Occurrence) :
    SaveExhausted limit (past ++ more) := by
  obtain ⟨errand, earlier, block, later, rfl, facts⟩ := exhausted
  exact ⟨errand, earlier, block, later ++ more, by simp, facts⟩

theorem ExecutorLacked.append (lacked : ExecutorLacked limit past) (more : List Occurrence) :
    ExecutorLacked limit (past ++ more) := by
  obtain ⟨report, member, unavailable, enough⟩ := lacked
  refine ⟨report, ?_, unavailable, ?_⟩
  · rw [reports_append]
    exact List.mem_append_left _ member
  · rw [List.countP_append]
    omega

theorem TaskDied.append (died : TaskDied past) (more : List Occurrence) :
    TaskDied (past ++ more) := by
  obtain ⟨occurrence, member, facts⟩ := died
  exact ⟨occurrence, List.mem_append_left _ member, facts⟩

theorem CancelCalled.append (called : CancelCalled past) (more : List Occurrence) :
    CancelCalled (past ++ more) := by
  obtain ⟨occurrence, member, facts⟩ := called
  exact ⟨occurrence, List.mem_append_left _ member, facts⟩

theorem Overdue.append {timeoutMs : Nat} (overdue : Overdue timeoutMs past)
    (more : List Occurrence) : Overdue timeoutMs (past ++ more) := by
  obtain ⟨opening, member, input, phase, occurrence, later, facts⟩ := overdue
  exact ⟨opening, List.mem_append_left _ member, input, phase, occurrence,
    List.mem_append_left _ later, facts⟩

/-- The failures that a run counts belong to its errand. -/
structure Tallied (past : List Occurrence) (job : Job) : Prop where
  bounded : job.run.failures < job.run.infraRetry.attempts
  counted : ∃ earlier block, past = earlier ++ block ∧
    (∀ occurrence ∈ block, occurrence.before.run.errand? = job.run.errand? ∧
      occurrence.savesWell = false) ∧
    block.countP Occurrence.failsSave = job.run.failures.toNat

theorem tallied_unfailed (unfailed : job.run.failures = 0) : Tallied past job := by
  refine ⟨unfailed ▸ RetryPolicy.attempts_positive _, past, [], by simp, by simp, ?_⟩
  rw [unfailed]
  rfl

/-- An occurrence that leaves a run at its errand adds its failure to the count. -/
theorem Tallied.extend {occurrence : Occurrence} (tallied : Tallied past occurrence.before)
    (errand : occurrence.after.run.errand? = occurrence.before.run.errand?)
    (infraRetry : occurrence.after.run.infraRetry = occurrence.before.run.infraRetry)
    (unsaved : occurrence.savesWell = false)
    (failures : occurrence.after.run.failures = if occurrence.failsSave then
      occurrence.before.run.failures + 1 else occurrence.before.run.failures)
    (bounded : occurrence.failsSave = true →
      occurrence.before.run.failures + 1 < occurrence.before.run.infraRetry.attempts) :
    Tallied (past ++ [occurrence]) occurrence.after := by
  obtain ⟨less, earlier, block, split, facts, counted⟩ := tallied
  refine ⟨?_, earlier, block ++ [occurrence], by rw [split, List.append_assoc], ?_, ?_⟩
  · rw [failures, infraRetry]
    split
    · next fails => exact bounded fails
    · exact less
  · intro other member
    rw [errand]
    rcases List.mem_append.mp member with old | new
    · exact facts other old
    · rw [List.mem_singleton.mp new]
      exact ⟨rfl, unsaved⟩
  · rw [List.countP_append, counted, failures, List.countP_singleton]
    split
    · have word := UInt32.lt_iff_toNat_lt.mp less
      have bound := occurrence.before.run.infraRetry.attempts.toNat_lt
      rw [UInt32.toNat_add]
      simp only [UInt32.reduceToNat]
      omega
    · rfl

theorem unanswered_unsaved {now : Moment} {input : Input}
    (unanswered : job.answer? now input = none) :
    Occurrence.savesWell ⟨job, now, input⟩ = false ∧
      Occurrence.failsSave ⟨job, now, input⟩ = false := by
  cases input <;> simp [answer?, Occurrence.savesWell, Occurrence.failsSave] at unanswered ⊢

theorem answers_failsSave {now : Moment} {input : Input} {answer : Run.Input}
    (answers : job.Answers now input answer) :
    Occurrence.failsSave ⟨job, now, input⟩ = job.run.failing answer := by
  cases answers with
  | saved outcome =>
    cases outcome <;> cases phase : job.run.phase <;>
      simp [Occurrence.failsSave, Run.failing, phase]
  | _ => simp [Occurrence.failsSave, Run.failing]

theorem answers_savesWell {now : Moment} {input : Input} {answer : Run.Input}
    (answers : job.Answers now input answer)
    (unsaved : ∀ errand failures, job.run.phase = .saving errand failures →
      answer ≠ .saved (.ok ())) : Occurrence.savesWell ⟨job, now, input⟩ = false := by
  unfold Occurrence.savesWell
  split
  · next phase same =>
    dsimp only at same
    subst same
    cases answers
    exact absurd rfl (unsaved _ _ phase)
  · rfl

theorem Tallied.next (sound : Sound start past job) (standing : Standing past job)
    (tallied : Tallied past job) (now : Moment) (input : Input) :
    Tallied (past ++ [⟨job, now, input⟩]) (job.advance now input).1 := by
  have run := run_after job now input
  cases answered : job.answer? now input with
  | none =>
    simp only [answered] at run
    obtain ⟨unsaved, unfailed⟩ := unanswered_unsaved answered
    exact Tallied.extend tallied (congrArg Run.errand? run) (congrArg Run.infraRetry run) unsaved
      (by rw [unfailed]; exact congrArg Run.failures run) (by simp [unfailed])
  | some answer =>
    simp only [answered] at run
    have answers := answers_of_answer answered
    cases standing with
    | closed closed snapshot last =>
      apply tallied_unfailed
      rw [run, advance_closed closed]
      simp [Run.failures, closed]
    | opened opened unended =>
      cases Run.advance_passage opened now answer with
      | entered unended entered =>
        apply tallied_unfailed
        rw [run]
        exact entered.unfailed
      | keeping keeping =>
        have fails := answers_failsSave answers
        refine Tallied.extend tallied ((congrArg Run.errand? run).trans keeping.errand)
          (sound.advances now input).infraRetry (answers_savesWell answers keeping.unsaved) ?_ ?_
        · rw [fails]
          exact (congrArg Run.failures run).trans keeping.failures
        · rw [fails]
          exact keeping.bounded
      | closed closes =>
        apply tallied_unfailed
        rw [run]
        simp [Run.failures, closes.closed]

/-- The last failure that is allowed exhausts the save. -/
theorem Tallied.exhausted (tallied : Tallied past job) {errand : Errand} {failures : UInt32}
    (phase : job.run.phase = .saving errand failures) (now : Moment) (error : StoreError)
    (last : job.run.infraRetry.attempts ≤ failures + 1) :
    SaveExhausted job.run.infraRetry.attempts (past ++ [⟨job, now, .saved (.error error)⟩]) := by
  obtain ⟨less, earlier, block, split, facts, counted⟩ := tallied
  have same : job.run.failures = failures := by simp [Run.failures, phase]
  refine ⟨errand, earlier, block ++ [⟨job, now, .saved (.error error)⟩], [], by simp [split],
    ?_, ?_⟩
  · intro occurrence member
    rcases List.mem_append.mp member with old | new
    · simpa [Run.errand?, phase] using facts occurrence old
    · rw [List.mem_singleton.mp new]
      simp [Run.errand?, phase, Occurrence.savesWell]
  · rw [List.countP_append, counted, same]
    rw [same] at less
    have word := UInt32.lt_iff_toNat_lt.mp less
    have bound := job.run.infraRetry.attempts.toNat_lt
    have reached := UInt32.le_iff_toNat_le.mp last
    rw [UInt32.toNat_add] at reached
    simp only [UInt32.reduceToNat] at reached
    simp only [List.countP_singleton, Occurrence.failsSave, phase, if_true]
    omega

/-- The tasks report what the course bears out. -/
structure Accounted (start : Job) (past : List Occurrence) (job : Job) : Prop where
  measured : ∀ task ∈ job.tasks, task.Measured
  counted : ∀ task ∈ job.tasks,
    task.unavailable.toNat = past.countP (Occurrence.lacks task.index)
  stopped : ∀ task ∈ job.tasks, task.phase = .ended .interrupted → job.interrupted = true
  unlaunched : ∀ index, index ∉ launched past → past.countP (Occurrence.lacks index) = 0
  lacked : ∀ report ∈ reports past, ∀ message, report.result = .unavailable message →
    start.run.infraRetry.attempts.toNat ≤ past.countP (Occurrence.lacks report.index)
  interrupted : ∀ report ∈ reports past, report.result = .interrupted → job.interrupted = true

theorem Sound.lacks_eq_starves (sound : Sound start past job) {task : StepTask}
    (member : task ∈ job.tasks) (now : Moment) (input : Input) :
    Occurrence.lacks task.index ⟨job, now, input⟩ = input.starves task := by
  cases input with
  | executorMissing index =>
    rw [Bool.eq_iff_iff]
    simp only [Occurrence.lacks, Input.starves, Bool.and_eq_true, beq_iff_eq, List.any_eq_true]
    constructor
    · rintro ⟨rfl, other, inside, same, attempting⟩
      rw [List.inj_on_of_nodup_map sound.distinct inside member same] at attempting
      exact ⟨rfl, attempting⟩
    · rintro ⟨rfl, attempting⟩
      exact ⟨rfl, task, member, rfl, attempting⟩
  | _ => rfl

theorem Sound.interrupted_after (sound : Sound start past job) (now : Moment) (input : Input)
    (interrupted : job.interrupted = true) : (job.advance now input).1.interrupted = true := by
  simp only [Job.interrupted, Bool.or_eq_true] at interrupted ⊢
  rcases interrupted with requested | halted
  · left
    simp [cancelRequested_after, requested]
  · right
    obtain ⟨halt, halted⟩ := Option.isSome_iff_exists.mp halted
    simp [(sound.advances now input).halted_mono halted]

theorem Accounted.next (wellFormed : start.run.plan.WellFormed) (sound : Sound start past job)
    (accounted : Accounted start past job) (now : Moment) (input : Input) :
    Accounted start (past ++ [⟨job, now, input⟩]) (job.advance now input).1 := by
  have later := sound.interrupted_after now input
  have append (index : Nat) :
      List.countP (Occurrence.lacks index) (past ++ [⟨job, now, input⟩]) =
        past.countP (Occurrence.lacks index) +
          if Occurrence.lacks index ⟨job, now, input⟩ then 1 else 0 := by
    rw [List.countP_append, List.countP_singleton]
  have unmanned {index : Nat} (fresh : index ∉ launched past) :
      Occurrence.lacks index ⟨job, now, input⟩ = false := by
    cases input with
    | executorMissing other =>
      simp only [Occurrence.lacks, Bool.and_eq_false_iff, List.any_eq_false]
      right
      intro task member found
      simp only [Bool.and_eq_true, beq_iff_eq] at found
      exact fresh (found.1 ▸ sound.manned task member)
    | _ => rfl
  refine ⟨?_, ?_, ?_, ?_, ?_, ?_⟩
  · intro task member
    rcases sound.task_after member with ⟨earlier, old, rfl⟩ | ⟨index, launches, rfl⟩
    · exact (touch_measured job input (accounted.measured earlier old)).1
    · exact ⟨fun _ => RetryPolicy.attempts_positive _, by simp [newTask]⟩
  · intro task member
    rcases sound.task_after member with ⟨earlier, old, rfl⟩ | ⟨index, launches, rfl⟩
    · rw [(touch_alike job input earlier).index, append, sound.lacks_eq_starves old,
        (touch_measured job input (accounted.measured earlier old)).2,
        accounted.counted earlier old]
    · have fresh := sound.launching_fresh wellFormed launches
      rw [append, show (job.newTask index (job.run.resolveInput index)).index = index from rfl,
        accounted.unlaunched index fresh, unmanned fresh]
      rfl
  · intro task member ended
    rcases sound.task_after member with ⟨earlier, old, rfl⟩ | ⟨index, launches, rfl⟩
    · rcases touch_interrupted job input ended with before | interrupted
      · exact later (accounted.stopped earlier old before)
      · exact later interrupted
    · simp [newTask] at ended
  · intro index fresh
    rw [launched_append, List.mem_append, not_or] at fresh
    rw [append, accounted.unlaunched index fresh.1, unmanned fresh.1]
    rfl
  · intro report member message lacks
    rw [append]
    rw [reports_append, List.mem_append] at member
    rcases member with old | new
    · have enough := accounted.lacked report old message lacks
      omega
    · obtain ⟨task, inside, result, ended, rfl⟩ := task_of_report (by simpa [reports] using new)
      dsimp only at lacks ⊢
      rw [lacks] at ended
      have enough := UInt32.le_iff_toNat_le.mp ((accounted.measured task inside).starved _ ended)
      rw [(sound.charged task inside).1, accounted.counted task inside] at enough
      omega
  · intro report member interrupted
    rw [reports_append, List.mem_append] at member
    rcases member with old | new
    · exact later (accounted.interrupted report old interrupted)
    · obtain ⟨task, inside, result, ended, rfl⟩ := task_of_report (by simpa [reports] using new)
      dsimp only at interrupted
      rw [interrupted] at ended
      exact later (accounted.stopped task inside ended)

end

end WorkflowEngine.Job
