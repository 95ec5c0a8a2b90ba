/-
This file proves what each turn leaves as it was: the plan, the names of the records, and the first
halt. A turn tells nothing of note on the way unless it launches a step or closes the run.
-/

import WorkflowEngine.Proofs.Execution.Coherence

namespace WorkflowEngine

/-- A mild effect launches nothing, and what it publishes shows the given state. -/
def Effect.Mild (status : ExecutionStatus) : Effect → Prop
  | .publish snapshot => snapshot.status = status
  | .launch _ _ => False
  | _ => True

namespace Run

/-- A halt that comes about on the way has a cause. -/
structure Keeps (causes : Halt → Prop) (before after : Run) : Prop where
  plan : after.plan = before.plan
  infraRetry : after.infraRetry = before.infraRetry
  triggerInput : after.execution.triggerInput = before.execution.triggerInput
  names : after.execution.steps.map StepRecord.nodeId = before.execution.steps.map StepRecord.nodeId
  halted : after.halted = before.halted ∨
    before.halted = none ∧ ∃ halt, after.halted = some halt ∧ causes halt
  opened : before.phase ≠ .unopened →
    after.phase ≠ .unopened ∧ after.openedAt = before.openedAt

/-- A calm change starts no step and leaves the state of the execution. -/
structure Calm (causes : Halt → Prop) (before after : Run) : Prop extends
    Keeps causes before after where
  status : after.execution.status = before.execution.status
  running : ∀ index, (after.record index).status = .running →
    (before.record index).status = .running

/-- A run that is halted after a turn has started no step in it. -/
structure Advances (causes : Halt → Prop) (before after : Run) : Prop extends
    Keeps causes before after where
  running : after.halted ≠ none → ∀ index, (after.record index).status = .running →
    (before.record index).status = .running

section

variable {causes : Halt → Prop} {first second third : Run}

theorem Keeps.refl (run : Run) : Keeps causes run run :=
  ⟨rfl, rfl, rfl, rfl, Or.inl rfl, fun opened => ⟨opened, rfl⟩⟩

theorem Keeps.trans (one : Keeps causes first second) (two : Keeps causes second third) :
    Keeps causes first third := by
  refine ⟨two.plan.trans one.plan, two.infraRetry.trans one.infraRetry,
    two.triggerInput.trans one.triggerInput, two.names.trans one.names, ?_, ?_⟩
  · rcases two.halted with same | ⟨unhalted, halt, halted, caused⟩
    · rw [same]
      exact one.halted
    · rcases one.halted with same | ⟨_, _, halted', _⟩
      · exact Or.inr ⟨same ▸ unhalted, halt, halted, caused⟩
      · rw [unhalted] at halted'
        cases halted'
  · intro opened
    obtain ⟨later, time⟩ := one.opened opened
    obtain ⟨last, same⟩ := two.opened later
    exact ⟨last, same.trans time⟩

/-- The first halt stays. -/
theorem Keeps.halted_mono (keeps : Keeps causes first second) {halt : Halt}
    (halted : first.halted = some halt) : second.halted = some halt := by
  rcases keeps.halted with same | ⟨unhalted, _⟩
  · rw [same, halted]
  · rw [halted] at unhalted
    cases unhalted

/-- A run that has not halted had not halted before. -/
theorem Keeps.unhalted_before (keeps : Keeps causes first second)
    (unhalted : second.halted = none) : first.halted = none := by
  cases before : first.halted with
  | none => rfl
  | some halt => simp [keeps.halted_mono before] at unhalted

theorem Keeps.weaken {weaker : Halt → Prop} (keeps : Keeps causes first second)
    (weaken : ∀ halt, causes halt → weaker halt) : Keeps weaker first second :=
  { keeps with halted := keeps.halted.imp_right fun ⟨unhalted, halt, halted, caused⟩ =>
      ⟨unhalted, halt, halted, weaken halt caused⟩ }

theorem Calm.refl (run : Run) : Calm causes run run :=
  ⟨Keeps.refl run, rfl, fun _ running => running⟩

theorem Calm.trans (one : Calm causes first second) (two : Calm causes second third) :
    Calm causes first third :=
  ⟨one.toKeeps.trans two.toKeeps, two.status.trans one.status,
    fun index running => one.running index (two.running index running)⟩

theorem Calm.advances (calm : Calm causes first second) : Advances causes first second :=
  ⟨calm.toKeeps, fun _ => calm.running⟩

theorem Calm.andAdvances (one : Calm causes first second) (two : Advances causes second third) :
    Advances causes first third :=
  ⟨one.toKeeps.trans two.toKeeps, fun halted index running =>
    one.running index (two.running halted index running)⟩

theorem Advances.weaken {weaker : Halt → Prop} (advances : Advances causes first second)
    (weaken : ∀ halt, causes halt → weaker halt) : Advances weaker first second :=
  ⟨advances.toKeeps.weaken weaken, advances.running⟩

/-- A run that differs only in what it plans next has changed calmly. -/
theorem calm_of_same (execution : second.execution = first.execution)
    (plan : second.plan = first.plan) (infraRetry : second.infraRetry = first.infraRetry)
    (halted : second.halted = first.halted) (openedAt : second.openedAt = first.openedAt)
    (opened : first.phase ≠ .unopened → second.phase ≠ .unopened) : Calm causes first second :=
  ⟨⟨plan, infraRetry, by rw [execution], by rw [execution], Or.inl halted,
    fun before => ⟨opened before, openedAt⟩⟩, by rw [execution],
    fun index => by simp only [record, execution]; exact id⟩

/-- A change that keeps the name of a record keeps all names. -/
theorem modifyRecord_keeps (run : Run) {index : Nat} {change : StepRecord → StepRecord}
    (named : (change (run.record index)).nodeId = (run.record index).nodeId) :
    Keeps causes run (run.modifyRecord index change) := by
  refine ⟨rfl, rfl, rfl, ?_, Or.inl rfl, fun opened => ⟨opened, rfl⟩⟩
  apply List.ext_getElem (by simp [modifyRecord])
  intro other _ bound
  rw [List.getElem_map, List.getElem_map]
  simp only [modifyRecord, List.getElem_modify]
  split
  · next same =>
    subst same
    rw [List.length_map] at bound
    have shown : run.execution.steps[index] = run.record index := by simp [record, bound]
    rw [shown, named]
  · rfl

/-- A change of a record is calm if it keeps the name and does not start the step. -/
theorem modifyRecord_calm (run : Run) {index : Nat} {change : StepRecord → StepRecord}
    (named : (change (run.record index)).nodeId = (run.record index).nodeId)
    (still : (change (run.record index)).status = .running →
      (run.record index).status = .running) :
    Calm causes run (run.modifyRecord index change) := by
  refine ⟨modifyRecord_keeps run named, rfl, ?_⟩
  intro other
  by_cases inside : index < run.execution.steps.length
  · rw [record_modifyRecord inside]
    split
    · next same =>
      subst same
      exact still
    · exact id
  · have kept : run.execution.steps.modify index change = run.execution.steps :=
      List.modify_eq_self (Nat.le_of_not_lt inside)
    simp only [record, modifyRecord, kept]
    exact id

theorem halt_calm (run : Run) {halt : Halt} (caused : causes halt) :
    Calm causes run (run.halt halt).run := by
  unfold Run.halt
  split
  · exact Calm.refl run
  · next unhalted =>
    exact ⟨⟨rfl, rfl, rfl, rfl, Or.inr ⟨unhalted, halt, rfl, caused⟩,
      fun opened => ⟨opened, rfl⟩⟩, rfl, fun _ running => running⟩

theorem makeReady_calm (run : Run) (index : Nat) : Calm causes run (run.makeReady index) :=
  (modifyRecord_calm run rfl (by simp)).trans
    (calm_of_same rfl rfl rfl rfl rfl id)

/-- Changes that relate each run to the next relate the first to the last. -/
theorem foldl_related {A : Type} {change : Run → A → Run} (related : Run → Run → Prop)
    (refl : ∀ run, related run run)
    (trans : ∀ {first second third}, related first second → related second third →
      related first third)
    (changed : ∀ run item, related run (change run item)) (items : List A) (run : Run) :
    related run (items.foldl change run) := by
  induction items generalizing run with
  | nil => exact refl run
  | cons item rest inductionHypothesis =>
    exact trans (changed run item) (inductionHypothesis (change run item))

theorem enter_calm (run : Run) : Calm causes run run.enter :=
  foldl_related (Calm causes) Calm.refl Calm.trans
    (fun run (step : PlanStep) => makeReady_calm run step.index) _ run

theorem releaseStep_calm (run : Run) (index : Nat) : Calm causes run (run.releaseStep index) := by
  unfold releaseStep
  have counted : Calm causes run
      { run with waitingOn := run.waitingOn.set index ((run.waitingOn[index]?).getD 0 - 1) } :=
    calm_of_same rfl rfl rfl rfl rfl id
  dsimp only
  split
  · exact counted.trans (makeReady_calm _ index)
  · exact counted

theorem releaseSuccessors_calm (run : Run) (index : Nat) :
    Calm causes run (run.releaseSuccessors index) :=
  foldl_related (Calm causes) Calm.refl Calm.trans releaseStep_calm _ run

theorem markSkipped_calm (run : Run) (now : Moment) (index : Nat) :
    Calm causes run (run.markSkipped now index) :=
  (modifyRecord_calm run rfl (by simp)).trans
    (calm_of_same rfl rfl rfl rfl rfl id)

theorem skipFrom_calm (now : Moment) (count : Nat) (run : Run) (queue : List Nat) :
    Calm causes run (skipFrom now count run queue).1 := by
  induction count generalizing run queue with
  | zero => exact Calm.refl run
  | succ count inductionHypothesis =>
    cases queue with
    | nil => exact Calm.refl run
    | cons index rest =>
      unfold skipFrom
      split
      · exact (markSkipped_calm run now index).trans (inductionHypothesis _ _)
      · exact inductionHypothesis run rest

theorem save_calm (run : Run) (errand : Errand) : Calm causes run (run.save errand) :=
  calm_of_same rfl rfl rfl rfl rfl (fun _ => by simp [save])

end

end Run

/-- A turn is onward from a run if it passes on what is kept and tells mild things only. -/
structure Turn.Onward (causes : Halt → Prop) (before : Run) (turn : Turn) : Prop where
  advances : Run.Advances causes before turn.run
  mild : ∀ effect ∈ turn.effects, effect.Mild before.execution.status

theorem Turn.Onward.after {causes : Halt → Prop} {before calmly : Run} {turn : Turn}
    (later : Onward causes calmly turn) (calm : Run.Calm causes before calmly) :
    Onward causes before turn :=
  ⟨calm.andAdvances later.advances, fun effect member => calm.status ▸ later.mild effect member⟩

/-- A turn that begins calmly goes on as the next turn does. -/
theorem Turn.onward_andThen {causes : Halt → Prop} {before : Run} {turn : Turn} {next : Run → Turn}
    (calm : Run.Calm causes before turn.run)
    (mild : ∀ effect ∈ turn.effects, effect.Mild before.execution.status)
    (later : Onward causes turn.run (next turn.run)) :
    Onward causes before (turn.andThen next) := by
  refine ⟨calm.andAdvances later.advances, ?_⟩
  intro effect member
  rcases List.mem_append.mp member with early | late
  · exact mild effect early
  · rw [← calm.status]
    exact later.mild effect late

namespace Run

section

variable {causes : Halt → Prop}

theorem onward_quiet {before after : Run} (calm : Calm causes before after) :
    Turn.Onward causes before ⟨after, []⟩ :=
  ⟨calm.advances, by simp⟩

theorem halt_mild (run : Run) (halt : Halt) (status : ExecutionStatus) :
    ∀ effect ∈ (run.halt halt).effects, effect.Mild status := by
  unfold Run.halt
  split <;> simp [Effect.Mild]

theorem stepSettled_mild (run : Run) (index : Nat) (status : ExecutionStatus) :
    ∀ effect ∈ run.stepSettled index, effect.Mild status := by
  simp [stepSettled, announceStep, Effect.Mild]

theorem close_onward (run : Run) (ending : Ending) :
    Turn.Onward causes run (run.close ending) :=
  ⟨⟨⟨rfl, rfl, rfl, rfl, Or.inl rfl, fun _ => ⟨by simp [close, save], rfl⟩⟩,
    fun _ _ running => running⟩, by simp [close]⟩

theorem sweep_onward (run : Run) (ending : Ending) (rest : List Nat) :
    Turn.Onward causes run (run.sweep ending rest) := by
  cases rest with
  | nil => exact close_onward run ending
  | cons index rest =>
    exact ⟨((modifyRecord_calm run rfl (by simp)).trans (save_calm _ _)).advances,
      stepSettled_mild _ index _⟩

theorem dispatch_onward {run : Run} (unhalted : run.halted = none) (now : Moment) (index : Nat)
    (rest : List Nat) : Turn.Onward causes run (run.dispatch now index rest) := by
  have taken : Calm causes run { run with ready := rest } := calm_of_same rfl rfl rfl rfl rfl id
  refine ⟨⟨(taken.toKeeps.trans (modifyRecord_keeps _ ?_)).trans
    (@save_calm causes _ _).toKeeps, fun halted => absurd unhalted halted⟩, by simp [dispatch]⟩
  rfl

theorem proceed_onward (run : Run) (now : Moment) : Turn.Onward causes run (run.proceed now) := by
  have waits : Turn.Onward causes run ⟨{ run with phase := .waiting }, []⟩ :=
    onward_quiet (calm_of_same rfl rfl rfl rfl rfl (fun _ => by simp))
  unfold proceed
  split
  · next unhalted _ =>
    split
    · exact dispatch_onward unhalted now _ _
    · split
      · exact sweep_onward run _ _
      · exact waits
  · split
    · exact sweep_onward run _ _
    · exact waits

/-- A run halts for the reasons of its answers alone, not as it goes on. -/
theorem proceed_halted (run : Run) (now : Moment) : (run.proceed now).run.halted = run.halted := by
  have finishes : (run.finish now).run.halted = run.halted := by
    unfold finish
    cases run.unsettled <;> rfl
  unfold proceed
  split
  · split
    · rfl
    · split
      · exact finishes
      · rfl
  · split
    · exact finishes
    · rfl

theorem settled_onward (run : Run) (now : Moment) {halt : Option Halt}
    (caused : ∀ cause, halt = some cause → causes cause) :
    Turn.Onward causes run (run.settled now halt) := by
  have shown (run : Run) : Turn.Onward causes run
      ((Turn.mk run [run.snapshot]).andThen fun run => run.proceed now) :=
    Turn.onward_andThen (Calm.refl run) (by simp [snapshot, Effect.Mild]) (proceed_onward run now)
  unfold settled
  cases halt with
  | none =>
    refine Turn.onward_andThen (Calm.refl run) ?_ ?_
    · simp
    · exact shown run
  | some halt =>
    refine Turn.onward_andThen (halt_calm run (caused halt rfl)) (halt_mild run halt _) ?_
    exact shown (run.halt halt).run

theorem tellSkipped_onward (run : Run) (now : Moment) {halt : Option Halt}
    (caused : ∀ cause, halt = some cause → causes cause) (skipped : List Nat) :
    Turn.Onward causes run (run.tellSkipped now halt skipped) := by
  cases skipped with
  | nil => exact settled_onward run now caused
  | cons index rest => exact ⟨(save_calm run _).advances, stepSettled_mild run index _⟩

theorem concluded_calm (step : PlanStep) (record : StepRecord) (result : StepResult) :
    (concluded step record result).1.nodeId = record.nodeId ∧
      (concluded step record result).1.status ≠ .running := by
  unfold concluded
  split
  · simp
  · dsimp only
    split <;> simp
  · simp
  · simp

/-- A settlement starts no step. -/
theorem settle_calm (run : Run) (now : Moment) (report : StepReport) :
    Calm causes run (run.settle now report).run := by
  unfold settle
  split
  · exact Calm.refl run
  · next step _ =>
    obtain ⟨named, still⟩ := concluded_calm step { run.record report.index with
      attempt := report.attempts, finishedAt := some now.wall } report.result
    have landed : Calm causes run { run with inFlight := run.inFlight.erase report.index } :=
      calm_of_same rfl rfl rfl rfl rfl id
    refine (landed.trans (modifyRecord_calm _ ?_ ?_)).trans (save_calm _ _)
    · exact named
    · exact fun running => absurd running still

theorem settle_onward (run : Run) (now : Moment) (report : StepReport) :
    Turn.Onward causes run (run.settle now report) := by
  refine ⟨(settle_calm run now report).advances, ?_⟩
  unfold settle
  split
  · simp
  · exact stepSettled_mild _ _ _

/-- A save that has failed for good halts the run. -/
theorem checkSave_calm (run : Run) (activity : String) {outcome : Except StoreError Unit}
    (caused : ∀ error message, outcome = .error error →
      causes (.failed (.infrastructureError message))) :
    Calm causes run (run.checkSave activity outcome).run := by
  cases outcome with
  | ok => exact Calm.refl run
  | error error => exact halt_calm run (caused error _ rfl)

theorem checkSave_mild (run : Run) (activity : String) (outcome : Except StoreError Unit)
    (status : ExecutionStatus) :
    ∀ effect ∈ (run.checkSave activity outcome).effects, effect.Mild status := by
  cases outcome with
  | ok => simp [checkSave]
  | error error => exact halt_mild run _ status

end

/-- An answer that the run does not wait for leaves it as it is. -/
inductive Takes (run : Run) (now : Moment) : Input → Turn → Prop where
  | opened (phase : run.phase = .unopened) : Takes run now .opened (run.start now)
  | saved {errand : Errand} {failures : UInt32} {outcome : Except StoreError Unit}
    (phase : run.phase = .saving errand failures) :
    Takes run now (.saved outcome) (run.saved now errand failures outcome)
  | rested {errand : Errand} {failures : UInt32} (phase : run.phase = .pausing errand failures) :
    Takes run now .rested ⟨{ run with phase := .saving errand failures }, []⟩
  | reported {report : StepReport} (phase : run.phase = .waiting) :
    Takes run now (.reported report) (run.settle now report)
  | lost {index : Nat} {detail : String} (phase : run.phase = .waiting) :
    Takes run now (.lost index detail) (({ run with inFlight := run.inFlight.erase index }.halt
      (.failed (.infrastructureError ("step task failed: " ++ detail)))).andThen
        fun run => run.proceed now)
  | cancelled (phase : run.phase = .waiting) :
    Takes run now .cancelled ((run.halt .cancelled).andThen fun run => run.proceed now)
  | expired (phase : run.phase = .waiting) : Takes run now .expired
      ((run.halt (.failed .executionTimeout)).andThen fun run => run.proceed now)
  | idle {input : Input} (unsaved : ∀ errand failures outcome,
      run.phase = .saving errand failures → input ≠ .saved outcome)
    (unreported : ∀ report, run.phase = .waiting → input ≠ .reported report)
    (unlost : ∀ index detail, run.phase = .waiting → input ≠ .lost index detail) :
    Takes run now input ⟨run, []⟩

theorem advance_takes (run : Run) (now : Moment) (input : Input) :
    run.Takes now input (run.advance now input) := by
  unfold advance
  split
  · next phase => exact .opened phase
  · next errand failures outcome phase => exact .saved phase
  · next errand failures phase => exact .rested phase
  · next report phase => exact .reported phase
  · next index detail phase => exact .lost phase
  · next phase => exact .cancelled phase
  · next phase => exact .expired phase
  · next unsaved _ unreported unlost _ _ => exact .idle unsaved unreported unlost

end Run

end WorkflowEngine
