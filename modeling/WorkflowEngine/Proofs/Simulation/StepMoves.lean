/-
This file proves what one move of the task of a step does. The task hands over one action for every
attempt, waits for the outcome, and sleeps through the pauses between the attempts.
-/

import WorkflowEngine.Simulation.Task

namespace WorkflowEngine.Simulation

variable {S : Type}

/-- No attempt has gone on, the clock has stood still, and no task has lost its turn. -/
structure Undisturbed (before after : Simulation S) : Prop where
  attempts : after.attempts = before.attempts
  actions : after.actions = before.actions
  actionsStarted : after.actionsStarted = before.actionsStarted
  ticks : after.ticks = before.ticks
  queue : before.queue ⊆ after.queue

/-- The engine has not changed either. -/
structure SameWork (before after : Simulation S) : Prop extends before.Undisturbed after where
  engine : after.engine = before.engine

theorem Undisturbed.trans {first second third : Simulation S}
    (earlier : first.Undisturbed second) (later : second.Undisturbed third) :
    first.Undisturbed third :=
  ⟨later.attempts.trans earlier.attempts, later.actions.trans earlier.actions,
    later.actionsStarted.trans earlier.actionsStarted, later.ticks.trans earlier.ticks,
    List.Subset.trans earlier.queue later.queue⟩

namespace SameWork

theorem refl (simulation : Simulation S) : simulation.SameWork simulation :=
  ⟨⟨rfl, rfl, rfl, rfl, List.Subset.refl _⟩, rfl⟩

theorem trans {first second third : Simulation S} (earlier : first.SameWork second)
    (later : second.SameWork third) : first.SameWork third :=
  ⟨earlier.toUndisturbed.trans later.toUndisturbed, later.engine.trans earlier.engine⟩

theorem foldl {A : Type} {change : Simulation S → A → Simulation S}
    (same : ∀ (simulation : Simulation S) (item : A),
      simulation.SameWork (change simulation item)) (items : List A) (simulation : Simulation S) :
    simulation.SameWork (items.foldl change simulation) := by
  induction items generalizing simulation with
  | nil => exact refl simulation
  | cons item rest inductionHypothesis =>
    exact (same simulation item).trans (inductionHypothesis (change simulation item))

end SameWork

theorem mem_wake (simulation : Simulation S) (name : TaskName) :
    name ∈ (simulation.wake name).queue := by
  unfold wake
  split
  · next contained => simpa using contained
  · simp

theorem wake_same (simulation : Simulation S) (name : TaskName) :
    simulation.SameWork (simulation.wake name) := by
  unfold wake
  split
  · exact .refl simulation
  · exact ⟨⟨rfl, rfl, rfl, rfl, List.subset_append_left _ _⟩, rfl⟩

theorem defer_same (simulation : Simulation S) (name : TaskName) :
    simulation.SameWork (simulation.defer name) := by
  unfold defer
  split
  · exact .refl simulation
  · exact ⟨⟨rfl, rfl, rfl, rfl, List.Subset.refl _⟩, rfl⟩

theorem rise_same (simulation : Simulation S) (name : TaskName) :
    simulation.SameWork (simulation.rise name) := by
  unfold rise
  split
  · exact .refl simulation
  · exact ⟨⟨rfl, rfl, rfl, rfl, List.Subset.refl _⟩, rfl⟩

theorem spend_same (simulation : Simulation S) : simulation.SameWork simulation.spend :=
  ⟨⟨rfl, rfl, rfl, rfl, List.Subset.refl _⟩, rfl⟩

theorem sleep_same (simulation : Simulation S) (name : TaskName) (milliseconds : Nat) :
    simulation.SameWork (simulation.sleep name milliseconds) :=
  ⟨⟨rfl, rfl, rfl, rfl, List.Subset.refl _⟩, rfl⟩

theorem handIn_same (simulation : Simulation S) (id : Uuid) (job : Job) (index : Nat) :
    simulation.SameWork (simulation.handIn id job index) := by
  unfold handIn
  dsimp only
  split
  · exact .refl simulation
  · have handedIn : simulation.SameWork { simulation with
        reported := simulation.reported.insert id
          ((simulation.reported.get? id).getD [] ++ [index]) } :=
      ⟨⟨rfl, rfl, rfl, rfl, List.Subset.refl _⟩, rfl⟩
    split
    · exact handedIn.trans (wake_same _ (.run id))
    · exact handedIn

theorem stir_same (simulation : Simulation S) (id : Uuid) :
    simulation.SameWork (simulation.stir id) := by
  unfold stir
  split
  · exact .refl simulation
  · next job found =>
    have stirred : simulation.SameWork (if job.interrupted then
        (simulation.pausingSteps id job).foldl
          (fun simulation index => simulation.wake (.step id index)) simulation
        else simulation) := by
      split
      · exact .foldl (fun simulation index => wake_same simulation (.step id index)) _ simulation
      · exact .refl simulation
    dsimp only
    split
    · exact stirred.trans (wake_same _ _)
    · exact stirred

theorem react_same (id : Uuid) (simulation : Simulation S) (effect : Effect) :
    simulation.SameWork (react id simulation effect) := by
  cases effect with
  | launch index input => exact wake_same simulation (.step id index)
  | interrupt => exact stir_same simulation id
  | _ => exact ⟨⟨rfl, rfl, rfl, rfl, List.Subset.refl _⟩, rfl⟩

/-- A job has advanced by one input, at some moment, and no attempt was disturbed. -/
structure Advanced (before : Simulation S) (id : Uuid) (input : Job.Input)
    (after : Simulation S) : Prop extends before.Undisturbed after where
  engine : ∃ now, after.engine = (before.engine.advance now id input).1

theorem SameWork.advanced {before between : Simulation S} (same : before.SameWork between)
    (id : Uuid) (input : Job.Input) : before.Advanced id input (between.advance id input) := by
  have read : between.Undisturbed { between.read with
      engine := (between.engine.advance between.now id input).1 } :=
    ⟨rfl, rfl, rfl, rfl, List.Subset.refl _⟩
  have reacted : { between.read with
      engine := (between.engine.advance between.now id input).1 }.SameWork
        (between.advance id input) := .foldl (react_same id) _ _
  exact ⟨(same.toUndisturbed.trans read).trans reacted.toUndisturbed, between.now, by
    rw [reacted.engine, same.engine]⟩

/-- This is what becomes of one attempt and of one action. All others stay as they are. -/
structure Changes (before : Simulation S) (key : Uuid × Nat) (serial : Nat)
    (attempt : Option PendingAttempt) (action : Option PendingAction)
    (after : Simulation S) : Prop where
  attempted : after.attempts.get? key = attempt
  otherAttempts : ∀ other, other ≠ key → after.attempts.get? other = before.attempts.get? other
  acted : after.actions.get? serial = action
  otherActions : ∀ other, other ≠ serial → after.actions.get? other = before.actions.get? other
  ticks : after.ticks = before.ticks
  queue : before.queue ⊆ after.queue

namespace Changes

variable {before after : Simulation S} {key : Uuid × Nat} {serial : Nat}
  {attempt : Option PendingAttempt} {action : Option PendingAction}

/-- An attempt that is found after the changes is the changed one or was there before. -/
theorem attempt_cases (changes : before.Changes key serial attempt action after)
    {other : Uuid × Nat} {pending : PendingAttempt}
    (found : after.attempts.get? other = some pending) :
    other = key ∧ attempt = some pending ∨
      other ≠ key ∧ before.attempts.get? other = some pending := by
  by_cases same : other = key
  · exact .inl ⟨same, by rw [← changes.attempted, ← same, found]⟩
  · exact .inr ⟨same, by rw [← changes.otherAttempts other same, found]⟩

theorem action_cases (changes : before.Changes key serial attempt action after)
    {other : Nat} {performed : PendingAction}
    (found : after.actions.get? other = some performed) :
    other = serial ∧ action = some performed ∨
      other ≠ serial ∧ before.actions.get? other = some performed := by
  by_cases same : other = serial
  · exact .inl ⟨same, by rw [← changes.acted, ← same, found]⟩
  · exact .inr ⟨same, by rw [← changes.otherActions other same, found]⟩

end Changes

/-- A task sleeps until the end of its pause, and then something follows. -/
inductive Pause (before : Simulation S) (name : TaskName) (milliseconds : Nat)
    (follows : Simulation S → Prop) : Simulation S → Prop where
  | putOff {after : Simulation S} (spent : before.credit = 0) (same : before.SameWork after)
    (asleep : after.asleep = before.asleep) : Pause before name milliseconds follows after
  | fallsAsleep {after : Simulation S} (awake : before.asleep.get? name = none)
    (long : 0 < milliseconds) (same : before.SameWork after)
    (asleep : after.asleep.get? name = some (before.ticks + milliseconds))
    (timer : ⟨before.ticks + milliseconds, name⟩ ∈ after.timers) :
    Pause before name milliseconds follows after
  | sleepsOn {due : Nat} (asleep : before.asleep.get? name = some due)
    (early : before.ticks < due) : Pause before name milliseconds follows before
  | wakes {after : Simulation S} {due : Nat} (asleep : before.asleep.get? name = some due)
    (passed : due ≤ before.ticks) (goesOn : follows after) :
    Pause before name milliseconds follows after
  | skips {after : Simulation S} (awake : before.asleep.get? name = none)
    (short : milliseconds = 0) (goesOn : follows after) :
    Pause before name milliseconds follows after

theorem mem_insertTimer (timer : Timer) (timers : List Timer) :
    timer ∈ insertTimer timer timers := by
  induction timers with
  | nil => exact List.mem_singleton_self timer
  | cons first rest inductionHypothesis =>
    rw [insertTimer]
    split
    · exact List.mem_cons_self
    · exact List.mem_cons_of_mem first inductionHypothesis

theorem defer_asleep (simulation : Simulation S) (name : TaskName) :
    (simulation.defer name).asleep = simulation.asleep := by
  unfold defer
  split <;> rfl

theorem pause_move (simulation : Simulation S) (name : TaskName) (milliseconds : Nat)
    {resume : Simulation S → Simulation S} {follows : Simulation S → Prop}
    (resumes : ∀ between, simulation.SameWork between → follows (resume between)) :
    simulation.Pause name milliseconds follows
      (simulation.pause name milliseconds resume).simulation := by
  simp only [pause, withCredit]
  split
  · next spent => exact .putOff spent (defer_same simulation _) (defer_asleep simulation _)
  · split
    · next due asleep =>
      split
      · next passed =>
        exact .wakes asleep (of_decide_eq_true passed)
          (resumes _ ((spend_same simulation).trans (rise_same _ name)))
      · next early =>
        apply Pause.sleepsOn asleep
        simpa [isOver] using early
    · next awake =>
      split
      · next short => exact .skips awake short (resumes _ (spend_same simulation))
      · next long =>
        apply Pause.fallsAsleep awake (Nat.pos_of_ne_zero long) (sleep_same simulation _ _)
        · exact Table.getInsertSame _ _ _
        · exact mem_insertTimer _ _

/-- This action is handed over for an attempt. -/
def handedOver (id : Uuid) (index : Nat) (job : Job) (step : PlanStep) (task : StepTask)
    (node : Node) : PendingAction :=
  { execution := id
    index := index
    node := node
    call := {
      workflowId := job.run.execution.workflowId
      tenantId := job.run.execution.tenantId
      nodeId := step.nodeId
      parameters := step.parameters
      attempt := task.attempt
      timeoutMs := step.timeout.nanoseconds / 1000000
      input := task.input } }

/-- These are the moves of the task of a step, in each of its phases. -/
inductive StepMove (before : Simulation S) (id : Uuid) (index : Nat) (job : Job) (step : PlanStep)
    (task : StepTask) : Simulation S → Prop where
  /-- Without credit the task waits for its next turn; a new attempt takes no credit. -/
  | putOff {after : Simulation S} (spent : before.credit = 0) (unended : task.report? = none)
    (begun : task.phase = .attempting → (before.attempts.get? (id, index)).isSome = true)
    (same : before.SameWork after) : StepMove before id index job step task after
  | handsOver {after : Simulation S} {node : Node} (attempting : task.phase = .attempting)
    (idle : before.attempts.get? (id, index) = none)
    (known : job.executor.catalog.get? step.nodeType = some node)
    (changes : before.Changes (id, index) before.actionsStarted
      (some { action := before.actionsStarted
              due := before.ticks + step.timeout.nanoseconds / 1000000 })
      (some (handedOver id index job step task node)) after)
    (engine : after.engine = before.engine)
    (actionsStarted : after.actionsStarted = before.actionsStarted + 1)
    (queued : .action before.actionsStarted ∈ after.queue) :
    StepMove before id index job step task after
  | lacks {after : Simulation S} (attempting : task.phase = .attempting)
    (idle : before.attempts.get? (id, index) = none)
    (unknown : job.executor.catalog.get? step.nodeType = none)
    (advanced : before.Advanced id (.executorMissing index) after) :
    StepMove before id index job step task after
  | watches {after : Simulation S} {pending : PendingAttempt} (attempting : task.phase = .attempting)
    (busy : before.attempts.get? (id, index) = some pending) (unended : pending.result = none)
    (early : before.ticks < pending.due)
    (changes : before.Changes (id, index) pending.action (some { pending with watched := true })
      (before.actions.get? pending.action) after)
    (engine : after.engine = before.engine)
    (actionsStarted : after.actionsStarted = before.actionsStarted) :
    StepMove before id index job step task after
  | takesResult {after : Simulation S} {pending : PendingAttempt} {result : ActionResult}
    (attempting : task.phase = .attempting)
    (busy : before.attempts.get? (id, index) = some pending)
    (ended : pending.result = some result)
    (changes : before.Changes (id, index) pending.action none
      (before.actions.get? pending.action) after)
    (engine : ∃ now, after.engine =
      (before.engine.advance now id (.attemptEnded index (.ofResult result))).1)
    (actionsStarted : after.actionsStarted = before.actionsStarted) :
    StepMove before id index job step task after
  /-- An attempt is cut off when its time is over, even before its action has had a turn. -/
  | cutsOff {after : Simulation S} {pending : PendingAttempt} (attempting : task.phase = .attempting)
    (busy : before.attempts.get? (id, index) = some pending) (unended : pending.result = none)
    (due : pending.due ≤ before.ticks)
    (changes : before.Changes (id, index) pending.action none none after)
    (engine : ∃ now, after.engine =
      (before.engine.advance now id (.attemptEnded index .timedOut)).1)
    (actionsStarted : after.actionsStarted = before.actionsStarted) :
    StepMove before id index job step task after
  | pauses {after : Simulation S} {milliseconds : UInt64}
    (pausing : task.phase = .pausing milliseconds) (free : job.interrupted = false)
    (pause : before.Pause (.step id index) milliseconds.toNat
      (before.Advanced id (.pauseEnded index)) after) : StepMove before id index job step task after
  | interrupted {after : Simulation S} {milliseconds : UInt64}
    (pausing : task.phase = .pausing milliseconds) (stopped : job.interrupted = true)
    (advanced : before.Advanced id (.pauseInterrupted index) after) :
    StepMove before id index job step task after
  | handsIn {after : Simulation S} {result : StepResult} (ended : task.phase = .ended result)
    (same : before.SameWork after) (handedIn : index ∈ (after.reported.get? id).getD []) :
    StepMove before id index job step task after

section

variable {simulation : Simulation S} {id : Uuid} {index : Nat} {job : Job} {step : PlanStep}
  {task : StepTask}

theorem beginAttempt_move (attempting : task.phase = .attempting)
    (idle : simulation.attempts.get? (id, index) = none) :
    StepMove simulation id index job step task
      (simulation.beginAttempt id index job step task).simulation := by
  unfold beginAttempt
  split
  · next unknown => exact .lacks attempting idle unknown ((SameWork.refl simulation).advanced id _)
  · next node known =>
    have woken := wake_same simulation (.action simulation.actionsStarted)
    refine .handsOver attempting idle known ⟨?_, ?_, ?_, ?_, woken.ticks, woken.queue⟩
      woken.engine rfl (mem_wake _ _)
    · exact Table.getInsertSame _ _ _
    · intro other different
      refine (Table.getInsertOther _ _ (Ne.symm different)).trans ?_
      exact congrArg (Table.get? · other) woken.attempts
    · exact Table.getInsertSame _ _ _
    · intro other different
      exact Table.getInsertOther _ _ (Ne.symm different)

/-- The end of an attempt gives its outcome to the job. -/
theorem endAttempt_ends (simulation : Simulation S) (id : Uuid) (index : Nat)
    (outcome : AttemptOutcome) (serial : Nat) :
    simulation.Changes (id, index) serial none (simulation.actions.get? serial)
        (simulation.endAttempt id index outcome) ∧
      (∃ now, (simulation.endAttempt id index outcome).engine =
        (simulation.engine.advance now id (.attemptEnded index outcome)).1) ∧
      (simulation.endAttempt id index outcome).actionsStarted = simulation.actionsStarted := by
  have risen := rise_same simulation (.step id index)
  have advanced := (SameWork.refl { simulation.rise (.step id index) with
    attempts := (simulation.rise (.step id index)).attempts.erase (id, index) }).advanced id
      (.attemptEnded index outcome)
  refine ⟨⟨?_, ?_, ?_, ?_, ?_, ?_⟩, ?_, ?_⟩
  · exact (congrArg (Table.get? · (id, index)) advanced.attempts).trans (Table.getEraseSame _ _)
  · intro other different
    refine (congrArg (Table.get? · other) advanced.attempts).trans ?_
    refine (Table.getEraseOther _ (Ne.symm different)).trans ?_
    exact congrArg (Table.get? · other) risen.attempts
  · exact congrArg (Table.get? · serial) (advanced.actions.trans risen.actions)
  · exact fun other _ => congrArg (Table.get? · other) (advanced.actions.trans risen.actions)
  · exact advanced.ticks.trans risen.ticks
  · exact List.Subset.trans risen.queue advanced.queue
  · obtain ⟨now, engine⟩ := advanced.engine
    refine ⟨now, engine.trans ?_⟩
    rw [← risen.engine]
  · exact advanced.actionsStarted.trans risen.actionsStarted

/-- An action that is dropped is gone, and nothing else has changed. -/
theorem abort_drops (simulation : Simulation S) (serial : Nat) :
    (simulation.abort serial).actions = simulation.actions.erase serial ∧
      (simulation.abort serial).attempts = simulation.attempts ∧
      (simulation.abort serial).engine = simulation.engine ∧
      (simulation.abort serial).actionsStarted = simulation.actionsStarted ∧
      (simulation.abort serial).ticks = simulation.ticks ∧
      simulation.queue ⊆ (simulation.abort serial).queue := by
  have same := (rise_same simulation (.action serial)).trans (wake_same _ (.action serial))
  exact ⟨congrArg (Table.erase · serial) (rise_same simulation (.action serial)).actions,
    same.attempts, same.engine, same.actionsStarted, same.ticks, same.queue⟩

/-- An attempt that is cut off is gone with its action. -/
theorem cutOff_ends (simulation : Simulation S) (id : Uuid) (index serial : Nat) :
    simulation.Changes (id, index) serial none none
        ((simulation.abort serial).endAttempt id index .timedOut) ∧
      (∃ now, ((simulation.abort serial).endAttempt id index .timedOut).engine =
        (simulation.engine.advance now id (.attemptEnded index .timedOut)).1) ∧
      ((simulation.abort serial).endAttempt id index .timedOut).actionsStarted =
        simulation.actionsStarted := by
  obtain ⟨actions, attempts, engine, started, ticks, queue⟩ := abort_drops simulation serial
  obtain ⟨changes, ⟨now, ended⟩, actionsStarted⟩ :=
    endAttempt_ends (simulation.abort serial) id index .timedOut serial
  refine ⟨⟨changes.attempted, ?_, ?_, ?_, changes.ticks.trans ticks,
    List.Subset.trans queue changes.queue⟩, ⟨now, ?_⟩, actionsStarted.trans started⟩
  · intro other different
    rw [changes.otherAttempts other different, attempts]
  · rw [changes.acted, actions]
    exact Table.getEraseSame _ _
  · intro other different
    rw [changes.otherActions other different, actions]
    exact Table.getEraseOther _ (Ne.symm different)
  · rw [ended, engine]

theorem moveAttempt_move {pending : PendingAttempt} (attempting : task.phase = .attempting)
    (busy : simulation.attempts.get? (id, index) = some pending) :
    StepMove simulation id index job step task
      (simulation.moveAttempt id index pending).simulation := by
  simp only [moveAttempt, withCredit]
  split
  · next spent =>
    refine .putOff spent (by simp [StepTask.report?, attempting]) (fun _ => ?_)
      (defer_same simulation _)
    rw [busy, Option.isSome_some]
  · split
    · next result ended =>
      obtain ⟨changes, engine, actionsStarted⟩ :=
        endAttempt_ends simulation.spend id index (.ofResult result) pending.action
      exact .takesResult attempting busy ended
        ⟨changes.attempted, changes.otherAttempts, changes.acted, changes.otherActions,
          changes.ticks, changes.queue⟩ engine actionsStarted
    · next unended =>
      split
      · next due =>
        obtain ⟨changes, engine, actionsStarted⟩ :=
          cutOff_ends simulation.spend id index pending.action
        exact .cutsOff attempting busy unended (of_decide_eq_true due)
          ⟨changes.attempted, changes.otherAttempts, changes.acted, changes.otherActions,
            changes.ticks, changes.queue⟩ engine actionsStarted
      · next early =>
        have early : simulation.ticks < pending.due := by simpa [isOver] using early
        unfold watch
        split
        · next watched =>
          refine .watches attempting busy unended early
            ⟨?_, fun _ _ => rfl, rfl, fun _ _ => rfl, rfl, List.Subset.refl _⟩ rfl rfl
          rw [yielded, busy, ← watched]
        · refine .watches attempting busy unended early
            ⟨Table.getInsertSame _ _ _, fun other different => ?_, rfl, fun _ _ => rfl, rfl,
              List.Subset.refl _⟩ rfl rfl
          exact Table.getInsertOther _ _ (Ne.symm different)

theorem handIn_reported (simulation : Simulation S) (id : Uuid) (job : Job) (index : Nat) :
    index ∈ ((simulation.handIn id job index).reported.get? id).getD [] := by
  have handedIn (after : Simulation S) (reported : after.reported = simulation.reported.insert id
      ((simulation.reported.get? id).getD [] ++ [index])) :
      index ∈ (after.reported.get? id).getD [] := by
    rw [reported, Table.getInsertSame, Option.getD_some, List.mem_append]
    exact .inr (List.mem_singleton_self index)
  unfold handIn
  dsimp only
  split
  · next contained => simpa using contained
  · apply handedIn
    unfold wake
    repeat' split
    all_goals rfl

/-- The task of a step only makes its moves. -/
theorem moveStep_move (present : simulation.engine.jobs.get? id = some job)
    (own : job.task? index = some task) (found : job.run.plan.steps[index]? = some step) :
    StepMove simulation id index job step task (simulation.moveStep id index).simulation := by
  simp only [moveStep, present, own, found]
  split
  · next attempting =>
    split
    · next pending busy => exact moveAttempt_move attempting busy
    · next idle => exact beginAttempt_move attempting idle
  · next milliseconds pausing =>
    unfold withCredit
    split
    · next spent =>
      refine .putOff spent (by simp [StepTask.report?, pausing]) ?_ (defer_same simulation _)
      intro attempting
      cases pausing.symm.trans attempting
    · split
      · next stopped =>
        exact .interrupted pausing stopped ((rise_same simulation _).advanced id _)
      · next free =>
        exact .pauses pausing (by simpa using free)
          (pause_move simulation _ _ fun between same => same.advanced id _)
  · next result ended =>
    exact .handsIn ended (handIn_same simulation id job index)
      (handIn_reported simulation id job index)

end

end WorkflowEngine.Simulation
