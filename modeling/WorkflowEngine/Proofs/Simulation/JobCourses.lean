/-
This file proves that every course of a simulation is followed by a course of each job in it. The
action of a step is invoked once for every attempt that the job counts, if the attempts have time.
-/

import WorkflowEngine.Proofs.Engine.Traffic
import WorkflowEngine.Proofs.Execution.RetryLoop
import WorkflowEngine.Proofs.Simulation.Course

namespace WorkflowEngine

namespace Job

/-- An input spares a step if it does not end an attempt of that step. -/
def Input.Spares (index : Nat) : Input → Prop
  | .attemptEnded other _ | .executorMissing other | .died other _ => other ≠ index
  | _ => True

theorem Input.OfRun.spares {input : Input} (ofRun : input.OfRun) (index : Nat) :
    input.Spares index := by
  cases input <;> trivial

/-- These are the numbers of the attempts that a step has ended. -/
def attemptNumbers (index : Nat) (past : List Occurrence) : List Nat :=
  (deeds index past).filterMap StepTask.Deed.number?

section

variable {start job : Job} {past : List Occurrence} {now : Moment} {input : Input} {index : Nat}
  {task : StepTask}

theorem attemptNumbers_concat (index : Nat) (past : List Occurrence) (occurrence : Occurrence) :
    attemptNumbers index (past ++ [occurrence]) =
      attemptNumbers index past ++ (occurrence.deeds index).filterMap StepTask.Deed.number? := by
  rw [attemptNumbers, deeds_concat, List.filterMap_append, attemptNumbers]

theorem attemptNumbers_spared (spares : input.Spares index) :
    attemptNumbers index (past ++ [⟨job, now, input⟩]) = attemptNumbers index past := by
  have quiet (task : StepTask) (own : job.task? index = some task) :
      (job.deed? input task).bind StepTask.Deed.number? = none := by
    have same := (mem_of_task own).2
    cases input with
    | attemptEnded other outcome =>
      rw [deed?, if_neg fun owns => spares (owns.1.symm.trans same)]
      rfl
    | pauseEnded other =>
      cases paused : task.pause? <;> simp [deed?, paused, StepTask.Deed.number?]
    | pauseInterrupted other =>
      cases paused : task.pause? <;> simp [deed?, paused, StepTask.Deed.number?]
    | executorMissing other => simp [deed?, StepTask.Deed.number?]
    | _ => rfl
  rw [attemptNumbers_concat]
  cases own : job.task? index with
  | none => simp [Occurrence.deeds, own]
  | some task =>
    have quiet := quiet task own
    cases done : job.deed? input task with
    | none => simp [Occurrence.deeds, own, done]
    | some deed =>
      rw [done, Option.bind_some] at quiet
      simp [Occurrence.deeds, own, done, quiet]

/-- The end of an attempt counts the attempt. -/
theorem attemptNumbers_attempted (own : job.task? index = some task)
    (attempting : task.phase = .attempting) (outcome : AttemptOutcome) :
    attemptNumbers index (past ++ [⟨job, now, .attemptEnded index outcome⟩]) =
      attemptNumbers index past ++ [task.attempt.toNat] := by
  have same := (mem_of_task own).2
  rw [attemptNumbers_concat]
  simp [Occurrence.deeds, own, deed?, same, attempting, StepTask.Deed.number?]

theorem staffed_concat {occurrence : Occurrence} : Staffed (past ++ [occurrence]) ↔
    Staffed past ∧ ∀ index step, occurrence.input = .executorMissing index →
      occurrence.before.run.plan.steps[index]? = some step →
        occurrence.before.executor.catalog.get? step.nodeType = none := by
  simp only [Staffed, List.forall_mem_append, List.forall_mem_singleton]

/-- A task that makes an attempt goes on with it if it is spared. -/
theorem Sound.task_spared (wellFormed : start.run.plan.WellFormed) (sound : Sound start past job)
    (now : Moment) (spares : input.Spares index) (own : job.task? index = some task)
    (attempting : task.phase = .attempting) :
    (job.advance now input).1.task? index = some task := by
  obtain ⟨inside, same⟩ := mem_of_task own
  have unreported : task.report? = none := by simp [StepTask.report?, attempting]
  have untouched : job.touch input task = task := by
    cases input with
    | attemptEnded other outcome =>
      exact if_neg fun owns => spares (owns.1.symm.trans same)
    | executorMissing other =>
      exact if_neg fun owns => spares (owns.1.symm.trans same)
    | pauseEnded other =>
      simp only [touch]
      split
      · rw [StepTask.rested, attempting]
      · rfl
    | pauseInterrupted other =>
      simp only [touch]
      split
      · rw [StepTask.interrupt, attempting]
      · rfl
    | _ => rfl
  have kept (other : Nat) (different : other ≠ index) : task ∈ (job.dropTask other).tasks := by
    simp only [dropTask, List.mem_filter]
    exact ⟨inside, by simpa [same] using different.symm⟩
  have remains : task ∈ job.remaining now input := by
    unfold remaining
    cases answered : job.answer? now input with
    | none => exact inside
    | some answer =>
      cases answers_of_answer answered with
      | @joined other report phase found ended =>
        refine kept report.index fun equal => ?_
        rw [equal, own] at found
        cases found
        cases unreported.symm.trans ended
      | died => exact kept _ spares
      | _ => exact inside
  have member : task ∈ (job.advance now input).1.tasks := by
    rw [tasks_after sound.valid]
    exact List.mem_append_left _ (List.mem_map.mpr ⟨task, remains, untouched⟩)
  exact same ▸ (sound.next wellFormed now input).task_found member

end

end Job

/-- The milliseconds that an attempt of a step may take. -/
def PlanStep.timeoutMs (step : PlanStep) : Nat :=
  step.timeout.nanoseconds / 1000000

namespace Simulation

/-- What was done is a part of what was due, and all of it if there was time. -/
structure Tallies (timeoutMs : Nat) (done due : List Nat) : Prop where
  part : done.Sublist due
  whole : 0 < timeoutMs → done = due

namespace Tallies

variable {timeoutMs : Nat} {done due rest : List Nat}

theorem append (tallies : Tallies timeoutMs done due) (more : List Nat) :
    Tallies timeoutMs (done ++ more) (due ++ more) :=
  ⟨tallies.part.append (List.Sublist.refl more), fun long => by rw [tallies.whole long]⟩

theorem without (tallies : Tallies timeoutMs (done ++ rest) due)
    (none : 0 < timeoutMs → rest = []) : Tallies timeoutMs done due := by
  refine ⟨(List.sublist_append_left done rest).trans tallies.part, fun long => ?_⟩
  rw [← tallies.whole long, none long, List.append_nil]

end Tallies

variable {S : Type}

/-- The job stays, is forgotten after its end, or takes an input that spares a step. -/
inductive Carries (id : Uuid) (index : Nat) (before after : Engine S) : Prop where
  | leaves (jobs : after.jobs.get? id = before.jobs.get? id)
  | forgets (job : Job) (found : before.jobs.get? id = some job) (closed : job.run.phase = .closed)
    (gone : after.jobs.get? id = none)
  | moves (now : Moment) (input : Job.Input) (spares : input.Spares index)
    (unknown : ∀ job position step, before.jobs.get? id = some job →
      input = .executorMissing position → job.run.plan.steps[position]? = some step →
        job.executor.catalog.get? step.nodeType = none)
    (jobs : after.jobs.get? id =
      (before.jobs.get? id).map fun job => (job.advance now input).1)

theorem advance_carries {id : Uuid} {index : Nat} (engine : Engine S) (now : Moment)
    (other : Uuid) (input : Job.Input) (spares : other = id → input.Spares index)
    (unknown : ∀ job position step, engine.jobs.get? other = some job →
      input = .executorMissing position → job.run.plan.steps[position]? = some step →
        job.executor.catalog.get? step.nodeType = none) :
    Carries id index engine (engine.advance now other input).1 := by
  cases found : engine.jobs.get? other with
  | none => exact .leaves (by rw [Engine.advance_unknown found])
  | some job =>
    have jobs := (Engine.advance_moves found now input).2.jobs
    by_cases same : other = id
    · subst same
      refine .moves now input (spares rfl) unknown ?_
      rw [jobs, Table.getInsertSame, found, Option.map_some]
    · exact .leaves (by rw [jobs, Table.getInsertOther _ _ same])

theorem save_carries [ExecutionStore S] {id : Uuid} {index : Nat} (engine : Engine S)
    (now : Moment) (other : Uuid) : Carries id index engine (engine.save now other).1 := by
  unfold Engine.save
  split
  · exact .leaves rfl
  · next job found =>
    split
    · next errand failures phase =>
      -- the advance of a job does not look at the store
      have carries : Carries id index { engine with
          store := (Engine.performSave job.run errand engine.store).2 } _ :=
        advance_carries _ now other (.saved (Engine.performSave job.run errand engine.store).1)
          (fun _ => trivial) (fun _ _ _ _ same => by cases same)
      rcases carries with jobs | ⟨job, found, closed, gone⟩ | ⟨now, input, spares, unknown, jobs⟩
      · exact .leaves jobs
      · exact .forgets job found closed gone
      · exact .moves now input spares unknown jobs
    · exact .leaves rfl

theorem evict_carries {id : Uuid} {index : Nat} (engine : Engine S) (other : Uuid) :
    Carries id index engine (engine.evict other) := by
  rcases engine.evict_forgets other with still | ⟨job, found, closed, forgotten⟩
  · exact .leaves (by rw [still])
  · by_cases same : other = id
    · subst same
      exact .forgets job found closed (by rw [forgotten, Table.getEraseSame])
    · exact .leaves (by rw [forgotten, Table.getEraseOther _ same])

theorem RunMove.carries [ExecutionStore S] {before after : Simulation S} {id other : Uuid}
    {index : Nat} (move : before.RunMove other after) :
    Carries id index before.engine after.engine := by
  cases move with
  | waits same => exact .leaves (by rw [same.engine])
  | advances advanced ofRun =>
    obtain ⟨now, engine⟩ := advanced.engine
    rw [engine]
    apply advance_carries
    · intro _
      exact ofRun.spares index
    · rintro job other step - rfl
      exact ofRun.elim
  | saves _ engine =>
    obtain ⟨now, engine⟩ := engine
    rw [engine]
    exact save_carries before.engine now other
  | forgets _ engine =>
    rw [engine]
    exact evict_carries before.engine other

theorem Spares.carries {id : Uuid} {index : Nat} {before after : Engine S}
    (spares : Spares id before after) : Carries id index before after := by
  cases spares with
  | leaves jobs => exact .leaves jobs
  | cancels now jobs =>
    exact .moves now .cancelRequested trivial (fun _ _ _ _ same => by cases same) jobs

section

variable {id : Uuid} {engine after : Engine S}

theorem spares_undisturbed (undisturbed : Engine.Undisturbed engine after) :
    Spares id engine after :=
  .leaves (by rw [undisturbed.jobs])

theorem Starts.spares {biller : Option Uuid} {E : Type} {result : Except E Uuid × Engine S}
    (starts : Engine.Starts engine biller result) (fresh : engine.ids.draw.1 ≠ id) :
    Spares id engine result.2 := by
  cases starts with
  | refused error jobs => exact .leaves (by rw [jobs])
  | admitted tenantId bills job admits =>
    exact .leaves (by rw [admits.jobs, Table.getInsertOther _ _ fresh])

theorem cancel_spares [ExecutionStore S] (engine : Engine S) (now : Moment) (other : Uuid) :
    Spares id engine (engine.cancel now other).2 := by
  rcases engine.cancel_moves now other with undisturbed | ⟨cancelled, -⟩
  · exact spares_undisturbed undisturbed
  · rw [cancelled]
    cases found : engine.jobs.get? other with
    | none => exact .leaves (by rw [Engine.advance_unknown found])
    | some job =>
      have jobs := (Engine.advance_moves found now .cancelRequested).2.jobs
      by_cases same : other = id
      · subst same
        exact .cancels now (by rw [jobs, Table.getInsertSame, found, Option.map_some])
      · exact .leaves (by rw [jobs, Table.getInsertOther _ _ same])

/-- The calls by which no execution goes on spare all executions but a new one. -/
theorem perform_spares [ExecutionStore S] (engine : Engine S) (call : Engine.Call S)
    (outside : (∀ now other input, call ≠ .advance now other input) ∧
      (∀ now other, call ≠ .save now other) ∧ ∀ other, call ≠ .evict other)
    (fresh : engine.ids.draw.1 ≠ id) : Spares id engine (engine.perform call).2 := by
  obtain ⟨advance, save, evict⟩ := outside
  cases call with
  | compile definition => exact spares_undisturbed (engine.compile_undisturbed definition)
  | register definition => exact spares_undisturbed (engine.register_undisturbed definition)
  | unregister workflowId => exact spares_undisturbed (engine.unregister_undisturbed workflowId)
  | planFor now workflowId => exact spares_undisturbed (engine.planFor_undisturbed now workflowId)
  | startExecution plan tenantId input =>
    exact Starts.spares (engine.startExecution_starts plan tenantId input) fresh
  | startWorkflow now workflowId tenantId input =>
    exact Starts.spares (engine.startWorkflow_starts now workflowId tenantId input) fresh
  | admitAndLaunch webhook plan request =>
    exact Starts.spares (engine.admitAndLaunch_starts webhook plan request) fresh
  | triggerWebhook now webhookId request =>
    exact Starts.spares (engine.triggerWebhook_starts now webhookId request) fresh
  | advance now other input => exact absurd rfl (advance now other input)
  | save now other => exact absurd rfl (save now other)
  | evict other => exact absurd rfl (evict other)
  | status other => exact spares_undisturbed (engine.status_undisturbed other)
  | cancel now other => exact cancel_spares engine now other
  | setTenants tenants => exact .leaves rfl
  | setStore store => exact .leaves rfl

end

/-- An action that was invoked for a step has the node and the settings of the step. -/
structure Performs (action : PendingAction) (step : PlanStep) (node : Node) : Prop where
  node : action.node = node
  nodeId : action.call.nodeId = step.nodeId
  parameters : action.call.parameters = step.parameters
  timeoutMs : action.call.timeoutMs = step.timeoutMs

/-- These are the numbers with which the action of a step was invoked. -/
def invokedNumbers (key : Uuid × Nat) (invoked : List PendingAction) : List Nat :=
  (invoked.filter fun action => action.key = key).map fun action => action.call.attempt.toNat

theorem invokedNumbers_concat (key : Uuid × Nat) (invoked : List PendingAction)
    (action : PendingAction) : invokedNumbers key (invoked ++ [action]) =
      invokedNumbers key invoked ++
        if action.key = key then [action.call.attempt.toNat] else [] := by
  by_cases own : action.key = key <;> simp [invokedNumbers, own]

/-- These are the numbers of the actions that stand in line to be invoked. -/
def awaitedNumbers (simulation : Simulation S) (serial : Nat) : List Nat :=
  ((simulation.invocation? (.action serial)).map fun action => action.call.attempt.toNat).toList

/-- The invocations of a step in a simulation agree with the course of its job. -/
structure Follows (start : Job) (id : Uuid) (index : Nat) (step : PlanStep) (node : Node)
    (invoked : List PendingAction) (simulation : Simulation S) (past : List Job.Occurrence)
    (job : Job) : Prop where
  course : Job.Course start past job
  staffed : Job.Staffed past
  held : simulation.engine.jobs.get? id = some job ∨
    simulation.engine.jobs.get? id = none ∧ job.run.phase = .closed
  idle : simulation.attempts.get? (id, index) = none →
    Tallies step.timeoutMs (invokedNumbers (id, index) invoked) (Job.attemptNumbers index past)
  busy : ∀ pending, simulation.attempts.get? (id, index) = some pending →
    ∃ task, job.task? index = some task ∧ task.phase = .attempting ∧
      Tallies step.timeoutMs
        (invokedNumbers (id, index) invoked ++ simulation.awaitedNumbers pending.action)
        (Job.attemptNumbers index past ++ [task.attempt.toNat])
  performed : ∀ action ∈ invoked, action.key = (id, index) → Performs action step node
  awaited : ∀ serial action, simulation.actions.get? serial = some action →
    action.key = (id, index) → Performs action step node

section

variable {start job : Job} {id : Uuid} {index : Nat} {step : PlanStep} {node : Node}
  {invoked : List PendingAction} {simulation after : Simulation S} {past : List Job.Occurrence}

/-- What concerns other steps is followed by a course of the job. -/
theorem Follows.carried (wellFormed : start.run.plan.WellFormed) (sound : Job.Sound start past job)
    (follows : Follows start id index step node invoked simulation past job)
    (carries : Carries id index simulation.engine after.engine)
    (attempt : after.attempts.get? (id, index) = simulation.attempts.get? (id, index))
    (awaits : ∀ pending, simulation.attempts.get? (id, index) = some pending →
      after.awaitedNumbers pending.action = simulation.awaitedNumbers pending.action)
    (awaited : ∀ serial action, after.actions.get? serial = some action →
      action.key = (id, index) → Performs action step node) :
    ∃ past job, Follows start id index step node invoked after past job := by
  obtain ⟨course, staffed, held, idle, busy, performed, -⟩ := follows
  have busy : ∀ pending, after.attempts.get? (id, index) = some pending →
      ∃ task, job.task? index = some task ∧ task.phase = .attempting ∧
        Tallies step.timeoutMs
          (invokedNumbers (id, index) invoked ++ after.awaitedNumbers pending.action)
          (Job.attemptNumbers index past ++ [task.attempt.toNat]) := by
    intro pending found
    rw [attempt] at found
    rw [awaits pending found]
    exact busy pending found
  rw [← attempt] at idle
  cases carries with
  | leaves jobs => exact ⟨past, job, course, staffed, jobs ▸ held, idle, busy, performed, awaited⟩
  | forgets current found closed gone =>
    rw [found] at held
    obtain rfl : current = job := by simpa using held
    exact ⟨past, current, course, staffed, .inr ⟨gone, closed⟩, idle, busy, performed, awaited⟩
  | moves now input spares unknown jobs =>
    rcases held with present | ⟨absent, closed⟩
    · rw [present, Option.map_some] at jobs
      have manned : Job.Staffed (past ++ [⟨job, now, input⟩]) :=
        Job.staffed_concat.mpr ⟨staffed, fun position place => unknown job position place present⟩
      refine ⟨_, _, course.next now input, manned, .inl jobs, ?_, ?_, performed, awaited⟩
      · rwa [Job.attemptNumbers_spared spares]
      · intro pending found
        obtain ⟨task, own, attempting, tallies⟩ := busy pending found
        refine ⟨task, sound.task_spared wellFormed now spares own attempting, attempting, ?_⟩
        rwa [Job.attemptNumbers_spared spares]
    · rw [absent, Option.map_none] at jobs
      exact ⟨past, job, course, staffed, .inr ⟨jobs, closed⟩, idle, busy, performed, awaited⟩

/-- Work that disturbs no attempt is followed. -/
theorem Follows.undisturbed (wellFormed : start.run.plan.WellFormed)
    (sound : Job.Sound start past job)
    (follows : Follows start id index step node invoked simulation past job)
    (undisturbed : simulation.Undisturbed after)
    (carries : Carries id index simulation.engine after.engine) :
    ∃ past job, Follows start id index step node invoked after past job := by
  apply follows.carried wellFormed sound carries
  · rw [undisturbed.attempts]
  · intro pending _
    simp only [awaitedNumbers, invocation?, undisturbed.actions]
  · rw [undisturbed.actions]
    exact follows.awaited

theorem Follows.same (wellFormed : start.run.plan.WellFormed) (sound : Job.Sound start past job)
    (follows : Follows start id index step node invoked simulation past job)
    (same : simulation.SameWork after) :
    ∃ past job, Follows start id index step node invoked after past job :=
  follows.undisturbed wellFormed sound same.toUndisturbed (.leaves (by rw [same.engine]))

theorem Follows.advanced {other : Uuid} {input : Job.Input}
    (wellFormed : start.run.plan.WellFormed) (sound : Job.Sound start past job)
    (follows : Follows start id index step node invoked simulation past job)
    (advanced : simulation.Advanced other input after) (spares : other = id → input.Spares index)
    (unknown : ∀ job position step, simulation.engine.jobs.get? other = some job →
      input = .executorMissing position → job.run.plan.steps[position]? = some step →
        job.executor.catalog.get? step.nodeType = none) :
    ∃ past job, Follows start id index step node invoked after past job := by
  obtain ⟨now, engine⟩ := advanced.engine
  refine follows.undisturbed wellFormed sound advanced.toUndisturbed ?_
  rw [engine]
  exact advance_carries _ now other input spares unknown

/-- The pause of a step is followed, whether it goes on or ends. -/
theorem Follows.paused {other : Uuid} {position : Nat} {name : TaskName} {milliseconds : Nat}
    (wellFormed : start.run.plan.WellFormed) (sound : Job.Sound start past job)
    (follows : Follows start id index step node invoked simulation past job)
    (pause : simulation.Pause name milliseconds
      (simulation.Advanced other (.pauseEnded position)) after) :
    ∃ past job, Follows start id index step node invoked after past job := by
  cases pause with
  | putOff _ same | fallsAsleep _ _ same => exact follows.same wellFormed sound same
  | sleepsOn => exact ⟨past, job, follows⟩
  | wakes _ _ advanced | skips _ _ advanced =>
    exact follows.advanced wellFormed sound advanced (fun _ => trivial)
      fun _ _ _ _ same => by cases same

/-- A change of another attempt is followed. -/
theorem Follows.elsewhere {key : Uuid × Nat} {serial : Nat}
    {attempt : Option PendingAttempt} {action : Option PendingAction}
    (wellFormed : start.run.plan.WellFormed) (sound : Job.Sound start past job)
    (follows : Follows start id index step node invoked simulation past job)
    (changes : simulation.Changes key serial attempt action after) (different : key ≠ (id, index))
    (holder : ∀ pending, simulation.attempts.get? (id, index) = some pending →
      pending.action ≠ serial)
    (place : ∀ performed, action = some performed → performed.key = key)
    (carries : Carries id index simulation.engine after.engine) :
    ∃ past job, Follows start id index step node invoked after past job := by
  apply follows.carried wellFormed sound carries (changes.otherAttempts _ different.symm)
  · intro pending found
    simp only [awaitedNumbers, invocation?, changes.otherActions _ (holder pending found)]
  · intro other performed found own
    rcases changes.action_cases found with ⟨-, new⟩ | ⟨-, old⟩
    · exact absurd ((place performed new).symm.trans own) different
    · exact follows.awaited other performed old own

/-- The attempt of the step goes on, and no invocation is lost. -/
theorem Follows.goesOn {serial : Nat} {pending later : PendingAttempt}
    {action : Option PendingAction} {longer : List PendingAction}
    (follows : Follows start id index step node invoked simulation past job)
    (busy : simulation.attempts.get? (id, index) = some pending)
    (changes : simulation.Changes (id, index) serial (some later) action after)
    (before : pending.action = serial) (now : later.action = serial)
    (engine : after.engine = simulation.engine)
    (tallies : invokedNumbers (id, index) longer ++ after.awaitedNumbers serial =
      invokedNumbers (id, index) invoked ++ simulation.awaitedNumbers serial)
    (performed : ∀ action ∈ longer, action.key = (id, index) → Performs action step node)
    (awaited : ∀ performed, action = some performed → performed.key = (id, index) →
      Performs performed step node) :
    Follows start id index step node longer after past job := by
  refine ⟨follows.course, follows.staffed, engine ▸ follows.held, ?_, ?_, performed, ?_⟩
  · intro none
    cases none.symm.trans changes.attempted
  · intro current found
    obtain rfl := Option.some.inj (changes.attempted.symm.trans found)
    obtain ⟨task, own, attempting, due⟩ := follows.busy pending busy
    refine ⟨task, own, attempting, ?_⟩
    rw [now, tallies, ← before]
    exact due
  · intro other current found owns
    rcases changes.action_cases found with ⟨-, new⟩ | ⟨-, old⟩
    · exact awaited current new owns
    · exact follows.awaited other current old owns

/-- The step has taken the outcome of its attempt. -/
theorem Follows.attempted {serial : Nat} {task : StepTask}
    {pending : PendingAttempt} {now : Moment} {outcome : AttemptOutcome}
    (follows : Follows start id index step node invoked simulation past job)
    (present : simulation.engine.jobs.get? id = some job) (own : job.task? index = some task)
    (attempting : task.phase = .attempting)
    (busy : simulation.attempts.get? (id, index) = some pending)
    (unawaited : 0 < step.timeoutMs → simulation.awaitedNumbers pending.action = [])
    (changes : simulation.Changes (id, index) serial none none after)
    (engine : after.engine =
      (simulation.engine.advance now id (.attemptEnded index outcome)).1) :
    ∃ past job, Follows start id index step node invoked after past job := by
  obtain ⟨current, same, -, tallies⟩ := follows.busy pending busy
  obtain rfl : current = task := Option.some.inj (same.symm.trans own)
  have staffed : Job.Staffed (past ++ [⟨job, now, .attemptEnded index outcome⟩]) :=
    Job.staffed_concat.mpr ⟨follows.staffed, fun _ _ lacks => by cases lacks⟩
  refine ⟨_, _, follows.course.next now (.attemptEnded index outcome), staffed, .inl ?_,
    fun _ => ?_, ?_, follows.performed, ?_⟩
  · rw [engine, (Engine.advance_moves present now _).2.jobs, Table.getInsertSame]
  · rw [Job.attemptNumbers_attempted own attempting]
    exact tallies.without unawaited
  · intro pending found
    cases changes.attempted.symm.trans found
  · intro other performed found
    rcases changes.action_cases found with ⟨-, none⟩ | ⟨-, old⟩
    · cases none
    · exact follows.awaited other performed old

/-- The action of a pending attempt belongs to the step of the attempt. -/
theorem Orderly.performed {line : List TaskName} {key : Uuid × Nat} {pending : PendingAttempt}
    {action : PendingAction} (orderly : simulation.Orderly line)
    (busy : simulation.attempts.get? key = some pending)
    (found : simulation.actions.get? pending.action = some action) :
    action.key = key ∧ pending.result = none := by
  obtain ⟨current, holds, same, unended⟩ := orderly.owned _ action found
  have place := (orderly.holder busy _ current holds).mp same
  rw [place, busy] at holds
  cases holds
  exact ⟨place, unended⟩

/-- The moves of the task of another step are followed. -/
theorem StepMove.followed_elsewhere {other : Uuid} {position : Nat} {moved : Job}
    {place : PlanStep} {task : StepTask}
    (move : simulation.StepMove other position moved place task after)
    (wellFormed : start.run.plan.WellFormed) (sound : Job.Sound start past job)
    (orderly : simulation.Orderly (.step other position :: simulation.queue))
    (follows : Follows start id index step node invoked simulation past job)
    (present : simulation.engine.jobs.get? other = some moved)
    (there : moved.run.plan.steps[position]? = some place)
    (different : (other, position) ≠ (id, index)) :
    ∃ past job, Follows start id index step node invoked after past job := by
  have apart (same : other = id) : position ≠ index := fun also => different (by rw [same, also])
  have rival {pending rival : PendingAttempt}
      (busy : simulation.attempts.get? (other, position) = some pending)
      (found : simulation.attempts.get? (id, index) = some rival) :
      rival.action ≠ pending.action := fun same =>
    different ((orderly.holder busy _ rival found).mp same).symm
  have ends {outcome : AttemptOutcome} (engine : ∃ now, after.engine =
      (simulation.engine.advance now other (.attemptEnded position outcome)).1) :
      Carries id index simulation.engine after.engine := by
    obtain ⟨now, engine⟩ := engine
    rw [engine]
    exact advance_carries _ now other _ apart fun _ _ _ _ same => by cases same
  cases move with
  | putOff _ _ _ same | handsIn _ same => exact follows.same wellFormed sound same
  | handsOver _ idle _ changes engine =>
    refine follows.elsewhere wellFormed sound changes different ?_ ?_ (.leaves (by rw [engine]))
    · intro pending found
      exact Nat.ne_of_lt (orderly.assigned _ pending found)
    · rintro performed ⟨rfl⟩
      rfl
  | lacks _ _ unknown advanced =>
    refine follows.advanced wellFormed sound advanced apart ?_
    rintro current lacking lacked found ⟨rfl⟩ known
    obtain rfl : current = moved := Option.some.inj (found.symm.trans present)
    obtain rfl : lacked = place := Option.some.inj (known.symm.trans there)
    exact unknown
  | watches _ busy _ _ changes engine =>
    exact follows.elsewhere wellFormed sound changes different (fun _ => rival busy)
      (fun _ found => (orderly.performed busy found).1) (.leaves (by rw [engine]))
  | takesResult _ busy _ changes engine =>
    exact follows.elsewhere wellFormed sound changes different (fun _ => rival busy)
      (fun _ found => (orderly.performed busy found).1) (ends engine)
  | cutsOff _ busy _ _ changes engine =>
    exact follows.elsewhere wellFormed sound changes different (fun _ => rival busy)
      (fun _ none => by cases none) (ends engine)
  | pauses _ _ pause => exact follows.paused wellFormed sound pause
  | interrupted _ _ advanced =>
    exact follows.advanced wellFormed sound advanced (fun _ => trivial)
      fun _ _ _ _ same => by cases same

theorem invocation_of {serial : Nat} {action : PendingAction}
    (found : simulation.actions.get? serial = some action) :
    simulation.invocation? (.action serial) = if action.paused then none else some action := by
  cases paused : action.paused <;> simp [invocation?, found, paused]

theorem awaitedNumbers_of {serial : Nat} {action : PendingAction}
    (found : simulation.actions.get? serial = some action) (unpaused : action.paused = false) :
    simulation.awaitedNumbers serial = [action.call.attempt.toNat] := by
  simp [awaitedNumbers, invocation_of found, unpaused]

theorem awaitedNumbers_nil {serial : Nat}
    (invoked : ∀ action, simulation.actions.get? serial = some action → action.paused = true) :
    simulation.awaitedNumbers serial = [] := by
  cases found : simulation.actions.get? serial with
  | none => simp [awaitedNumbers, invocation?, found]
  | some action => simp [awaitedNumbers, invocation_of found, invoked action found]

/-- The step has handed over the action of its next attempt. -/
theorem Follows.begins {serial : Nat} {task : StepTask}
    {pending : PendingAttempt} {action : PendingAction}
    (follows : Follows start id index step node invoked simulation past job)
    (own : job.task? index = some task) (attempting : task.phase = .attempting)
    (idle : simulation.attempts.get? (id, index) = none)
    (changes : simulation.Changes (id, index) serial (some pending) (some action) after)
    (now : pending.action = serial) (engine : after.engine = simulation.engine)
    (unpaused : action.paused = false) (number : action.call.attempt = task.attempt)
    (performs : Performs action step node) :
    Follows start id index step node invoked after past job := by
  refine ⟨follows.course, follows.staffed, engine ▸ follows.held, ?_, ?_, follows.performed, ?_⟩
  · intro none
    cases none.symm.trans changes.attempted
  · intro current found
    obtain rfl := Option.some.inj (changes.attempted.symm.trans found)
    refine ⟨task, own, attempting, ?_⟩
    rw [now, awaitedNumbers_of changes.acted unpaused, number]
    exact (follows.idle idle).append _
  · intro other current found owns
    rcases changes.action_cases found with ⟨-, new⟩ | ⟨-, old⟩
    · exact Option.some.inj new ▸ performs
    · exact follows.awaited other current old owns

/-- The moves of the task of the step itself are followed. -/
theorem StepMove.followed_own {task : StepTask} {place : PlanStep}
    (move : simulation.StepMove id index job place task after)
    (wellFormed : start.run.plan.WellFormed) (sound : Job.Sound start past job)
    (orderly : simulation.Orderly (.step id index :: simulation.queue))
    (follows : Follows start id index step node invoked simulation past job)
    (present : simulation.engine.jobs.get? id = some job) (own : job.task? index = some task)
    (known : job.executor.catalog.get? step.nodeType = some node) (same : place = step) :
    ∃ past job, Follows start id index step node invoked after past job := by
  subst same
  cases move with
  | putOff _ _ _ same | handsIn _ same => exact follows.same wellFormed sound same
  | lacks _ _ unknown => cases unknown.symm.trans known
  | pauses _ _ pause => exact follows.paused wellFormed sound pause
  | interrupted _ _ advanced =>
    exact follows.advanced wellFormed sound advanced (fun _ => trivial)
      fun _ _ _ _ same => by cases same
  | @handsOver given attempting idle there changes engine =>
    obtain rfl : given = node := Option.some.inj (there.symm.trans known)
    have performs : Performs (handedOver id index job place task given) place given :=
      ⟨rfl, rfl, rfl, rfl⟩
    exact ⟨past, job, follows.begins own attempting idle changes rfl engine rfl rfl performs⟩
  | @watches pending _ busy unended early changes engine =>
    refine ⟨past, job, follows.goesOn busy changes rfl rfl engine ?_ follows.performed ?_⟩
    · simp only [awaitedNumbers, invocation?, changes.acted]
    · exact fun performed found => follows.awaited _ performed found
  | @takesResult pending result attempting busy ended changes engine =>
    obtain ⟨now, engine⟩ := engine
    -- the action of an attempt with a result is gone
    have gone : simulation.actions.get? pending.action = none := by
      cases found : simulation.actions.get? pending.action with
      | none => rfl
      | some action => cases ended.symm.trans (orderly.performed busy found).2
    rw [gone] at changes
    refine follows.attempted present own attempting busy (fun _ => ?_) changes engine
    exact awaitedNumbers_nil fun action found => by cases gone.symm.trans found
  | @cutsOff pending attempting busy unended due changes engine =>
    obtain ⟨now, engine⟩ := engine
    refine follows.attempted present own attempting busy (fun long => ?_) changes engine
    -- an action that stands in line has time left
    refine awaitedNumbers_nil fun action found => ?_
    obtain ⟨place, -⟩ := orderly.performed busy found
    by_contra unpaused
    have time := (follows.awaited _ action found place).timeoutMs ▸ long
    have early := orderly.early _ action pending found (by simpa using unpaused)
      (place ▸ busy) time
    omega

theorem Follows.invokes (follows : Follows start id index step node invoked simulation past job)
    {action : PendingAction} (other : action.key ≠ (id, index)) :
    Follows start id index step node (invoked ++ [action]) simulation past job := by
  have same : invokedNumbers (id, index) (invoked ++ [action]) =
      invokedNumbers (id, index) invoked := by
    rw [invokedNumbers_concat, if_neg other, List.append_nil]
  refine { follows with idle := same ▸ follows.idle, busy := same ▸ follows.busy, performed := ?_ }
  intro performed member own
  rcases List.mem_append.mp member with old | new
  · exact follows.performed performed old own
  · rw [List.mem_singleton.mp new] at own
    exact absurd own other

/-- What an action does is followed. It is invoked unless it has paused already. -/
theorem Follows.acts {serial : Nat} {action : PendingAction} {left : Option PendingAction}
    {change : PendingAttempt → PendingAttempt} (wellFormed : start.run.plan.WellFormed)
    (sound : Job.Sound start past job)
    (orderly : simulation.Orderly (.action serial :: simulation.queue))
    (follows : Follows start id index step node invoked simulation past job)
    (found : simulation.actions.get? serial = some action)
    (changes : simulation.Changes action.key serial
      ((simulation.attempts.get? action.key).map change) left after)
    (keeps : ∀ pending, (change pending).action = pending.action)
    (engine : after.engine = simulation.engine)
    (rest : left = none ∨ left = some { action with paused := true }) :
    ∃ past job, Follows start id index step node
      (invoked ++ (simulation.invocation? (.action serial)).toList) after past job := by
  have place : ∀ performed, left = some performed → performed.key = action.key := by
    rintro performed rfl
    rcases rest with none | some
    · cases none
    · cases some
      rfl
  have done : after.awaitedNumbers serial = [] := by
    refine awaitedNumbers_nil fun performed there => ?_
    rcases rest with none | some
    · cases (changes.acted.trans none).symm.trans there
    · cases (changes.acted.trans some).symm.trans there
      rfl
  by_cases own : action.key = (id, index)
  · have performs := follows.awaited serial action found own
    obtain ⟨pending, busy, same, -⟩ := orderly.owned serial action found
    rw [own] at busy changes
    rw [busy, Option.map_some] at changes
    refine ⟨past, job, follows.goesOn busy changes same ((keeps pending).trans same) engine
      ?_ ?_ ?_⟩
    · rw [done, awaitedNumbers, invocation_of found]
      cases action.paused <;> simp [invokedNumbers, own]
    · intro performed member owns
      rcases List.mem_append.mp member with old | new
      · exact follows.performed performed old owns
      · rw [invocation_of found] at new
        cases paused : action.paused <;> simp [paused] at new
        exact new ▸ performs
    · rintro performed rfl owns
      rcases rest with none | some
      · cases none
      · cases some
        exact ⟨performs.node, performs.nodeId, performs.parameters, performs.timeoutMs⟩
  · have rival (pending : PendingAttempt)
        (busy : simulation.attempts.get? (id, index) = some pending) : pending.action ≠ serial := by
      rintro rfl
      exact own (orderly.performed busy found).1
    obtain ⟨past, job, follows⟩ := follows.elsewhere wellFormed sound changes own rival place
      (.leaves (by rw [engine]))
    refine ⟨past, job, ?_⟩
    rw [invocation_of found]
    cases action.paused with
    | true => simpa using follows
    | false => exact follows.invokes own

theorem ActionMove.followed {serial : Nat} (move : simulation.ActionMove serial after)
    (wellFormed : start.run.plan.WellFormed) (sound : Job.Sound start past job)
    (orderly : simulation.Orderly (.action serial :: simulation.queue))
    (follows : Follows start id index step node invoked simulation past job) :
    ∃ past job, Follows start id index step node
      (invoked ++ (simulation.invocation? (.action serial)).toList) after past job := by
  cases move with
  | rests idle =>
    have quiet : simulation.invocation? (.action serial) = none := by
      simpa [invocation?, Option.filter_eq_none_iff] using idle
    rw [quiet, Option.toList_none, List.append_nil]
    exact ⟨past, job, follows⟩
  | ends found _ _ delivers | wakes found _ _ _ _ delivers =>
    exact follows.acts wellFormed sound orderly found delivers.changes (fun _ => rfl)
      delivers.engine (.inl rfl)
  | @pauses _ action _ found _ _ changes engine =>
    have same : simulation.attempts.get? action.key =
        (simulation.attempts.get? action.key).map fun pending => pending := Option.map_id'.symm
    rw [same] at changes
    exact follows.acts wellFormed sound orderly found changes (fun _ => rfl) engine (.inr rfl)

theorem Follows.alike (follows : Follows start id index step node invoked simulation past job)
    (attempts : after.attempts = simulation.attempts) (actions : after.actions = simulation.actions)
    (engine : after.engine = simulation.engine) :
    Follows start id index step node invoked after past job := by
  obtain ⟨course, staffed, held, idle, busy, performed, awaited⟩ := follows
  refine ⟨course, staffed, engine ▸ held, attempts ▸ idle, ?_, performed, actions ▸ awaited⟩
  intro pending found
  simp only [awaitedNumbers, invocation?, actions]
  exact busy pending (attempts ▸ found)

variable [ExecutionStore S]

theorem Follows.move (wellFormed : start.run.plan.WellFormed) (sound : Job.Sound start past job)
    (found : job.run.plan.steps[index]? = some step)
    (known : job.executor.catalog.get? step.nodeType = some node) {name : TaskName}
    (orderly : simulation.Orderly (name :: simulation.queue))
    (follows : Follows start id index step node invoked simulation past job) :
    ∃ past job, Follows start id index step node
      (invoked ++ (simulation.invocation? name).toList) (simulation.move name).simulation
        past job := by
  cases name with
  | run other =>
    have move := moveRun_move simulation other
    obtain ⟨past, job, follows⟩ :=
      follows.undisturbed wellFormed sound move.undisturbed move.carries
    exact ⟨past, job, (List.append_nil invoked).symm ▸ follows⟩
  | caller => exact ⟨past, job, (List.append_nil invoked).symm ▸ follows⟩
  | action serial =>
    exact (moveAction_move simulation serial).followed wellFormed sound orderly follows
  | step other position =>
    have followed : ∃ past job, Follows start id index step node invoked
        (simulation.moveStep other position).simulation past job := by
      rcases simulation.moveStep_cases other position with
        rests | ⟨moved, place, task, present, own, there, move⟩
      · exact ⟨past, job, rests.symm ▸ follows⟩
      · by_cases same : (other, position) = (id, index)
        · cases same
          obtain rfl : moved = job := by
            rcases follows.held with held | ⟨absent, -⟩
            · exact Option.some.inj (present.symm.trans held)
            · cases absent.symm.trans present
          exact move.followed_own wellFormed sound orderly follows present own known
            (Option.some.inj (there.symm.trans found))
        · exact move.followed_elsewhere wellFormed sound orderly follows present there same
    obtain ⟨past, job, follows⟩ := followed
    exact ⟨past, job, (List.append_nil invoked).symm ▸ follows⟩

end

/-- Every course of a simulation is followed by a course of each job in it. -/
theorem Course.follows [ExecutionStore S] {plan : Plan} (wellFormed : plan.WellFormed)
    {executor : Executor} {infraRetry : RetryPolicy} {timeoutMs : Nat} {id tenantId : Uuid}
    {triggerInput : Json} {index : Nat} {step : PlanStep} {node : Node}
    (found : plan.steps[index]? = some step)
    (known : executor.catalog.get? step.nodeType = some node) {first simulation : Simulation S}
    {invoked : List PendingAction} {turn : Option TaskName}
    (course : Course id first invoked turn simulation) (orderly : first.Orderly first.queue)
    (begun : first.engine.jobs.get? id = some (Job.prepare executor plan infraRetry timeoutMs
      (.pending plan id tenantId triggerInput)))
    (fresh : first.attempts.get? (id, index) = none) :
    ∃ past job, Follows (Job.prepare executor plan infraRetry timeoutMs
      (.pending plan id tenantId triggerInput)) id index step node invoked simulation past job := by
  -- `first` has no attempt of the step, so that nothing is due before the first move
  induction course with
  | start =>
    refine ⟨[], _, .start, by simp [Job.Staffed], .inl begun, ?_, ?_, by simp, ?_⟩
    · exact fun _ => ⟨List.Sublist.refl _, fun _ => rfl⟩
    · intro pending busy
      cases fresh.symm.trans busy
    · intro serial action there own
      obtain ⟨pending, busy, -⟩ := orderly.owned serial action there
      rw [own, fresh] at busy
      cases busy
  | takes course queued inductionHypothesis =>
    obtain ⟨past, job, follows⟩ := inductionHypothesis
    exact ⟨past, job, follows.alike rfl rfl rfl⟩
  | passes course idle passed inductionHypothesis =>
    obtain ⟨past, job, follows⟩ := inductionHypothesis
    obtain ⟨ticks, same⟩ := passTime_keeps passed
    exact ⟨past, job, follows.alike same.attempts same.actions same.engine⟩
  | prepares course same inductionHypothesis =>
    obtain ⟨past, job, follows⟩ := inductionHypothesis
    exact ⟨past, job, follows.alike same.attempts same.actions same.engine⟩
  | @calls invoked simulation A course request spares inductionHypothesis =>
    obtain ⟨past, job, follows⟩ := inductionHypothesis
    obtain ⟨undisturbed, engine⟩ := call_undisturbed simulation request
    exact follows.undisturbed wellFormed (follows.course.sound wellFormed) undisturbed
      (engine ▸ spares.carries)
  | moves course inductionHypothesis =>
    obtain ⟨past, job, follows⟩ := inductionHypothesis
    have sound := follows.course.sound wellFormed
    exact follows.move wellFormed sound (sound.plan ▸ found)
      (follows.course.executor ▸ known) (course.orderly orderly)

end Simulation

end WorkflowEngine
