/-
This file holds the courses of a simulation. It proves that in every one of them an action belongs
to a pending attempt and has its turn before the clock goes on.
-/

import WorkflowEngine.Proofs.Simulation.TaskMoves
import WorkflowEngine.Simulation.Clock

namespace WorkflowEngine.Simulation

variable {S : Type}

def invocation? (simulation : Simulation S) : TaskName → Option PendingAction
  | .action serial => (simulation.actions.get? serial).filter fun action => !action.paused
  | _ => none

/-- The job of an execution is left alone, or its cancellation is requested. -/
inductive Spares (id : Uuid) (before after : Engine S) : Prop where
  | leaves (jobs : after.jobs.get? id = before.jobs.get? id)
  | cancels (now : Moment) (jobs : after.jobs.get? id =
      (before.jobs.get? id).map fun job => (job.advance now .cancelRequested).1)

/-- Between the turns the caller does what spares one execution. -/
inductive Course [ExecutionStore S] (id : Uuid) (first : Simulation S) :
    List PendingAction → Option TaskName → Simulation S → Prop where
  | start : Course id first [] none first
  | takes {invoked : List PendingAction} {simulation : Simulation S} {name : TaskName}
    {rest : List TaskName} (course : Course id first invoked none simulation)
    (queued : simulation.queue = name :: rest) :
    Course id first invoked (some name) { simulation with queue := rest, credit := creditPerTurn }
  | moves {invoked : List PendingAction} {simulation : Simulation S} {name : TaskName}
    (course : Course id first invoked (some name) simulation) :
    Course id first (invoked ++ (simulation.invocation? name).toList)
      (if (simulation.move name).goesOn then some name else none) (simulation.move name).simulation
  | passes {invoked : List PendingAction} {simulation after : Simulation S}
    (course : Course id first invoked none simulation) (idle : simulation.queue = [])
    (passed : simulation.passTime? = some after) : Course id first invoked none after
  | prepares {invoked : List PendingAction} {simulation after : Simulation S}
    (course : Course id first invoked none simulation) (same : simulation.SameWork after) :
    Course id first invoked none after
  | calls {invoked : List PendingAction} {simulation : Simulation S} {A : Type}
    (course : Course id first invoked none simulation) (request : Engine S → A × Engine S)
    (spares : Spares id simulation.engine (request simulation.engine).2) :
    Course id first invoked none (simulation.call request).2

theorem wakeDeferred_same (simulation : Simulation S) :
    simulation.SameWork simulation.wakeDeferred := by
  have emptied : simulation.SameWork { simulation with deferred := [] } :=
    ⟨⟨rfl, rfl, rfl, rfl, List.Subset.refl _⟩, rfl⟩
  refine emptied.trans (.foldl (fun between name => ?_) _ _)
  split
  · exact .refl between
  · exact wake_same between name

theorem settle_same (simulation : Simulation S) : simulation.SameWork simulation.settle := by
  refine .foldl (fun between entry => ?_) _ _
  split
  · have woken := wake_same between (.run entry.1)
    exact ⟨⟨woken.attempts, woken.actions, woken.actionsStarted, woken.ticks, woken.queue⟩,
      woken.engine⟩
  · exact stir_same between entry.1

/-- A call changes the engine, and no attempt is disturbed. -/
theorem call_undisturbed {A : Type} (simulation : Simulation S)
    (request : Engine S → A × Engine S) :
    simulation.Undisturbed (simulation.call request).2 ∧
      (simulation.call request).2.engine = (request simulation.engine).2 := by
  have settled := settle_same { simulation.read with engine := (request simulation.engine).2 }
  exact ⟨⟨settled.attempts, settled.actions, settled.actionsStarted, settled.ticks,
    settled.queue⟩, settled.engine⟩

/-- When the clock goes on, tasks wake and nothing else happens. -/
theorem passTime_keeps {simulation after : Simulation S}
    (passed : simulation.passTime? = some after) :
    ∃ ticks, { simulation with ticks := ticks }.SameWork after := by
  unfold passTime? at passed
  split at passed
  · cases passed
  · next first rest timers =>
    dsimp only at passed
    cases passed
    refine ⟨max simulation.ticks first.due, SameWork.trans ?_ (.foldl ?_ _ _)⟩
    · exact ⟨⟨rfl, rfl, rfl, rfl, List.Subset.refl _⟩, rfl⟩
    · intro between timer
      split
      · exact .refl between
      · exact wake_same between timer.name

/-- The loop that gives the tasks their turns goes on with a course. -/
theorem Course.runTasks [ExecutionStore S] {id : Uuid} {first : Simulation S} (goal : Goal)
    (fuel : Nat) {turns : Nat} {invoked : List PendingAction} {turn : Option TaskName}
    {simulation : Simulation S} (course : Course id first invoked turn simulation) :
    ∃ later next, Course id first later next
      (Simulation.runTasks goal fuel turns turn simulation) := by
  induction fuel generalizing turns invoked turn simulation with
  | zero => exact ⟨invoked, turn, course⟩
  | succ fuel inductionHypothesis =>
    cases turn with
    | some name => exact inductionHypothesis course.moves
    | none =>
      have woken := course.prepares (wakeDeferred_same simulation)
      cases turns with
      | zero =>
        rw [Simulation.runTasks]
        split
        · exact ⟨_, _, woken⟩
        · exact inductionHypothesis woken
      | succ turns =>
        rw [Simulation.runTasks]
        split
        · next name rest queued => exact inductionHypothesis (course.takes queued)
        · next empty =>
          dsimp only
          split
          · exact ⟨_, _, woken⟩
          · split
            · exact inductionHypothesis woken
            · next idle =>
              split
              · exact ⟨_, _, woken⟩
              · next after passed =>
                -- no task was deferred, so that the queue is still empty
                have deferred : simulation.deferred = [] := by simpa using idle
                have queue : simulation.wakeDeferred.queue = [] := by
                  simp only [wakeDeferred, deferred, List.foldl_nil, empty]
                have later := woken.passes queue passed
                split
                · exact ⟨_, _, later⟩
                · exact inductionHypothesis later

/-- The invocations of so many moves are collected. -/
def play [ExecutionStore S] : Nat → List PendingAction × Option TaskName × Simulation S →
    List PendingAction × Option TaskName × Simulation S
  | 0, played => played
  | moves + 1, (invoked, some name, simulation) =>
    play moves (invoked ++ (simulation.invocation? name).toList,
      if (simulation.move name).goesOn then some name else none, (simulation.move name).simulation)
  | moves + 1, (invoked, none, simulation) =>
    match simulation.queue, simulation.passTime? with
    | name :: rest, _ =>
      play moves (invoked, some name, { simulation with queue := rest, credit := creditPerTurn })
    | [], some after => play moves (invoked, none, after)
    | [], none => (invoked, none, simulation)

theorem Course.play [ExecutionStore S] {id : Uuid} {first : Simulation S} (moves : Nat)
    {played : List PendingAction × Option TaskName × Simulation S}
    (course : Course id first played.1 played.2.1 played.2.2) :
    Course id first (Simulation.play moves played).1 (Simulation.play moves played).2.1
      (Simulation.play moves played).2.2 := by
  induction moves generalizing played with
  | zero => exact course
  | succ moves inductionHypothesis =>
    obtain ⟨invoked, turn, simulation⟩ := played
    cases turn with
    | some name => exact inductionHypothesis course.moves
    | none =>
      rw [Simulation.play]
      split
      · next name rest queued => exact inductionHypothesis (course.takes queued)
      · next after queue passed => exact inductionHypothesis (course.passes queue passed)
      · exact course

/-- An action that was not yet invoked stands in the line before its time is over. -/
structure Orderly (line : List TaskName) (simulation : Simulation S) : Prop where
  assigned : ∀ key pending, simulation.attempts.get? key = some pending →
    pending.action < simulation.actionsStarted
  distinct : ∀ key other pending rival, simulation.attempts.get? key = some pending →
    simulation.attempts.get? other = some rival → rival.action = pending.action → other = key
  owned : ∀ serial action, simulation.actions.get? serial = some action →
    ∃ pending, simulation.attempts.get? action.key = some pending ∧ pending.action = serial ∧
      pending.result = none
  lined : ∀ serial action, simulation.actions.get? serial = some action →
    action.paused = false → .action serial ∈ line
  early : ∀ serial action pending, simulation.actions.get? serial = some action →
    action.paused = false → simulation.attempts.get? action.key = some pending →
      0 < action.call.timeoutMs → simulation.ticks < pending.due

section

variable {before after simulation : Simulation S} {line : List TaskName} {name : TaskName}

theorem Orderly.mono {longer : List TaskName} (orderly : simulation.Orderly line)
    (sublist : line ⊆ longer) : simulation.Orderly longer :=
  { orderly with
    lined := fun serial action found unpaused =>
      sublist (orderly.lined serial action found unpaused) }

/-- If nothing is disturbed, a task that invokes no action may leave the line. -/
theorem Orderly.undisturbed (orderly : before.Orderly (name :: before.queue))
    (undisturbed : before.Undisturbed after) (quiet : before.invocation? name = none) :
    after.Orderly after.queue := by
  obtain ⟨attempts, actions, actionsStarted, ticks, queue⟩ := undisturbed
  constructor
  · rw [attempts, actionsStarted]
    exact orderly.assigned
  · rw [attempts]
    exact orderly.distinct
  · rw [attempts, actions]
    exact orderly.owned
  · rw [actions]
    intro serial action found unpaused
    rcases List.mem_cons.mp (orderly.lined serial action found unpaused) with same | queued
    · rw [← same] at quiet
      simp [invocation?, found, unpaused] at quiet
    · exact queue queued
  · rw [attempts, actions, ticks]
    exact orderly.early

/-- An attempt and its action may change together. -/
theorem Orderly.changes {key : Uuid × Nat} {serial : Nat} {attempt : Option PendingAttempt}
    {action : Option PendingAction} (orderly : before.Orderly (name :: before.queue))
    (changes : before.Changes key serial attempt action after)
    (elsewhere : ∀ other, name = .action other → other = serial)
    (started : before.actionsStarted ≤ after.actionsStarted)
    (holder : ∀ other pending, before.attempts.get? other = some pending →
      (pending.action = serial ↔ other = key))
    (assigned : ∀ pending, attempt = some pending →
      pending.action = serial ∧ serial < after.actionsStarted)
    (owned : ∀ performed, action = some performed → performed.key = key ∧
      ∃ pending, attempt = some pending ∧ pending.result = none ∧
        (performed.paused = false → .action serial ∈ after.queue ∧
          (0 < performed.call.timeoutMs → after.ticks < pending.due))) :
    after.Orderly after.queue := by
  -- what belonged to another attempt before does so still
  have apart {other : Nat} {performed : PendingAction}
      (found : before.actions.get? other = some performed) (different : other ≠ serial) :
      performed.key ≠ key := by
    obtain ⟨pending, holds, same, -⟩ := orderly.owned other performed found
    exact fun equal => different (same ▸ (holder _ pending holds).mpr equal)
  constructor
  · intro other pending found
    rcases changes.attempt_cases found with ⟨-, own⟩ | ⟨-, old⟩
    · obtain ⟨holds, less⟩ := assigned pending own
      exact holds ▸ less
    · exact Nat.lt_of_lt_of_le (orderly.assigned other pending old) started
  · intro one other pending rival found again equal
    rcases changes.attempt_cases found with ⟨same, own⟩ | ⟨different, old⟩
    · rcases changes.attempt_cases again with ⟨also, -⟩ | ⟨distinct, former⟩
      · rw [same, also]
      · obtain ⟨holds, -⟩ := assigned pending own
        exact absurd ((holder other rival former).mp (equal.trans holds)) distinct
    · rcases changes.attempt_cases again with ⟨-, own⟩ | ⟨-, former⟩
      · obtain ⟨holds, -⟩ := assigned rival own
        exact absurd ((holder one pending old).mp (equal.symm.trans holds)) different
      · exact orderly.distinct one other pending rival old former equal
  · intro other performed found
    rcases changes.action_cases found with ⟨rfl, own⟩ | ⟨different, old⟩
    · obtain ⟨place, pending, holds, unended, -⟩ := owned performed own
      exact ⟨pending, by rw [place, changes.attempted, holds], (assigned pending holds).1, unended⟩
    · rw [changes.otherAttempts _ (apart old different)]
      exact orderly.owned other performed old
  · intro other performed found unpaused
    rcases changes.action_cases found with ⟨rfl, own⟩ | ⟨different, old⟩
    · obtain ⟨-, pending, -, -, ready⟩ := owned performed own
      exact (ready unpaused).1
    · rcases List.mem_cons.mp (orderly.lined other performed old unpaused) with turn | queued
      · exact absurd (elsewhere other turn.symm) different
      · exact changes.queue queued
  · intro other performed pending found unpaused holds long
    rcases changes.action_cases found with ⟨rfl, own⟩ | ⟨different, old⟩
    · obtain ⟨place, current, held, -, ready⟩ := owned performed own
      rw [place, changes.attempted, held] at holds
      cases holds
      exact (ready unpaused).2 long
    · rw [changes.otherAttempts _ (apart old different)] at holds
      rw [changes.ticks]
      exact orderly.early other performed pending old unpaused holds long

/-- The serial number of a pending attempt is that of no other attempt. -/
theorem Orderly.holder (orderly : before.Orderly line) {key : Uuid × Nat}
    {pending : PendingAttempt} (busy : before.attempts.get? key = some pending)
    (other : Uuid × Nat) (rival : PendingAttempt)
    (found : before.attempts.get? other = some rival) :
    rival.action = pending.action ↔ other = key := by
  constructor
  · exact orderly.distinct key other pending rival busy found
  · rintro rfl
    cases busy.symm.trans found
    rfl

theorem StepMove.orderly {id : Uuid} {index : Nat} {job : Job} {step : PlanStep} {task : StepTask}
    (move : before.StepMove id index job step task after)
    (orderly : before.Orderly (.step id index :: before.queue)) : after.Orderly after.queue := by
  cases move with
  | putOff _ _ _ same | handsIn _ same => exact orderly.undisturbed same.toUndisturbed rfl
  | lacks _ _ _ advanced | interrupted _ _ advanced =>
    exact orderly.undisturbed advanced.toUndisturbed rfl
  | pauses _ _ pause =>
    cases pause with
    | putOff _ same | fallsAsleep _ _ same => exact orderly.undisturbed same.toUndisturbed rfl
    | sleepsOn => exact orderly.undisturbed (SameWork.refl before).toUndisturbed rfl
    | wakes _ _ advanced | skips _ _ advanced =>
      exact orderly.undisturbed advanced.toUndisturbed rfl
  | handsOver _ idle _ changes _ started queued =>
    refine orderly.changes changes nofun (by omega) ?_ ?_ ?_
    · intro other pending found
      constructor
      · intro same
        exact absurd (orderly.assigned other pending found) (by omega)
      · rintro rfl
        cases idle.symm.trans found
    · rintro pending ⟨rfl⟩
      exact ⟨rfl, by omega⟩
    · rintro performed ⟨rfl⟩
      refine ⟨rfl, _, rfl, rfl, fun _ => ⟨queued, fun long => ?_⟩⟩
      rw [changes.ticks]
      exact Nat.lt_add_of_pos_right long
  | @watches pending _ busy unended _ changes _ started =>
    refine orderly.changes changes nofun (by omega) (orderly.holder busy) ?_ ?_
    · rintro other ⟨rfl⟩
      exact ⟨rfl, started ▸ orderly.assigned _ pending busy⟩
    · intro performed found
      obtain ⟨current, holds, same, -⟩ := orderly.owned _ performed found
      have place := (orderly.holder busy _ current holds).mp same
      refine ⟨place, _, rfl, unended, fun unpaused => ⟨changes.queue ?_, fun long => ?_⟩⟩
      · exact (List.mem_cons.mp (orderly.lined _ performed found unpaused)).resolve_left nofun
      · rw [changes.ticks]
        exact orderly.early _ performed pending found unpaused (place ▸ busy) long
  | @takesResult pending result _ busy ended changes _ started =>
    refine orderly.changes changes nofun (by omega) (orderly.holder busy) nofun ?_
    intro performed found
    -- the action of an attempt with a result is gone
    obtain ⟨current, holds, same, unended⟩ := orderly.owned _ performed found
    rw [(orderly.holder busy _ current holds).mp same, busy] at holds
    cases holds
    cases unended.symm.trans ended
  | cutsOff _ busy _ _ changes _ started =>
    exact orderly.changes changes nofun (by omega) (orderly.holder busy) nofun nofun

theorem Delivers.orderly {serial : Nat} {action : PendingAction} {result : ActionResult}
    (delivers : before.Delivers serial action result after)
    (found : before.actions.get? serial = some action)
    (orderly : before.Orderly (.action serial :: before.queue)) : after.Orderly after.queue := by
  obtain ⟨changes, -, started⟩ := delivers
  obtain ⟨pending, busy, rfl, -⟩ := orderly.owned serial action found
  rw [busy] at changes
  refine orderly.changes changes (by simp) (by omega) (orderly.holder busy) ?_ nofun
  rintro other ⟨rfl⟩
  exact ⟨rfl, started ▸ orderly.assigned _ pending busy⟩

theorem ActionMove.orderly {serial : Nat} (move : before.ActionMove serial after)
    (orderly : before.Orderly (.action serial :: before.queue)) : after.Orderly after.queue := by
  cases move with
  | rests idle =>
    refine orderly.undisturbed (SameWork.refl before).toUndisturbed ?_
    simpa [invocation?, Option.filter_eq_none_iff] using idle
  | ends found _ _ delivers | wakes found _ _ _ _ delivers => exact delivers.orderly found orderly
  | @pauses _ action _ found _ _ changes _ started =>
    obtain ⟨pending, busy, rfl, unended⟩ := orderly.owned serial action found
    rw [busy] at changes
    refine orderly.changes changes (by simp) (by omega) (orderly.holder busy) ?_ ?_
    · rintro other ⟨rfl⟩
      exact ⟨rfl, started ▸ orderly.assigned _ pending busy⟩
    · rintro performed ⟨rfl⟩
      exact ⟨rfl, pending, rfl, unended, fun unpaused => Bool.noConfusion unpaused⟩

theorem RunMove.undisturbed [ExecutionStore S] {id : Uuid} (move : before.RunMove id after) :
    before.Undisturbed after := by
  cases move with
  | waits same => exact same.toUndisturbed
  | advances advanced => exact advanced.toUndisturbed
  | saves undisturbed | forgets undisturbed => exact undisturbed

/-- A task moves as a step of a job does, or it has nothing to do. -/
theorem moveStep_cases (simulation : Simulation S) (id : Uuid) (index : Nat) :
    (simulation.moveStep id index).simulation = simulation ∨
    ∃ job step task, simulation.engine.jobs.get? id = some job ∧ job.task? index = some task ∧
      job.run.plan.steps[index]? = some step ∧
      simulation.StepMove id index job step task (simulation.moveStep id index).simulation := by
  cases present : simulation.engine.jobs.get? id with
  | none =>
    left
    simp [moveStep, present, yielded]
  | some job =>
    cases own : job.task? index with
    | none =>
      left
      simp [moveStep, present, own, yielded]
    | some task =>
      cases found : job.run.plan.steps[index]? with
      | none =>
        left
        simp [moveStep, present, own, found, yielded]
      | some step => exact .inr ⟨job, step, task, rfl, own, found, moveStep_move present own found⟩

theorem move_orderly [ExecutionStore S] (orderly : simulation.Orderly (name :: simulation.queue)) :
    (simulation.move name).simulation.Orderly (simulation.move name).simulation.queue := by
  cases name with
  | run id => exact orderly.undisturbed (moveRun_move simulation id).undisturbed rfl
  | step id index =>
    rcases simulation.moveStep_cases id index with rests | ⟨job, step, task, -, -, -, move⟩
    · exact orderly.undisturbed (by
        rw [move, rests]
        exact (SameWork.refl simulation).toUndisturbed) rfl
    · exact move.orderly orderly
  | action serial => exact (moveAction_move simulation serial).orderly orderly
  | caller => exact orderly.undisturbed (SameWork.refl simulation).toUndisturbed rfl

/-- The attempts and actions are in order all along a course. -/
theorem Course.orderly [ExecutionStore S] {id : Uuid} {first : Simulation S}
    {invoked : List PendingAction} {turn : Option TaskName}
    (course : Course id first invoked turn simulation) (orderly : first.Orderly first.queue) :
    simulation.Orderly (turn.toList ++ simulation.queue) := by
  -- the task that has its turn still counts as the head of the line
  induction course with
  | start => exact orderly
  | @takes invoked simulation name rest course queued inductionHypothesis =>
    rw [Option.toList_none, List.nil_append, queued] at inductionHypothesis
    exact { inductionHypothesis with }
  | moves course inductionHypothesis =>
    exact (move_orderly inductionHypothesis).mono (List.subset_append_right _ _)
  | @passes invoked simulation after course idle passed inductionHypothesis =>
    obtain ⟨ticks, same⟩ := passTime_keeps passed
    rw [idle] at inductionHypothesis
    -- nothing stands in line, so that every action has been invoked
    have invoked (serial : Nat) (action : PendingAction)
        (found : after.actions.get? serial = some action) : action.paused ≠ false := by
      intro unpaused
      rw [same.actions] at found
      cases inductionHypothesis.lined serial action found unpaused
    constructor
    · rw [same.attempts, same.actionsStarted]
      exact inductionHypothesis.assigned
    · rw [same.attempts]
      exact inductionHypothesis.distinct
    · rw [same.attempts, same.actions]
      exact inductionHypothesis.owned
    · exact fun serial action found unpaused => absurd unpaused (invoked serial action found)
    · exact fun serial action _ found unpaused => absurd unpaused (invoked serial action found)
  | prepares _ same inductionHypothesis =>
    exact (inductionHypothesis.mono (List.subset_cons_self .caller _)).undisturbed
      same.toUndisturbed rfl
  | calls _ request _ inductionHypothesis =>
    exact (inductionHypothesis.mono (List.subset_cons_self .caller _)).undisturbed
      (call_undisturbed _ request).1 rfl

end

end WorkflowEngine.Simulation
