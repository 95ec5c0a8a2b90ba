/-
This file proves what one move of a run and of an action does. A run only advances its own job, and
an action gives one result to the attempt that it belongs to.
-/

import WorkflowEngine.Proofs.Simulation.StepMoves
import WorkflowEngine.Proofs.Table

namespace WorkflowEngine

/-- The step and the execution that an action belongs to. -/
def PendingAction.key (action : PendingAction) : Uuid × Nat :=
  (action.execution, action.index)

namespace Simulation

variable {S : Type}

/-- An action gives its result to its attempt and is gone. -/
structure Delivers (before : Simulation S) (serial : Nat) (action : PendingAction)
    (result : ActionResult) (after : Simulation S) : Prop where
  changes : before.Changes action.key serial ((before.attempts.get? action.key).map
    fun pending => { pending with result := some result }) none after
  engine : after.engine = before.engine
  actionsStarted : after.actionsStarted = before.actionsStarted

/-- These are the moves of an action. It is invoked once, and may pause before it ends. -/
inductive ActionMove (before : Simulation S) (serial : Nat) : Simulation S → Prop where
  | rests (idle : ∀ action, before.actions.get? serial = some action → action.paused = true) :
    ActionMove before serial before
  | ends {after : Simulation S} {action : PendingAction} {result : ActionResult}
    (found : before.actions.get? serial = some action) (unpaused : action.paused = false)
    (performed : action.node.perform action.call before.bench = (result, 0, after.bench))
    (delivers : before.Delivers serial action result after) : ActionMove before serial after
  | pauses {after : Simulation S} {action : PendingAction} {milliseconds : Nat}
    (found : before.actions.get? serial = some action) (unpaused : action.paused = false)
    (started : action.node.start action.call before.bench = (.pausing milliseconds, after.bench))
    (changes : before.Changes action.key serial (before.attempts.get? action.key)
      (some { action with paused := true }) after)
    (engine : after.engine = before.engine)
    (actionsStarted : after.actionsStarted = before.actionsStarted)
    (asleep : after.asleep.get? (.action serial) = some (before.ticks + milliseconds)) :
    ActionMove before serial after
  | wakes {after : Simulation S} {action : PendingAction} {due : Nat} {result : ActionResult}
    (found : before.actions.get? serial = some action) (paused : action.paused = true)
    (asleep : before.asleep.get? (.action serial) = some due) (passed : due ≤ before.ticks)
    (finished : action.node.finish action.call before.bench = (result, after.bench))
    (delivers : before.Delivers serial action result after) : ActionMove before serial after

theorem SameWork.delivers {before between : Simulation S} (same : before.SameWork between)
    (serial : Nat) (action : PendingAction) (outcome : ActionResult × Bench) :
    before.Delivers serial action outcome.1 (between.deliver serial action outcome) := by
  have woken : between.SameWork
      (if (between.attempts.get? action.key).any PendingAttempt.watched then
        between.wake (.step action.execution action.index) else between) := by
    split
    · exact wake_same between _
    · exact .refl between
  refine ⟨⟨?_, ?_, ?_, ?_, ?_, ?_⟩, ?_, ?_⟩
  · rw [← same.attempts]
    exact (Table.get_update _ _ _ _).trans (if_pos rfl)
  · intro other different
    rw [← same.attempts]
    exact (Table.get_update _ _ _ _).trans (if_neg different)
  · exact Table.getEraseSame _ _
  · intro other different
    rw [← same.actions]
    exact Table.getEraseOther _ (Ne.symm different)
  · exact woken.ticks.trans same.ticks
  · exact List.Subset.trans same.queue woken.queue
  · exact woken.engine.trans same.engine
  · exact woken.actionsStarted.trans same.actionsStarted

/-- An action only makes its moves. -/
theorem moveAction_move (simulation : Simulation S) (serial : Nat) :
    simulation.ActionMove serial (simulation.moveAction serial).simulation := by
  unfold moveAction
  split
  · next missing => exact .rests fun action found => by cases missing.symm.trans found
  · next action found =>
    dsimp only
    split
    · next paused =>
      have idle : ∀ other, simulation.actions.get? serial = some other → other.paused = true :=
        fun other same => Option.some.inj (found.symm.trans same) ▸ paused
      split
      · next due asleep =>
        split
        · next passed =>
          have risen := rise_same simulation (.action serial)
          have bench : (simulation.rise (.action serial)).bench = simulation.bench := by
            unfold rise
            split <;> rfl
          refine .wakes found paused asleep (of_decide_eq_true passed) ?_
            (risen.delivers serial action _)
          rw [← bench]
          rfl
        · exact .rests idle
      · exact .rests idle
    · next unpaused =>
      have unpaused : action.paused = false := by simpa using unpaused
      split
      · next result bench started =>
        refine .ends found unpaused ?_ ((SameWork.refl simulation).delivers serial action _)
        simp only [Node.perform, started]
        rfl
      · next bench started =>
        have same : simulation.SameWork { simulation with bench := bench } :=
          ⟨⟨rfl, rfl, rfl, rfl, List.Subset.refl _⟩, rfl⟩
        refine .ends found unpaused ?_ (same.delivers serial action _)
        simp only [Node.perform, started]
        rfl
      · next milliseconds bench _ started =>
        exact .pauses found unpaused started ⟨rfl, fun _ _ => rfl, Table.getInsertSame _ _ _,
          fun other different => Table.getInsertOther _ _ (Ne.symm different), rfl,
          List.Subset.refl _⟩ rfl rfl (Table.getInsertSame _ _ _)

end Simulation

/-- These inputs concern the run of a job and not the tasks of its steps. -/
def Job.Input.OfRun : Job.Input → Prop
  | .opened | .rested | .joined _ | .cancelNoticed | .expired => True
  | _ => False

namespace Simulation

variable {S : Type}

/-- These are the moves of a run. -/
inductive RunMove [ExecutionStore S] (before : Simulation S) (id : Uuid) : Simulation S → Prop where
  | waits {after : Simulation S} (same : before.SameWork after) : RunMove before id after
  | advances {after : Simulation S} {input : Job.Input}
    (advanced : before.Advanced id input after) (ofRun : input.OfRun) : RunMove before id after
  | saves {after : Simulation S} (undisturbed : before.Undisturbed after)
    (engine : ∃ now, after.engine = (before.engine.save now id).1) : RunMove before id after
  | forgets {after : Simulation S} (undisturbed : before.Undisturbed after)
    (engine : after.engine = before.engine.evict id) : RunMove before id after

variable [ExecutionStore S] {simulation : Simulation S} {id : Uuid}

theorem Pause.runMove {milliseconds : Nat} {follows : Simulation S → Prop} {after : Simulation S}
    (pause : simulation.Pause (.run id) milliseconds follows after)
    (moves : ∀ after, follows after → simulation.RunMove id after) :
    simulation.RunMove id after := by
  cases pause with
  | putOff _ same | fallsAsleep _ _ same => exact .waits same
  | sleepsOn => exact .waits (.refl simulation)
  | wakes _ _ goesOn | skips _ _ goesOn => exact moves _ goesOn

theorem save_undisturbed (simulation : Simulation S) (id : Uuid) :
    simulation.Undisturbed (simulation.save id) ∧
      (simulation.save id).engine = (simulation.engine.save simulation.now id).1 := by
  have reacted : { simulation.read with
      engine := (simulation.engine.save simulation.now id).1 }.SameWork
        (simulation.save id) := .foldl (react_same id) _ _
  exact ⟨⟨reacted.attempts, reacted.actions, reacted.actionsStarted, reacted.ticks,
    reacted.queue⟩, reacted.engine⟩

omit [ExecutionStore S] in
theorem nextReport_same {index : Nat} {after : Simulation S}
    (taken : simulation.nextReport? id = some (index, after)) : simulation.SameWork after := by
  unfold nextReport? at taken
  split at taken
  · cases taken
    exact ⟨⟨rfl, rfl, rfl, rfl, List.Subset.refl _⟩, rfl⟩
  · cases taken

omit [ExecutionStore S] in
theorem watchDeadline_same (simulation : Simulation S) (id : Uuid) (job : Job) :
    simulation.SameWork (simulation.watchDeadline id job) := by
  unfold watchDeadline
  dsimp only
  split
  · exact .refl simulation
  · exact ⟨⟨rfl, rfl, rfl, rfl, List.Subset.refl _⟩, rfl⟩

theorem moveWaiting_move (simulation : Simulation S) (id : Uuid) (job : Job) :
    simulation.RunMove id (simulation.moveWaiting id job).simulation := by
  simp only [moveWaiting, withCredit]
  split
  · exact .waits (defer_same simulation _)
  · split
    · next index between taken =>
      exact .advances
        (((nextReport_same taken).trans (spend_same between)).advanced id (.joined index)) trivial
    · split
      · exact .advances ((SameWork.refl simulation).advanced id .cancelNoticed) trivial
      · split
        · exact .advances ((spend_same simulation).advanced id .expired) trivial
        · exact .waits (watchDeadline_same simulation id job)

/-- A run only makes its moves. -/
theorem moveRun_move (simulation : Simulation S) (id : Uuid) :
    simulation.RunMove id (simulation.moveRun id).simulation := by
  unfold moveRun
  split
  · exact .waits (.refl simulation)
  · next job found =>
    split
    · exact .advances ((SameWork.refl simulation).advanced id .opened) trivial
    · obtain ⟨undisturbed, engine⟩ := simulation.save_undisturbed id
      exact .saves undisturbed ⟨_, engine⟩
    · refine (pause_move simulation (.run id) _ fun between same =>
        same.advanced id .rested).runMove fun after advanced => ?_
      exact .advances advanced trivial
    · exact simulation.moveWaiting_move id job
    · have forgets (between : Simulation S) (same : simulation.SameWork between) :
          simulation.RunMove id (between.forget id) := by
        refine .forgets (same.toUndisturbed.trans ⟨rfl, rfl, rfl, rfl, List.Subset.refl _⟩) ?_
        rw [← same.engine]
        rfl
      exact (pause_move simulation (.run id) _ forgets).runMove fun after move => move

end Simulation

end WorkflowEngine
