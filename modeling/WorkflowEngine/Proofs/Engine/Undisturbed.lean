/-
This file proves that the registration of workflows does not disturb what the engine runs, and that
what is looked up in the store does not either.
-/

import WorkflowEngine.Engine.Progress
import WorkflowEngine.Engine.Registration

namespace WorkflowEngine.Engine

open Time

variable {S : Type}

/-- An engine is undisturbed if it runs what it ran before, for the same tenants. -/
structure Undisturbed (before after : Engine S) : Prop where
  config : after.config = before.config
  catalog : after.catalog = before.catalog
  ids : after.ids = before.ids
  jobs : after.jobs = before.jobs
  running : after.gate.running = before.gate.running
  tenants : after.gate.tenants = before.gate.tenants

theorem Undisturbed.refl (engine : Engine S) : Undisturbed engine engine :=
  ⟨rfl, rfl, rfl, rfl, rfl, rfl⟩

theorem Undisturbed.trans {first second third : Engine S} (one : Undisturbed first second)
    (two : Undisturbed second third) : Undisturbed first third :=
  ⟨two.config.trans one.config, two.catalog.trans one.catalog, two.ids.trans one.ids,
    two.jobs.trans one.jobs, two.running.trans one.running, two.tenants.trans one.tenants⟩

theorem Undisturbed.compiler {before after : Engine S} (undisturbed : Undisturbed before after) :
    after.compiler = before.compiler := by
  rw [Engine.compiler, undisturbed.catalog, undisturbed.config, Engine.compiler]

theorem Undisturbed.runningCount {before after : Engine S}
    (undisturbed : Undisturbed before after) (tenantId : Uuid) :
    after.gate.runningCount tenantId = before.gate.runningCount tenantId := by
  rw [Gate.runningCount, undisturbed.running, Gate.runningCount]

theorem compile_undisturbed (engine : Engine S) (definition : Definition) :
    Undisturbed engine (engine.compile definition).2 := by
  unfold compile
  split
  · exact .refl engine
  · split
    · exact .refl engine
    · exact ⟨rfl, rfl, rfl, rfl, rfl, rfl⟩

theorem unbindPrevious_undisturbed (engine : Engine S) (definition : Definition) :
    Undisturbed engine (engine.unbindPrevious definition) := by
  unfold unbindPrevious
  split
  · exact .refl engine
  · split
    · exact .refl engine
    · exact ⟨rfl, rfl, rfl, rfl, rfl, rfl⟩

theorem register_undisturbed (engine : Engine S) (definition : Definition) :
    Undisturbed engine (engine.register definition).2 := by
  have compiled := engine.compile_undisturbed definition
  unfold register
  split
  · next error after answer =>
    rw [answer] at compiled
    exact compiled
  · next plan after answer =>
    rw [answer] at compiled
    refine compiled.trans ((unbindPrevious_undisturbed after definition).trans ?_)
    dsimp only
    split <;> exact ⟨rfl, rfl, rfl, rfl, rfl, rfl⟩

theorem unregister_undisturbed (engine : Engine S) (workflowId : Uuid) :
    Undisturbed engine (engine.unregister workflowId).2 := by
  unfold unregister
  split
  · exact .refl engine
  · dsimp only
    split <;> exact ⟨rfl, rfl, rfl, rfl, rfl, rfl⟩

variable [ExecutionStore S]

theorem planFor_undisturbed (engine : Engine S) (now : Timestamp) (workflowId : Uuid) :
    Undisturbed engine (engine.planFor now workflowId).2 := by
  unfold planFor
  split
  · exact .refl engine
  · have loaded : Undisturbed engine { engine with
        store := (ExecutionStore.loadDefinition now workflowId engine.store).2 } :=
      ⟨rfl, rfl, rfl, rfl, rfl, rfl⟩
    dsimp only
    split
    · exact loaded
    · exact loaded.trans (register_undisturbed _ _)

theorem load_undisturbed (engine : Engine S) (id : Uuid) :
    Undisturbed engine (engine.load id).2 :=
  ⟨rfl, rfl, rfl, rfl, rfl, rfl⟩

theorem status_undisturbed (engine : Engine S) (id : Uuid) :
    Undisturbed engine (engine.status id).2 := by
  unfold status
  split
  · exact .refl engine
  · exact load_undisturbed engine id

end WorkflowEngine.Engine
