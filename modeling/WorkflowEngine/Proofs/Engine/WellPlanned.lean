/-
This file proves that every plan which an engine keeps or registers is well formed, whatever its
callers submit.
-/

import WorkflowEngine.Proofs.Engine.WebhookCoherence
import WorkflowEngine.Proofs.Workflow.PlanShape

namespace WorkflowEngine

theorem Compiler.firstPlan_wellFormed {compiler : Compiler} {definitions : List Definition}
    {plan : Plan} (first : compiler.firstPlan? definitions = some plan) : plan.WellFormed := by
  obtain ⟨definition, _, compiled⟩ := List.exists_of_findSome?_eq_some first
  cases answer : compiler.compile definition with
  | error error => simp [answer, Except.toOption] at compiled
  | ok other =>
    simp only [answer, Except.toOption, Option.some.injEq] at compiled
    exact Compiler.compile_wellFormed (compiled ▸ answer)

namespace Engine

variable {S : Type}

/-- The plans of an engine and of its workflows are well formed. -/
structure WellPlanned (engine : Engine S) : Prop where
  kept : ∀ key plan, engine.kept? key = some plan → plan.WellFormed
  registered : ∀ workflowId registered, engine.workflow? workflowId = some registered →
    registered.compiled.plan.WellFormed

section

variable {before after engine : Engine S} {definitions : List Definition}

theorem Learns.kept_wellFormed (learns : Learns before after definitions)
    (planned : WellPlanned before) (key : Uuid × UInt32) (plan : Plan)
    (kept : after.kept? key = some plan) : plan.WellFormed := by
  rw [learns.kept, Option.or_eq_some_iff] at kept
  rcases kept with old | ⟨_, new⟩
  · exact planned.kept key plan old
  · exact Compiler.firstPlan_wellFormed new

/-- What leaves the workflows alone keeps an engine well planned. -/
theorem WellPlanned.still (planned : WellPlanned before)
    (learns : Learns before after definitions) (workflows : after.workflows = before.workflows) :
    WellPlanned after := by
  refine ⟨learns.kept_wellFormed planned, fun workflowId registered found => ?_⟩
  rw [workflow?, workflows] at found
  exact planned.registered workflowId registered found

theorem WellPlanned.compiled (planned : WellPlanned engine) {definition : Definition}
    {compiled : CompiledPlan} (answer : (engine.compile definition).1 = .ok compiled) :
    compiled.plan.WellFormed := by
  have plan := engine.compile_answer definition
  rw [answer] at plan
  cases kept : engine.kept? definition.key with
  | some old =>
    simp only [kept] at plan
    cases plan
    exact planned.kept _ _ kept
  | none =>
    simp only [kept] at plan
    exact Compiler.compile_wellFormed plan.symm

theorem WellPlanned.register (planned : WellPlanned engine) (definition : Definition) :
    WellPlanned (engine.register definition).2 ∧
      ∀ registered, (engine.register definition).1 = .ok registered →
        registered.compiled.plan.WellFormed := by
  have answered (registered : RegisteredWorkflow)
      (answer : (engine.register definition).1 = .ok registered) :
      registered.compiled.plan.WellFormed := by
    rw [register_answer] at answer
    cases compiled : (engine.compile definition).1 with
    | error error => simp [compiled, Except.map] at answer
    | ok plan =>
      simp only [compiled, Except.map, Except.ok.injEq] at answer
      exact answer ▸ planned.compiled compiled
  refine ⟨⟨(engine.register_learns definition).kept_wellFormed planned,
    fun workflowId registered found => ?_⟩, answered⟩
  cases answer : (engine.register definition).1 with
  | error error =>
    rw [register_refused answer] at found
    exact planned.registered workflowId registered found
  | ok new =>
    rw [register_workflows answer] at found
    split at found
    · exact Option.some.inj found ▸ answered new answer
    · exact planned.registered workflowId registered found

theorem WellPlanned.unregister (planned : WellPlanned engine) (workflowId : Uuid) :
    WellPlanned (engine.unregister workflowId).2 := by
  constructor
  · intro key plan kept
    rw [unregister_kept] at kept
    split at kept
    · cases kept
    · exact planned.kept key plan kept
  · intro other registered found
    rw [unregister_workflows] at found
    split at found
    · cases found
    · exact planned.registered other registered found

variable [ExecutionStore S]

theorem WellPlanned.planFor (planned : WellPlanned engine) (now : Time.Timestamp)
    (workflowId : Uuid) : WellPlanned (engine.planFor now workflowId).2 ∧
      ∀ compiled, (engine.planFor now workflowId).1 = .ok compiled → compiled.plan.WellFormed := by
  unfold Engine.planFor
  split
  · next registered found =>
    refine ⟨planned, fun compiled answer => ?_⟩
    cases answer
    exact planned.registered workflowId registered found
  · have loaded : WellPlanned { engine with
        store := (ExecutionStore.loadDefinition now workflowId engine.store).2 } :=
      planned.still (.nothing rfl rfl) rfl
    dsimp only
    split
    · exact ⟨loaded, nofun⟩
    · next definition _ =>
      obtain ⟨after, answered⟩ := loaded.register definition
      refine ⟨after, fun compiled answer => ?_⟩
      split at answer
      · cases answer
      · next registered given =>
        cases answer
        exact answered registered given

/-- Every call keeps an engine well planned. -/
theorem WellPlanned.perform (planned : WellPlanned engine) (call : Call S) :
    WellPlanned (engine.perform call).2 := by
  cases call with
  | compile definition =>
    exact planned.still (engine.compile_learns definition) (engine.compile_workflows definition)
  | register definition => exact (planned.register definition).1
  | unregister workflowId => exact planned.unregister workflowId
  | planFor now workflowId => exact (planned.planFor now workflowId).1
  | startExecution plan tenantId input =>
    exact planned.still (engine.startExecution_learns plan tenantId input)
      (engine.startExecution_serves plan tenantId input).workflows
  | startWorkflow now workflowId tenantId input =>
    have found := (planned.planFor now workflowId).1
    show WellPlanned (engine.startWorkflow now workflowId tenantId input).2
    rcases engine.startWorkflow_cases now workflowId tenantId input with
      ⟨_, same⟩ | ⟨compiled, _, same⟩
    · rw [same]
      exact found
    · rw [same]
      exact found.still (startExecution_learns _ compiled.plan tenantId input)
        (startExecution_serves _ compiled.plan tenantId input).workflows
  | admitAndLaunch webhook plan request =>
    exact planned.still (engine.admitAndLaunch_learns webhook plan request)
      (engine.admitAndLaunch_serves webhook plan request).workflows
  | triggerWebhook now webhookId request =>
    show WellPlanned (engine.triggerWebhook now webhookId request).2
    rcases engine.triggerWebhook_cases now webhookId request with
      ⟨_, same⟩ | ⟨workflowId, webhook, _, ⟨_, same⟩ | ⟨compiled, _, same⟩⟩
    · rw [same]
      exact planned
    · rw [same]
      exact (planned.planFor now workflowId).1
    · rw [same]
      have found := (planned.planFor now workflowId).1
      exact found.still (admitAndLaunch_learns _ webhook compiled.plan request)
        (admitAndLaunch_serves _ webhook compiled.plan request).workflows
  | advance now id input =>
    exact planned.still (engine.advance_learns now id input)
      (engine.advance_serves now id input).workflows
  | save now id =>
    exact planned.still (engine.save_learns now id) (engine.save_serves now id).workflows
  | evict id => exact planned.still (engine.evict_learns id) (engine.evict_serves id).workflows
  | status id => exact planned.still (engine.status_learns id) (engine.status_serves id).workflows
  | cancel now id =>
    exact planned.still (engine.cancel_learns now id) (engine.cancel_serves now id).workflows
  | setTenants tenants => exact planned.still (.nothing rfl rfl) rfl
  | setStore store => exact planned.still (.nothing rfl rfl) rfl

/-- An engine is well planned in its whole course. -/
theorem Course.wellPlanned {config : EngineConfig} {catalog : Catalog} {store : S}
    {ids : IdSource} {past : List (Occurrence S)}
    (course : Course (create config catalog store ids) past engine) : WellPlanned engine := by
  induction course with
  | start => exact ⟨nofun, nofun⟩
  | next course call inductionHypothesis => exact inductionHypothesis.perform call

end

end Engine

end WorkflowEngine
