/-
This file proves what a registration does to the webhooks of all workflows. The engine looks up what
its workflow has declared so far, and it does not look up whose webhook that is by now.
-/

import WorkflowEngine.Proofs.Engine.Course
import WorkflowEngine.Proofs.Execution.Course

namespace WorkflowEngine

/-- A binding shows what the engine and its gate hold for a webhook. -/
structure Binding where
  owner : Option Uuid
  settings : Option Webhook
  window : Option RateWindow

/-- Nothing is held for a webhook that is not bound. -/
def Binding.unbound : Binding :=
  ⟨none, none, none⟩

namespace Engine

variable {S : Type}

def binding (engine : Engine S) (webhookId : String) : Binding :=
  ⟨engine.webhooks.get? webhookId, engine.gate.webhook? webhookId, engine.gate.window? webhookId⟩

def declared? (engine : Engine S) (workflowId : Uuid) : Option String :=
  ((engine.workflows.get? workflowId).bind fun registered => registered.definition.webhook?).map
    Webhook.id

theorem unbindWebhook_binding (engine : Engine S) (other webhookId : String) :
    (engine.unbindWebhook other).binding webhookId =
      if other = webhookId then .unbound else engine.binding webhookId := by
  unfold binding unbindWebhook Gate.unregisterWebhook Gate.webhook? Gate.window?
  split
  · next same =>
    subst same
    simp only [Table.getEraseSame]
    rfl
  · next different => simp only [Table.getEraseOther _ different]

theorem bindWebhook_binding (engine : Engine S) (workflowId : Uuid) (webhook : Webhook)
    (webhookId : String) :
    (engine.bindWebhook workflowId webhook).binding webhookId =
      if webhook.id = webhookId then
        ⟨some workflowId, some webhook, (engine.binding webhookId).window⟩
      else engine.binding webhookId := by
  unfold binding bindWebhook Gate.registerWebhook Gate.webhook? Gate.window?
  split
  · next same =>
    subst same
    simp only [Table.getInsertSame]
  · next different => simp only [Table.getInsertOther _ _ different]

theorem compile_binding (engine : Engine S) (definition : Definition) (webhookId : String) :
    (engine.compile definition).2.binding webhookId = engine.binding webhookId := by
  unfold compile
  split
  · rfl
  · split <;> rfl

theorem compile_workflows (engine : Engine S) (definition : Definition) :
    (engine.compile definition).2.workflows = engine.workflows := by
  unfold compile
  split
  · rfl
  · split <;> rfl

/-- The previous webhook loses its binding unless the new definition declares it. -/
theorem unbindPrevious_binding (engine : Engine S) (definition : Definition) (webhookId : String) :
    (engine.unbindPrevious definition).binding webhookId =
      if engine.declared? definition.id = some webhookId ∧
          definition.webhook?.map Webhook.id ≠ some webhookId then .unbound
      else engine.binding webhookId := by
  unfold unbindPrevious declared?
  cases (engine.workflows.get? definition.id).bind fun registered =>
      registered.definition.webhook? with
  | none => simp
  | some previous =>
    dsimp only [Option.map_some]
    by_cases same : previous.id = webhookId
    · subst same
      by_cases again : definition.webhook?.map Webhook.id = some previous.id
      · simp [again]
      · simp [again, unbindWebhook_binding]
    · by_cases again : definition.webhook?.map Webhook.id = some previous.id
      · simp [again, same]
      · simp [again, same, unbindWebhook_binding]

theorem compile_refused {engine : Engine S} {definition : Definition} {error : CompileError}
    (refused : (engine.compile definition).1 = .error error) :
    (engine.compile definition).2 = engine := by
  unfold compile at refused ⊢
  split
  · rfl
  · next unknown =>
    rw [unknown] at refused
    dsimp only at refused
    split
    · rfl
    · next compiled => simp [compiled] at refused

/-- A registration that is refused changes nothing. -/
theorem register_refused {engine : Engine S} {definition : Definition} {error : CompileError}
    (refused : (engine.register definition).1 = .error error) :
    (engine.register definition).2 = engine := by
  unfold register at refused ⊢
  split at refused
  · next cause after answer =>
    have still : (engine.compile definition).2 = engine :=
      compile_refused (congrArg Prod.fst answer)
    rwa [answer] at still
  · cases refused

/-- A registration binds the declared webhook and unbinds the one before. -/
theorem register_binding {engine : Engine S} {definition : Definition}
    {registered : RegisteredWorkflow} (answer : (engine.register definition).1 = .ok registered)
    (webhookId : String) :
    (engine.register definition).2.binding webhookId =
      if definition.webhook?.map Webhook.id = some webhookId then
        ⟨some definition.id, definition.webhook?, (engine.binding webhookId).window⟩
      else if engine.declared? definition.id = some webhookId then .unbound
      else engine.binding webhookId := by
  have compiled := engine.compile_binding definition webhookId
  have workflows := engine.compile_workflows definition
  unfold register at answer ⊢
  split at answer
  · cases answer
  · next plan after found =>
    rw [found] at compiled workflows
    have previous := after.unbindPrevious_binding definition webhookId
    have declared : after.declared? definition.id = engine.declared? definition.id := by
      rw [declared?, workflows, declared?]
    rw [declared, compiled] at previous
    dsimp only
    cases declares : definition.webhook? with
    | none =>
      rw [declares] at previous
      show (after.unbindPrevious definition).binding webhookId = _
      rw [previous]
      simp
    | some webhook =>
      rw [declares] at previous
      show ((after.unbindPrevious definition).bindWebhook definition.id webhook).binding
        webhookId = _
      rw [bindWebhook_binding, previous]
      by_cases same : webhook.id = webhookId
      · simp [same]
      · simp [same]

/-- A workflow that is forgotten takes the webhook that it has declared with it. -/
theorem unregister_binding (engine : Engine S) (workflowId : Uuid) (webhookId : String) :
    (engine.unregister workflowId).2.binding webhookId =
      if engine.declared? workflowId = some webhookId then .unbound
      else engine.binding webhookId := by
  unfold unregister
  cases found : engine.workflows.get? workflowId with
  | none => simp [declared?, found]
  | some registered =>
    have declared : engine.declared? workflowId =
        registered.definition.webhook?.map Webhook.id := by
      rw [declared?, found, Option.bind_some]
    rw [declared]
    dsimp only
    cases registered.definition.webhook? with
    | none => rfl
    | some webhook =>
      have unbound := unbindWebhook_binding
        { engine with workflows := engine.workflows.erase workflowId } webhook.id webhookId
      simp only [Option.map_some, Option.some.injEq]
      exact unbound

/-- A webhook that is bound has lost something if it is not bound any more. -/
theorem binding_ne_unbound {engine : Engine S} {webhookId : String} {owner : Uuid}
    (bound : engine.webhooks.get? webhookId = some owner) :
    engine.binding webhookId ≠ .unbound := by
  intro lost
  have owners := congrArg Binding.owner lost
  simp [binding, Binding.unbound, bound] at owners

/-- A webhook survives other workflows exactly if they have not declared it before. -/
theorem kept_iff_undeclared (engine : Engine S) {webhookId : String} {owner : Uuid}
    (bound : engine.webhooks.get? webhookId = some owner) :
    (∀ definition, definition.id ≠ owner →
      definition.webhook?.map Webhook.id ≠ some webhookId →
      ((engine.register definition).2.binding webhookId = engine.binding webhookId ↔
        ∀ registered, (engine.register definition).1 = .ok registered →
          engine.declared? definition.id ≠ some webhookId)) ∧
    (∀ workflowId, workflowId ≠ owner →
      ((engine.unregister workflowId).2.binding webhookId = engine.binding webhookId ↔
        engine.declared? workflowId ≠ some webhookId)) := by
  have kept (declared : Prop) [Decidable declared] :
      (if declared then Binding.unbound else engine.binding webhookId) =
        engine.binding webhookId ↔ ¬ declared := by
    split
    · next taken => simp [taken, (binding_ne_unbound bound).symm]
    · next free => simp [free]
  constructor
  · intro definition _ undeclared
    cases answer : (engine.register definition).1 with
    | error error => simp [register_refused answer]
    | ok registered =>
      rw [register_binding answer, if_neg undeclared, kept]
      simp
  · intro workflowId _
    rw [unregister_binding, kept]

end Engine

/-- One webhook starts all of these workflows, each for a tenant of its own. -/
def Definition.hooked (id : Uuid) : Definition :=
  { Definition.pair with
    id := id
    trigger := .webhook { id := "hook", tenantId := id } }

namespace Engine

/-- The first workflow declares the webhook, and then the second one takes it over. -/
def contested : List (Occurrence MemoryStore) × Engine MemoryStore :=
  replay [] bare [.register (.hooked ⟨1⟩), .register (.hooked ⟨2⟩)]

/-- The second workflow keeps its webhook while a third one is forgotten. -/
theorem contested_kept_iff_undeclared :
    contested.2.webhooks.get? "hook" = some ⟨2⟩ ∧
    (contested.2.unregister ⟨3⟩).2.binding "hook" = contested.2.binding "hook" ∧
    (contested.2.unregister ⟨1⟩).2.binding "hook" ≠ contested.2.binding "hook" := by
  have bound : contested.2.webhooks.get? "hook" = some ⟨2⟩ := by decide +kernel
  obtain ⟨_, forgotten⟩ := kept_iff_undeclared contested.2 bound
  constructor
  · exact bound
  constructor
  · apply (forgotten ⟨3⟩ (by decide)).mpr
    decide +kernel
  · intro kept
    exact (forgotten ⟨1⟩ (by decide)).mp kept (by decide +kernel)

/-- It is not so that a workflow leaves the webhooks of the others alone. -/
theorem contested_disturbed :
    ¬ ∀ (past : List (Occurrence MemoryStore)) (engine : Engine MemoryStore),
      Course bare past engine → ∀ webhookId owner registered,
        engine.webhooks.get? webhookId = some owner →
        engine.workflow? owner = some registered →
        (∀ definition, definition.id ≠ owner →
          definition.webhook?.map Webhook.id ≠ some webhookId →
          (engine.register definition).2.binding webhookId = engine.binding webhookId) ∧
        (∀ workflowId, workflowId ≠ owner →
          (engine.unregister workflowId).2.binding webhookId = engine.binding webhookId) := by
  intro undisturbed
  have course : Course bare contested.1 contested.2 := Course.start.replay _
  have bound : contested.2.webhooks.get? "hook" = some ⟨2⟩ := by decide +kernel
  have known : (contested.2.workflow? ⟨2⟩).isSome := by decide +kernel
  obtain ⟨registered, found⟩ := Option.isSome_iff_exists.mp known
  obtain ⟨_, forgotten⟩ := undisturbed _ _ course "hook" ⟨2⟩ registered bound found
  have owners := congrArg Binding.owner (forgotten ⟨1⟩ (by decide))
  exact absurd owners (by decide +kernel)

end Engine

end WorkflowEngine
