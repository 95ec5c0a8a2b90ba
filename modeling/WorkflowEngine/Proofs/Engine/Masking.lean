/-
This file proves that the engine works without a look at the secrets of webhooks. What it does with
its secrets masked is what it does with them, masked, so long as no webhook is called.
-/

import WorkflowEngine.Proofs.Engine.Course
import WorkflowEngine.Proofs.Table

namespace WorkflowEngine

open Time

namespace Definition

/-- Two definitions differ in the secrets of their webhooks at most. -/
inductive SameButSecret : Definition → Definition → Prop where
  | same (definition : Definition) : SameButSecret definition definition
  | shared (definition : Definition) (webhook : Webhook) (header left right : String) :
    SameButSecret
      { definition with trigger := .webhook { webhook with auth := .sharedSecret header left } }
      { definition with trigger := .webhook { webhook with auth := .sharedSecret header right } }
  | signature (definition : Definition) (webhook : Webhook) (header left right : String) :
    SameButSecret
      { definition with trigger := .webhook { webhook with auth := .signature header left } }
      { definition with trigger := .webhook { webhook with auth := .signature header right } }

theorem SameButSecret.redacted {left right : Definition} (same : SameButSecret left right) :
    left.redacted = right.redacted := by
  cases same with
  | same => rfl
  | shared => rfl
  | signature => rfl

theorem redacted_webhook (definition : Definition) :
    definition.redacted.webhook? = definition.webhook?.map Webhook.redacted := by
  obtain ⟨id, version, name, trigger, nodes, edges, settings, createdAt⟩ := definition
  cases trigger with
  | manual => rfl
  | webhook config => rfl

end Definition

def RegisteredWorkflow.masked (registered : RegisteredWorkflow) : RegisteredWorkflow :=
  { registered with definition := registered.definition.redacted }

namespace Gate

def masked (gate : Gate) : Gate :=
  { gate with webhooks := gate.webhooks.mapValues Webhook.redacted }

theorem registerWebhook_masked (gate : Gate) (webhook : Webhook) :
    gate.masked.registerWebhook webhook.redacted = (gate.registerWebhook webhook).masked := by
  unfold registerWebhook masked
  dsimp only
  rw [← Table.insert_mapValues]
  rfl

theorem unregisterWebhook_masked (gate : Gate) (webhookId : String) :
    gate.masked.unregisterWebhook webhookId = (gate.unregisterWebhook webhookId).masked := by
  unfold unregisterWebhook masked
  rw [← Table.erase_mapValues]

theorem reserve_masked (gate : Gate) (tenantId : Uuid) :
    gate.masked.reserve tenantId = Prod.map id masked (gate.reserve tenantId) := by
  unfold reserve runningCount
  dsimp only [masked]
  split
  · rfl
  · rfl

theorem removeIdle_masked (gate : Gate) (tenantId : Uuid) :
    gate.masked.removeIdle tenantId = (gate.removeIdle tenantId).masked :=
  (apply_ite masked (gate.running.get? tenantId = some 0)
    { gate with running := gate.running.erase tenantId } gate).symm

theorem release_masked (gate : Gate) (tenantId : Uuid) :
    gate.masked.release tenantId = (gate.release tenantId).masked :=
  (gate.decrement tenantId).removeIdle_masked tenantId

end Gate

namespace Engine

section

variable {S : Type}

def masked (engine : Engine S) : Engine S :=
  { engine with
    workflows := engine.workflows.mapValues RegisteredWorkflow.masked
    gate := engine.gate.masked }

def maskedOutcome {A : Type} (outcome : A × Engine S) : A × Engine S :=
  (outcome.1, outcome.2.masked)

variable (engine : Engine S)

theorem workflow_masked (workflowId : Uuid) :
    engine.masked.workflow? workflowId =
      (engine.workflow? workflowId).map RegisteredWorkflow.masked :=
  Table.get_mapValues _ _ _

/-- Masked workflows are listed in the same order. -/
theorem listWorkflows_masked :
    engine.masked.listWorkflows = engine.listWorkflows.map RegisteredWorkflow.masked := by
  have values : engine.masked.workflows.map Prod.snd =
      (engine.workflows.map Prod.snd).map RegisteredWorkflow.masked := by
    simp only [masked, Table.mapValues, List.map_map]
    rfl
  unfold listWorkflows
  rw [values]
  exact (List.map_mergeSort (f := RegisteredWorkflow.masked) fun left _ right _ => rfl).symm

/-- A definition is compiled without a look at its trigger. -/
theorem compile_redacted (definition : Definition) :
    engine.compile definition.redacted = engine.compile definition := rfl

theorem compile_masked (definition : Definition) :
    engine.masked.compile definition = maskedOutcome (engine.compile definition) := by
  unfold compile
  rw [show engine.masked.plans = engine.plans from rfl,
    show engine.masked.compiler = engine.compiler from rfl]
  cases engine.plans.get? (definition.id, definition.version) with
  | some compiled => rfl
  | none =>
    cases engine.compiler.compile definition with
    | error error => rfl
    | ok plan => rfl

theorem unbindWebhook_masked (webhookId : String) :
    engine.masked.unbindWebhook webhookId = (engine.unbindWebhook webhookId).masked := by
  unfold unbindWebhook
  dsimp only [masked]
  rw [Gate.unregisterWebhook_masked]

theorem bindWebhook_masked (workflowId : Uuid) (webhook : Webhook) :
    engine.masked.bindWebhook workflowId webhook.redacted =
      (engine.bindWebhook workflowId webhook).masked := by
  unfold bindWebhook
  dsimp only [masked]
  rw [Gate.registerWebhook_masked]
  rfl

theorem unbindPrevious_masked (definition : Definition) :
    engine.masked.unbindPrevious definition.redacted =
      (engine.unbindPrevious definition).masked := by
  have previous : ((engine.masked.workflows.get? definition.redacted.id).bind fun registered =>
      registered.definition.webhook?) =
      ((engine.workflows.get? definition.id).bind fun registered =>
        registered.definition.webhook?).map Webhook.redacted := by
    change ((engine.masked.workflow? definition.id).bind _) = _
    rw [workflow_masked]
    unfold workflow?
    cases engine.workflows.get? definition.id with
    | none => rfl
    | some registered => exact registered.definition.redacted_webhook
  have name : definition.redacted.webhook?.map Webhook.id = definition.webhook?.map Webhook.id := by
    rw [definition.redacted_webhook, Option.map_map]
    rfl
  unfold unbindPrevious
  rw [previous, name]
  cases (engine.workflows.get? definition.id).bind fun registered =>
      registered.definition.webhook? with
  | none => rfl
  | some webhook =>
    dsimp only [Option.map_some]
    by_cases keeps : definition.webhook?.map Webhook.id = some webhook.id
    · rw [if_pos keeps]
      exact if_pos keeps
    · rw [if_neg keeps, ← unbindWebhook_masked]
      exact if_neg keeps

/-- What is registered under the mask is the masked registration. -/
theorem register_masked (definition : Definition) :
    engine.masked.register definition.redacted =
      ((engine.register definition).1.map RegisteredWorkflow.masked,
        (engine.register definition).2.masked) := by
  unfold register
  rw [compile_redacted, compile_masked]
  rcases engine.compile definition with ⟨error | compiled, after⟩
  · rfl
  · dsimp only [maskedOutcome]
    rw [unbindPrevious_masked, definition.redacted_webhook]
    cases definition.webhook? with
    | none =>
      simp only [masked, Except.map, Option.map_none, ← Table.insert_mapValues]
      rfl
    | some webhook =>
      dsimp only [Option.map_some]
      rw [show definition.redacted.id = definition.id from rfl, bindWebhook_masked]
      simp only [masked, Except.map, ← Table.insert_mapValues]
      rfl

theorem unregister_masked (workflowId : Uuid) :
    engine.masked.unregister workflowId = maskedOutcome (engine.unregister workflowId) := by
  have erased : { engine.masked with workflows := engine.masked.workflows.erase workflowId } =
      { engine with workflows := engine.workflows.erase workflowId }.masked := by
    simp only [masked, Table.erase_mapValues]
  unfold unregister
  rw [show engine.masked.workflows.get? workflowId = _ from engine.workflow_masked workflowId]
  unfold workflow?
  cases engine.workflows.get? workflowId with
  | none => rfl
  | some registered =>
    dsimp only [Option.map_some, RegisteredWorkflow.masked, maskedOutcome]
    rw [erased, registered.definition.redacted_webhook]
    cases registered.definition.webhook? with
    | none => rfl
    | some webhook =>
      dsimp only [Option.map_some]
      rw [show webhook.redacted.id = webhook.id from rfl, unbindWebhook_masked]
      rfl

theorem startExecution_masked (plan : Plan) (tenantId : Uuid) (input : Json) :
    engine.masked.startExecution plan tenantId input =
      maskedOutcome (engine.startExecution plan tenantId input) := by
  have limit : engine.masked.gate.checkStepLimit tenantId plan.length =
      engine.gate.checkStepLimit tenantId plan.length := rfl
  have reserved : engine.masked.gate.reserve tenantId =
      Prod.map id Gate.masked (engine.gate.reserve tenantId) := engine.gate.reserve_masked tenantId
  unfold startExecution startOn
  rw [limit, reserved]
  cases engine.gate.checkStepLimit tenantId plan.length with
  | error error => rfl
  | ok _ =>
    rcases engine.gate.reserve tenantId with ⟨error | _, gate⟩
    · rfl
    · rfl

theorem absorb_masked (tenantId : Uuid) (effect : Effect) :
    absorb tenantId engine.masked effect = (absorb tenantId engine effect).masked := by
  cases effect with
  | releaseSlot =>
    simp only [absorb, modifyGate, masked, Gate.release_masked]
  | _ => rfl

theorem foldl_absorb_masked (tenantId : Uuid) (effects : List Effect) :
    effects.foldl (absorb tenantId) engine.masked =
      (effects.foldl (absorb tenantId) engine).masked := by
  induction effects generalizing engine with
  | nil => rfl
  | cons effect rest inductionHypothesis =>
    rw [List.foldl_cons, List.foldl_cons, absorb_masked]
    exact inductionHypothesis (absorb tenantId engine effect)

theorem advance_masked (now : Moment) (executionId : Uuid) (input : Job.Input) :
    engine.masked.advance now executionId input =
      Prod.map masked id (engine.advance now executionId input) := by
  unfold advance
  rw [show engine.masked.jobs.get? executionId = engine.jobs.get? executionId from rfl]
  cases engine.jobs.get? executionId with
  | none => rfl
  | some job =>
    have absorbed := foldl_absorb_masked
      { engine with jobs := engine.jobs.insert executionId (job.advance now input).1 }
      (job.advance now input).1.run.execution.tenantId (job.advance now input).2
    exact Prod.ext absorbed rfl

theorem evict_masked (executionId : Uuid) :
    engine.masked.evict executionId = (engine.evict executionId).masked := by
  unfold evict
  rw [show engine.masked.jobs.get? executionId = engine.jobs.get? executionId from rfl]
  cases engine.jobs.get? executionId with
  | none => rfl
  | some job =>
    dsimp only
    split
    · rfl
    · rfl

theorem requestCancel_masked (now : Moment) (executorName : String) (executionId : Uuid) :
    engine.masked.requestCancel now executorName executionId =
      maskedOutcome (engine.requestCancel now executorName executionId) := by
  unfold requestCancel
  rw [show engine.masked.job? executorName executionId = engine.job? executorName executionId
    from rfl, advance_masked]
  cases engine.job? executorName executionId with
  | none => rfl
  | some job => rfl

end

section

variable {S : Type} [ExecutionStore S] (engine : Engine S)

theorem save_masked (now : Moment) (executionId : Uuid) :
    engine.masked.save now executionId = Prod.map masked id (engine.save now executionId) := by
  unfold save
  rw [show engine.masked.jobs.get? executionId = engine.jobs.get? executionId from rfl]
  cases engine.jobs.get? executionId with
  | none => rfl
  | some job =>
    dsimp only
    split
    · next errand _ _ =>
      exact advance_masked
        { engine with store := (performSave job.run errand engine.store).2 } now executionId _
    · rfl

theorem status_masked (executionId : Uuid) :
    engine.masked.status executionId = maskedOutcome (engine.status executionId) := by
  unfold status
  rw [show engine.masked.job? engine.masked.executor.name executionId =
    engine.job? engine.executor.name executionId from rfl]
  cases engine.job? engine.executor.name executionId with
  | none => rfl
  | some job => rfl

theorem cancel_masked (now : Moment) (executionId : Uuid) :
    engine.masked.cancel now executionId = maskedOutcome (engine.cancel now executionId) := by
  unfold cancel
  rw [show engine.masked.executor.name = engine.executor.name from rfl, requestCancel_masked]
  rcases engine.requestCancel now engine.executor.name executionId with ⟨_ | _, after⟩
  · rfl
  · rfl

end

section

variable {S : Type} {left right : Engine S}

/-- Engines that are the same under the mask register alike. -/
theorem register_alike (alike : left.masked = right.masked)
    {leftDefinition rightDefinition : Definition}
    (same : leftDefinition.redacted = rightDefinition.redacted) :
    (left.register leftDefinition).1.map RegisteredWorkflow.masked =
      (right.register rightDefinition).1.map RegisteredWorkflow.masked ∧
    (left.register leftDefinition).2.masked = (right.register rightDefinition).2.masked := by
  have registered := left.register_masked leftDefinition
  rw [alike, same, register_masked] at registered
  exact ⟨congrArg Prod.fst registered.symm, congrArg Prod.snd registered.symm⟩

/-- The plan of a registration shows through its mask. -/
theorem plan_masked (answer : Except CompileError RegisteredWorkflow) :
    (match answer with
      | .error error => Except.error (EngineError.compile error)
      | .ok registered => Except.ok registered.compiled) =
    ((answer.map RegisteredWorkflow.masked).map RegisteredWorkflow.compiled).mapError
      EngineError.compile := by
  cases answer with
  | error error => rfl
  | ok registered => rfl

end

section

variable {S : Type} [ExecutionStore S] {left right : Engine S}

/-- A plan is found alike, also where its definition has to be loaded with its secret. -/
theorem planFor_alike (alike : left.masked = right.masked) (now : Timestamp)
    (workflowId : Uuid) :
    maskedOutcome (left.planFor now workflowId) = maskedOutcome (right.planFor now workflowId) := by
  have found : (left.workflow? workflowId).map RegisteredWorkflow.masked =
      (right.workflow? workflowId).map RegisteredWorkflow.masked := by
    rw [← workflow_masked, ← workflow_masked, alike]
  have stored : left.store = right.store :=
    show left.masked.store = right.masked.store by rw [alike]
  have restored (store : S) :
      { left with store := store }.masked = { right with store := store }.masked :=
    congrArg (fun engine : Engine S => { engine with store := store }) alike
  unfold planFor
  cases leftKnown : left.workflow? workflowId with
  | some registered =>
    cases rightKnown : right.workflow? workflowId with
    | none => simp [leftKnown, rightKnown] at found
    | some other =>
      rw [leftKnown, rightKnown, Option.map_some, Option.map_some, Option.some.injEq] at found
      have compiled : registered.compiled = other.compiled :=
        congrArg (fun registered => registered.compiled) found
      simp only [maskedOutcome, compiled, alike]
  | none =>
    cases rightKnown : right.workflow? workflowId with
    | some other => simp [leftKnown, rightKnown] at found
    | none =>
      dsimp only
      rw [stored]
      rcases ExecutionStore.loadDefinition now workflowId right.store with
        ⟨error | definition, store⟩
      · simp only [maskedOutcome, restored]
      · obtain ⟨registered, after⟩ := register_alike (restored store) (Eq.refl definition.redacted)
        refine Prod.ext ((plan_masked _).trans (.trans ?_ (plan_masked _).symm)) after
        exact congrArg (fun answer => (answer.map RegisteredWorkflow.compiled).mapError
          EngineError.compile) registered

theorem startWorkflow_alike (alike : left.masked = right.masked) (now : Timestamp)
    (workflowId tenantId : Uuid) (input : Json) :
    maskedOutcome (left.startWorkflow now workflowId tenantId input) =
      maskedOutcome (right.startWorkflow now workflowId tenantId input) := by
  have planned := planFor_alike alike now workflowId
  unfold startWorkflow
  generalize left.planFor now workflowId = leftPlan at planned ⊢
  generalize right.planFor now workflowId = rightPlan at planned ⊢
  obtain ⟨answer, leftAfter⟩ := leftPlan
  obtain ⟨_, rightAfter⟩ := rightPlan
  obtain ⟨rfl, after⟩ := Prod.mk.inj planned
  cases answer with
  | error error => exact Prod.ext rfl after
  | ok compiled =>
    have started := leftAfter.startExecution_masked compiled.plan tenantId input
    rw [after, startExecution_masked] at started
    obtain ⟨same, rest⟩ := Prod.mk.inj started
    exact Prod.ext (congrArg (Except.mapError EngineError.admission) same.symm) rest.symm

/-- A call is quiet if no webhook is called by it. -/
def Call.Quiet : Call S → Prop
  | .admitAndLaunch _ _ _ => False
  | .triggerWebhook _ _ _ => False
  | _ => True

/-- Engines that are the same under the mask stay so by the same quiet call. -/
theorem perform_alike (alike : left.masked = right.masked) {call : Call S} (quiet : call.Quiet) :
    (left.perform call).2.masked = (right.perform call).2.masked := by
  have same (call : Call S) (blind : ∀ engine : Engine S,
      (engine.masked.perform call).2 = (engine.perform call).2.masked) :
      (left.perform call).2.masked = (right.perform call).2.masked := by
    rw [← blind left, alike, blind right]
  cases call with
  | compile definition =>
    exact same _ fun engine => congrArg Prod.snd (engine.compile_masked definition)
  | register definition => exact (register_alike alike rfl).2
  | unregister workflowId =>
    exact same _ fun engine => congrArg Prod.snd (engine.unregister_masked workflowId)
  | planFor now workflowId => exact congrArg Prod.snd (planFor_alike alike now workflowId)
  | startExecution plan tenantId input =>
    exact same _ fun engine => congrArg Prod.snd (engine.startExecution_masked plan tenantId input)
  | startWorkflow now workflowId tenantId input =>
    exact congrArg Prod.snd (startWorkflow_alike alike now workflowId tenantId input)
  | admitAndLaunch webhook plan request => cases quiet
  | triggerWebhook now webhookId request => cases quiet
  | advance now executionId input =>
    exact same _ fun engine => congrArg Prod.fst (engine.advance_masked now executionId input)
  | save now executionId =>
    exact same _ fun engine => congrArg Prod.fst (engine.save_masked now executionId)
  | evict executionId => exact same _ fun engine => engine.evict_masked executionId
  | status executionId =>
    exact same _ fun engine => congrArg Prod.snd (engine.status_masked executionId)
  | cancel now executionId =>
    exact same _ fun engine => congrArg Prod.snd (engine.cancel_masked now executionId)
  | setTenants tenants => exact same _ fun engine => rfl
  | setStore store => exact same _ fun engine => rfl

end

end Engine

end WorkflowEngine
