/-
This file proves that the tables of webhooks belong together. The engine and the gate know the same
webhooks, each is bound to a registered workflow that declares it, and there is no window without
its webhook.
-/

import WorkflowEngine.Proofs.Engine.PlanCache
import WorkflowEngine.Proofs.Engine.Traffic
import WorkflowEngine.Proofs.Engine.WebhookBindings

namespace WorkflowEngine

open Time

namespace Gate

/-- A gate that serves its webhooks keeps them and opens windows for them alone. -/
structure Serves (before after : Gate) : Prop where
  webhooks : after.webhooks = before.webhooks
  windows : ∀ webhookId, before.webhook? webhookId = none →
    after.window? webhookId = before.window? webhookId

theorem Serves.still {before after : Gate} (webhooks : after.webhooks = before.webhooks)
    (windows : after.windows = before.windows) : Serves before after :=
  ⟨webhooks, fun webhookId _ => by rw [window?, windows, window?]⟩

theorem Serves.trans {first second third : Gate} (one : Serves first second)
    (two : Serves second third) : Serves first third := by
  refine ⟨two.webhooks.trans one.webhooks, fun webhookId unknown => ?_⟩
  have still : second.webhook? webhookId = none := by
    rwa [webhook?, one.webhooks]
  exact (two.windows webhookId still).trans (one.windows webhookId unknown)

theorem reserve_serves (gate : Gate) (tenantId : Uuid) :
    Serves gate (gate.reserve tenantId).2 := by
  unfold reserve
  dsimp only
  split <;> exact .still rfl rfl

theorem release_serves (gate : Gate) (tenantId : Uuid) : Serves gate (gate.release tenantId) := by
  unfold release removeIdle
  split <;> exact .still rfl rfl

theorem checkRateLimit_serves {gate : Gate} {webhookId : String} {webhook : Webhook}
    (known : gate.webhook? webhookId = some webhook) (rate : RateLimit) (now : Timestamp) :
    Serves gate (gate.checkRateLimit webhookId rate now).2 := by
  have others (window : RateWindow) :
      Serves gate { gate with windows := gate.windows.insert webhookId window } := by
    refine ⟨rfl, fun other unknown => ?_⟩
    have different : webhookId ≠ other := by
      rintro rfl
      simp [known] at unknown
    exact Table.getInsertOther _ _ different
  unfold checkRateLimit
  dsimp only
  split
  · exact others _
  · exact others _

theorem admission_serves (gate : Gate) (webhookId : String) (tenantId : Uuid)
    (request : WebhookRequest) : Serves gate (gate.admission webhookId tenantId request).2 := by
  unfold admission
  split
  · exact .still rfl rfl
  · next webhook known =>
    split
    · exact .still rfl rfl
    · split
      · exact .still rfl rfl
      · have checked := checkRateLimit_serves known webhook.rateLimit request.receivedAt
        split
        · next answer =>
          rw [answer] at checked
          exact checked
        · next passed answer =>
          rw [answer] at checked
          have reserved := checked.trans (reserve_serves passed tenantId)
          split <;>
          · next given =>
            rw [given] at reserved
            exact reserved

end Gate

namespace Engine

variable {S : Type}

/-- A webhook is owned by nobody, or by a registered workflow that declares it. -/
inductive Owned (engine : Engine S) (webhookId : String) : Prop where
  | nobody (binding : engine.binding webhookId = .unbound)
  | workflow (registered : RegisteredWorkflow) (webhook : Webhook) (window : Option RateWindow)
      (known : engine.workflow? registered.definition.id = some registered)
      (declares : registered.definition.webhook? = some webhook)
      (named : webhook.id = webhookId)
      (binding : engine.binding webhookId =
        ⟨some registered.definition.id, some webhook, window⟩)

/-- Every workflow is kept under its identifier, and every webhook is owned. -/
structure Coherent (engine : Engine S) : Prop where
  known : ∀ workflowId registered, engine.workflow? workflowId = some registered →
    registered.definition.id = workflowId
  owned : ∀ webhookId, engine.Owned webhookId

theorem create_coherent (config : EngineConfig) (catalog : Catalog) (store : S) (ids : IdSource) :
    Coherent (create config catalog store ids) := by
  constructor
  · intro workflowId registered found
    cases found
  · intro webhookId
    exact .nobody rfl

theorem Owned.keys {engine : Engine S} {webhookId : String} (owned : engine.Owned webhookId) :
    (engine.webhooks.get? webhookId).isSome = (engine.gate.webhook? webhookId).isSome := by
  cases owned with
  | nobody unbound =>
    have owner : engine.webhooks.get? webhookId = none := congrArg Binding.owner unbound
    have settings : engine.gate.webhook? webhookId = none := congrArg Binding.settings unbound
    simp [owner, settings]
  | workflow registered webhook window known declares named bound =>
    have owner : engine.webhooks.get? webhookId = some registered.definition.id :=
      congrArg Binding.owner bound
    have settings : engine.gate.webhook? webhookId = some webhook :=
      congrArg Binding.settings bound
    simp [owner, settings]

theorem Owned.windows {engine : Engine S} {webhookId : String} (owned : engine.Owned webhookId)
    (opened : (engine.gate.window? webhookId).isSome) :
    (engine.webhooks.get? webhookId).isSome := by
  cases owned with
  | nobody unbound =>
    have window : engine.gate.window? webhookId = none := congrArg Binding.window unbound
    simp [window] at opened
  | workflow registered webhook window known declares named bound =>
    have owner : engine.webhooks.get? webhookId = some registered.definition.id :=
      congrArg Binding.owner bound
    simp [owner]

/-- The owner of a webhook is registered, declares it and has set it up. -/
theorem Owned.owner {engine : Engine S} {webhookId : String} {workflowId : Uuid}
    (owned : engine.Owned webhookId) (bound : engine.webhooks.get? webhookId = some workflowId) :
    ∃ registered webhook, engine.workflow? workflowId = some registered ∧
      registered.definition.id = workflowId ∧ registered.definition.webhook? = some webhook ∧
      webhook.id = webhookId ∧ engine.gate.webhook? webhookId = some webhook := by
  cases owned with
  | nobody unbound => exact absurd unbound (binding_ne_unbound bound)
  | workflow registered webhook window known declares named binding =>
    have owner : engine.webhooks.get? webhookId = some registered.definition.id :=
      congrArg Binding.owner binding
    rw [bound, Option.some.injEq] at owner
    exact ⟨registered, webhook, owner ▸ known, owner.symm, declares, named,
      congrArg Binding.settings binding⟩

theorem Owned.of_same {before after : Engine S} {webhookId : String}
    (owned : before.Owned webhookId) (binding : after.binding webhookId = before.binding webhookId)
    (workflows : ∀ registered, before.workflow? registered.definition.id = some registered →
      registered.definition.webhook?.map Webhook.id = some webhookId →
      after.workflow? registered.definition.id = some registered) : after.Owned webhookId := by
  cases owned with
  | nobody unbound => exact .nobody (binding.trans unbound)
  | workflow registered webhook window known declares named bound =>
    refine .workflow registered webhook window (workflows registered known ?_) declares named
      (binding.trans bound)
    rw [declares, Option.map_some, named]

/-- A workflow that is registered declares what its definition does. -/
theorem declared_of_known {engine : Engine S} {workflowId : Uuid} {registered : RegisteredWorkflow}
    (known : engine.workflow? workflowId = some registered) :
    engine.declared? workflowId = registered.definition.webhook?.map Webhook.id := by
  rw [workflow?] at known
  rw [declared?, known, Option.bind_some]

/-- A registration keeps every other workflow and puts its own in its place. -/
theorem register_workflows {engine : Engine S} {definition : Definition}
    {registered : RegisteredWorkflow} (answer : (engine.register definition).1 = .ok registered)
    (workflowId : Uuid) :
    (engine.register definition).2.workflow? workflowId =
      if workflowId = definition.id then some registered else engine.workflow? workflowId := by
  have compiled := engine.compile_workflows definition
  have unbound (after : Engine S) :
      (after.unbindPrevious definition).workflows = after.workflows := by
    unfold unbindPrevious
    split
    · rfl
    · split <;> rfl
  unfold register at answer ⊢
  split at answer
  · cases answer
  · next plan after found =>
    cases answer
    rw [found] at compiled
    have entered {workflows : Table Uuid RegisteredWorkflow}
        (same : workflows = engine.workflows) :
        Table.get? (workflows.insert definition.id ⟨definition, plan⟩) workflowId =
          if workflowId = definition.id then some ⟨definition, plan⟩
          else engine.workflows.get? workflowId := by
      rw [same]
      split
      · next own => rw [own, Table.getInsertSame]
      · next other => exact Table.getInsertOther _ _ (Ne.symm other)
    unfold workflow?
    dsimp only
    split <;> exact entered ((unbound after).trans compiled)

theorem Coherent.register {engine : Engine S} (coherent : Coherent engine)
    (definition : Definition) : Coherent (engine.register definition).2 := by
  cases answer : (engine.register definition).1 with
  | error error => rwa [register_refused answer]
  | ok registered =>
    have workflows := register_workflows answer
    have entered : registered.definition = definition := by
      have named := register_answer engine definition
      rw [answer] at named
      cases compiled : (engine.compile definition).1 with
      | error error => simp [compiled, Except.map] at named
      | ok plan =>
        rw [compiled] at named
        cases named
        rfl
    constructor
    · intro workflowId other found
      rw [workflows] at found
      split at found
      · next same =>
        cases found
        rw [entered, same]
      · exact coherent.known workflowId other found
    · intro webhookId
      have binding := register_binding answer webhookId
      split at binding
      · next declares =>
        obtain ⟨webhook, same, named⟩ := Option.map_eq_some_iff.mp declares
        rw [same] at binding
        subst entered
        refine .workflow registered webhook _ ?_ same named binding
        rw [workflows, if_pos rfl]
      · next undeclared =>
        split at binding
        · exact .nobody binding
        · next free =>
          refine (coherent.owned webhookId).of_same binding fun other known declares => ?_
          -- the workflow that owns the webhook is another one, as it declares the webhook
          have different : other.definition.id ≠ definition.id := by
            intro same
            rw [same] at known
            exact free ((declared_of_known known).trans declares)
          rw [workflows, if_neg different, known]

theorem unregister_workflows (engine : Engine S) (workflowId other : Uuid) :
    (engine.unregister workflowId).2.workflow? other =
      if other = workflowId then none else engine.workflow? other := by
  unfold unregister workflow?
  cases found : engine.workflows.get? workflowId with
  | none =>
    dsimp only
    split
    · next same => rw [same, found]
    · rfl
  | some registered =>
    have erased : Table.get? (engine.workflows.erase workflowId) other =
        if other = workflowId then none else engine.workflows.get? other := by
      split
      · next same => rw [same, Table.getEraseSame]
      · next different => exact Table.getEraseOther _ (Ne.symm different)
    dsimp only
    cases registered.definition.webhook? with
    | none => exact erased
    | some webhook => exact erased

theorem Coherent.unregister {engine : Engine S} (coherent : Coherent engine)
    (workflowId : Uuid) : Coherent (engine.unregister workflowId).2 := by
  constructor
  · intro other registered found
    rw [unregister_workflows] at found
    split at found
    · cases found
    · exact coherent.known other registered found
  · intro webhookId
    have binding := engine.unregister_binding workflowId webhookId
    split at binding
    · exact .nobody binding
    · next free =>
      refine (coherent.owned webhookId).of_same binding fun registered known declares => ?_
      have different : registered.definition.id ≠ workflowId := by
        intro same
        rw [same] at known
        exact free ((declared_of_known known).trans declares)
      rw [unregister_workflows, if_neg different, known]

/-- The gate serves the webhooks that are bound. -/
structure Serves (before after : Engine S) : Prop where
  workflows : after.workflows = before.workflows
  webhooks : after.webhooks = before.webhooks
  gate : Gate.Serves before.gate after.gate

theorem Serves.still {before after : Engine S} (workflows : after.workflows = before.workflows)
    (webhooks : after.webhooks = before.webhooks) (gate : after.gate = before.gate) :
    Serves before after := by
  refine ⟨workflows, webhooks, ?_⟩
  rw [gate]
  exact .still rfl rfl

theorem Serves.coherent {before after : Engine S} (serves : Serves before after)
    (coherent : Coherent before) : Coherent after := by
  have workflows (workflowId : Uuid) :
      after.workflow? workflowId = before.workflow? workflowId := by
    rw [workflow?, serves.workflows, workflow?]
  have owners (webhookId : String) :
      after.webhooks.get? webhookId = before.webhooks.get? webhookId := by rw [serves.webhooks]
  have settings (webhookId : String) :
      after.gate.webhook? webhookId = before.gate.webhook? webhookId := by
    rw [Gate.webhook?, serves.gate.webhooks, Gate.webhook?]
  constructor
  · intro workflowId registered found
    rw [workflows] at found
    exact coherent.known workflowId registered found
  · intro webhookId
    cases coherent.owned webhookId with
    | nobody unbound =>
      have unknown : before.gate.webhook? webhookId = none := congrArg Binding.settings unbound
      refine .nobody (Eq.trans ?_ unbound)
      rw [binding, owners, settings, serves.gate.windows webhookId unknown, binding]
    | workflow registered webhook window known declares named bound =>
      have owner : before.webhooks.get? webhookId = some registered.definition.id :=
        congrArg Binding.owner bound
      have setting : before.gate.webhook? webhookId = some webhook :=
        congrArg Binding.settings bound
      refine .workflow registered webhook (after.gate.window? webhookId)
        ((workflows _).trans known) declares named ?_
      rw [binding, owners, settings, owner, setting]

theorem compile_serves (engine : Engine S) (definition : Definition) :
    Serves engine (engine.compile definition).2 := by
  unfold compile
  split
  · exact .still rfl rfl rfl
  · split <;> exact .still rfl rfl rfl

theorem startExecution_serves (engine : Engine S) (plan : Plan) (tenantId : Uuid) (input : Json) :
    Serves engine (engine.startExecution plan tenantId input).2 := by
  have reserved := engine.gate.reserve_serves tenantId
  unfold startExecution startOn
  split
  · exact .still rfl rfl rfl
  · split <;>
    · next answer =>
      rw [answer] at reserved
      exact ⟨rfl, rfl, reserved⟩

theorem admitAndLaunch_serves (engine : Engine S) (webhook : Webhook) (plan : Plan)
    (request : WebhookRequest) : Serves engine (engine.admitAndLaunch webhook plan request).2 := by
  have admitted := engine.gate.admission_serves webhook.id webhook.tenantId request
  unfold admitAndLaunch
  split
  · next answer =>
    rw [answer] at admitted
    exact ⟨rfl, rfl, admitted⟩
  · next gate answer =>
    rw [answer] at admitted
    split
    · exact ⟨rfl, rfl, admitted.trans (gate.release_serves webhook.tenantId)⟩
    · exact ⟨rfl, rfl, admitted⟩

theorem foldl_absorb_serves (tenantId : Uuid) (engine : Engine S) (effects : List Effect) :
    Serves engine (effects.foldl (absorb tenantId) engine) := by
  induction effects generalizing engine with
  | nil => exact .still rfl rfl rfl
  | cons effect rest inductionHypothesis =>
    have first : Serves engine (absorb tenantId engine effect) := by
      cases effect with
      | releaseSlot => exact ⟨rfl, rfl, engine.gate.release_serves tenantId⟩
      | _ => exact .still rfl rfl rfl
    have others := inductionHypothesis (absorb tenantId engine effect)
    exact ⟨others.workflows.trans first.workflows, others.webhooks.trans first.webhooks,
      first.gate.trans others.gate⟩

theorem advance_serves (engine : Engine S) (now : Moment) (id : Uuid) (input : Job.Input) :
    Serves engine (engine.advance now id input).1 := by
  unfold advance
  split
  · exact .still rfl rfl rfl
  · next job found =>
    obtain ⟨workflows, webhooks, gate⟩ := foldl_absorb_serves
      (job.advance now input).1.run.execution.tenantId
      { engine with jobs := engine.jobs.insert id (job.advance now input).1 }
      (job.advance now input).2
    exact ⟨workflows, webhooks, gate⟩

theorem evict_serves (engine : Engine S) (id : Uuid) : Serves engine (engine.evict id) := by
  rcases engine.evict_forgets id with still | ⟨job, _, _, forgotten⟩
  · rw [still]
    exact .still rfl rfl rfl
  · rw [forgotten]
    exact .still rfl rfl rfl

/-- An execution that a request starts runs the plan, for the tenant of the webhook. -/
theorem admitAndLaunch_job {engine : Engine S} {webhook : Webhook} {plan : Plan}
    {request : WebhookRequest} {id : Uuid}
    (answer : (engine.admitAndLaunch webhook plan request).1 = .ok id) :
    ∃ job, (engine.admitAndLaunch webhook plan request).2.jobs.get? id = some job ∧
      job.run.plan = plan ∧ job.run.execution.tenantId = webhook.tenantId := by
  unfold admitAndLaunch at answer ⊢
  split at answer
  · cases answer
  · split at answer
    · cases answer
    · cases answer
      exact ⟨_, Table.getInsertSame _ _ _, rfl, rfl⟩

/-- An admitted request is billed to the tenant of the webhook. -/
theorem admitAndLaunch_bills {engine : Engine S} {webhook : Webhook} {plan : Plan}
    {request : WebhookRequest} {id : Uuid}
    (answer : (engine.admitAndLaunch webhook plan request).1 = .ok id) (tenantId : Uuid) :
    (engine.admitAndLaunch webhook plan request).2.gate.runningCount tenantId =
      engine.gate.runningCount tenantId + if tenantId = webhook.tenantId then 1 else 0 := by
  have starts := engine.admitAndLaunch_starts webhook plan request
  generalize engine.admitAndLaunch webhook plan request = result at answer starts
  cases starts with
  | refused error => cases answer
  | admitted owner bills job admits =>
    cases bills
    exact admits.running tenantId

variable [ExecutionStore S]

theorem Coherent.planFor {engine : Engine S} (coherent : Coherent engine) (now : Timestamp)
    (workflowId : Uuid) : Coherent (engine.planFor now workflowId).2 := by
  unfold Engine.planFor
  split
  · exact coherent
  · have loads : Serves engine { engine with
        store := (ExecutionStore.loadDefinition now workflowId engine.store).2 } :=
      .still rfl rfl rfl
    have loaded := loads.coherent coherent
    dsimp only
    split
    · exact loaded
    · exact loaded.register _

theorem save_serves (engine : Engine S) (now : Moment) (id : Uuid) :
    Serves engine (engine.save now id).1 := by
  unfold save
  split
  · exact .still rfl rfl rfl
  · next job _ =>
    split
    · obtain ⟨workflows, webhooks, gate⟩ := advance_serves
        { engine with store := (performSave job.run _ engine.store).2 } now id
        (.saved (performSave job.run _ engine.store).1)
      exact ⟨workflows, webhooks, gate⟩
    · exact .still rfl rfl rfl

theorem status_serves (engine : Engine S) (id : Uuid) : Serves engine (engine.status id).2 := by
  unfold status
  split
  · exact .still rfl rfl rfl
  · exact .still rfl rfl rfl

theorem cancel_serves (engine : Engine S) (now : Moment) (id : Uuid) :
    Serves engine (engine.cancel now id).2 := by
  unfold cancel requestCancel
  cases engine.job? engine.executor.name id with
  | none => exact .still rfl rfl rfl
  | some job => exact advance_serves engine now id .cancelRequested

/-- Every call keeps the tables coherent. -/
theorem Coherent.perform {engine : Engine S} (coherent : Coherent engine) (call : Call S) :
    Coherent (engine.perform call).2 := by
  cases call with
  | compile definition => exact (engine.compile_serves definition).coherent coherent
  | register definition => exact coherent.register definition
  | unregister workflowId => exact coherent.unregister workflowId
  | planFor now workflowId => exact coherent.planFor now workflowId
  | startExecution plan tenantId input =>
    exact (engine.startExecution_serves plan tenantId input).coherent coherent
  | startWorkflow now workflowId tenantId input =>
    have planned := coherent.planFor now workflowId
    show Coherent (engine.startWorkflow now workflowId tenantId input).2
    rcases engine.startWorkflow_cases now workflowId tenantId input with
      ⟨_, same⟩ | ⟨compiled, _, same⟩
    · rw [same]
      exact planned
    · rw [same]
      exact (startExecution_serves _ compiled.plan tenantId input).coherent planned
  | admitAndLaunch webhook plan request =>
    exact (engine.admitAndLaunch_serves webhook plan request).coherent coherent
  | triggerWebhook now webhookId request =>
    show Coherent (engine.triggerWebhook now webhookId request).2
    rcases engine.triggerWebhook_cases now webhookId request with
      ⟨_, same⟩ | ⟨workflowId, webhook, _, ⟨_, same⟩ | ⟨compiled, _, same⟩⟩
    · rw [same]
      exact coherent
    · rw [same]
      exact coherent.planFor now workflowId
    · rw [same]
      have planned := coherent.planFor now workflowId
      exact (admitAndLaunch_serves _ webhook compiled.plan request).coherent planned
  | advance now id input => exact (engine.advance_serves now id input).coherent coherent
  | save now id => exact (engine.save_serves now id).coherent coherent
  | evict id => exact (engine.evict_serves id).coherent coherent
  | status id => exact (engine.status_serves id).coherent coherent
  | cancel now id => exact (engine.cancel_serves now id).coherent coherent
  | setTenants tenants =>
    have serves : Serves engine (engine.perform (.setTenants tenants)).2 :=
      ⟨rfl, rfl, .still rfl rfl⟩
    exact serves.coherent coherent
  | setStore store =>
    have serves : Serves engine (engine.perform (.setStore store)).2 := .still rfl rfl rfl
    exact serves.coherent coherent

/-- The tables of webhooks are coherent in the whole course of an engine. -/
theorem Course.coherent {config : EngineConfig} {catalog : Catalog} {store : S} {ids : IdSource}
    {past : List (Occurrence S)} {engine : Engine S}
    (course : Course (create config catalog store ids) past engine) : Coherent engine := by
  induction course with
  | start => exact create_coherent config catalog store ids
  | next course call inductionHypothesis => exact inductionHypothesis.perform call

/-- A request to a webhook that is bound is one to the plan of its workflow. -/
theorem Coherent.triggers {engine : Engine S} (coherent : Coherent engine) {webhookId : String}
    {workflowId : Uuid} {registered : RegisteredWorkflow} {webhook : Webhook}
    (bound : engine.webhooks.get? webhookId = some workflowId)
    (known : engine.workflow? workflowId = some registered)
    (declares : registered.definition.webhook? = some webhook) (now : Timestamp)
    (request : WebhookRequest) :
    engine.triggerWebhook now webhookId request =
      engine.admitAndLaunch webhook registered.compiled.plan request := by
  obtain ⟨other, settings, found, _, declared, _, configured⟩ :=
    (coherent.owned webhookId).owner bound
  have sameWorkflow : registered = other := Option.some.inj (known.symm.trans found)
  subst sameWorkflow
  have sameWebhook : webhook = settings := Option.some.inj (declares.symm.trans declared)
  subst sameWebhook
  have planned : engine.planFor now workflowId = (.ok registered.compiled, engine) := by
    unfold Engine.planFor
    rw [known]
  unfold triggerWebhook
  rw [bound, configured]
  dsimp only
  rw [planned]

/-- The tables of webhooks, settings, bindings and windows belong together. -/
structure WebhooksCoherent (engine : Engine S) : Prop where
  keys : ∀ webhookId, (engine.webhooks.get? webhookId).isSome =
    (engine.gate.webhook? webhookId).isSome
  owned : ∀ webhookId workflowId, engine.webhooks.get? webhookId = some workflowId →
    ∃ registered webhook, engine.workflow? workflowId = some registered ∧
      registered.definition.id = workflowId ∧ registered.definition.webhook? = some webhook ∧
      webhook.id = webhookId ∧ engine.gate.webhook? webhookId = some webhook
  windows : ∀ webhookId, (engine.gate.window? webhookId).isSome →
    (engine.webhooks.get? webhookId).isSome
  refused : ∀ definition error, (engine.register definition).1 = .error error →
    (engine.register definition).2 = engine
  triggered : ∀ webhookId workflowId registered webhook,
    engine.webhooks.get? webhookId = some workflowId →
    engine.workflow? workflowId = some registered →
    registered.definition.webhook? = some webhook → ∀ now request,
      engine.triggerWebhook now webhookId request =
        engine.admitAndLaunch webhook registered.compiled.plan request ∧
      ∀ id, (engine.triggerWebhook now webhookId request).1 = .ok id →
        (∃ job, (engine.triggerWebhook now webhookId request).2.jobs.get? id = some job ∧
          job.run.plan = registered.compiled.plan ∧
          job.run.execution.tenantId = webhook.tenantId) ∧
        ∀ tenantId, (engine.triggerWebhook now webhookId request).2.gate.runningCount tenantId =
          engine.gate.runningCount tenantId + if tenantId = webhook.tenantId then 1 else 0

/-- The tables of webhooks belong together along every course. -/
theorem webhooks_coherent {config : EngineConfig} {catalog : Catalog} {store : S} {ids : IdSource}
    {past : List (Occurrence S)} {engine : Engine S}
    (course : Course (create config catalog store ids) past engine) : WebhooksCoherent engine := by
  have coherent := course.coherent
  exact
    { keys := fun webhookId => (coherent.owned webhookId).keys
      owned := fun webhookId _ => (coherent.owned webhookId).owner
      windows := fun webhookId => (coherent.owned webhookId).windows
      refused := fun _ _ refused => register_refused refused
      triggered := fun webhookId workflowId registered webhook bound known declares now request => by
        rw [coherent.triggers bound known declares now request]
        exact ⟨rfl, fun id answer => ⟨admitAndLaunch_job answer, admitAndLaunch_bills answer⟩⟩ }

/-- One workflow takes the webhook over from another one, and then there is a request. -/
def billed : List (Occurrence MemoryStore) × Engine MemoryStore :=
  replay contested.1 contested.2 [.triggerWebhook ⟨0, 0⟩ "hook" ⟨[], [], ⟨0, 0⟩⟩]

/-- The request has opened a window and is billed to the tenant of the second workflow. -/
theorem billed_webhooks_coherent :
    Course bare billed.1 billed.2 ∧ WebhooksCoherent billed.2 ∧
    billed.2.webhooks.get? "hook" = some ⟨2⟩ ∧
    (billed.2.gate.window? "hook").isSome = true ∧
    billed.2.gate.runningCount ⟨2⟩ = 1 := by
  have course : Course bare billed.1 billed.2 := (Course.start.replay _).replay _
  exact ⟨course, webhooks_coherent course, by decide +kernel, by decide +kernel,
    by decide +kernel⟩

end Engine

end WorkflowEngine
