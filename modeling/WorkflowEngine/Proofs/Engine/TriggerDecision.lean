/-
This file proves how a request to a webhook is decided. The first check that fails decides, each
failure leaves its own trace in the gate and no execution, and a success leaves exactly one.
-/

import WorkflowEngine.Proofs.Admission.Refusals
import WorkflowEngine.Proofs.Engine.Capacity

namespace WorkflowEngine

open Time Text

/-- A blank body carries null, and a body that is no JSON its text. -/
inductive WebhookRequest.Carries (request : WebhookRequest) : Json → Prop where
  | blank (blank : ∀ byte ∈ request.body, byte ∈ [9, 10, 12, 13, 32]) : Carries request .null
  | json {value : Json} (written : ∃ byte ∈ request.body, byte ∉ [9, 10, 12, 13, 32])
      (read : Json.parseBytes? request.body = some value) : Carries request value.normalize
  | text (written : ∃ byte ∈ request.body, byte ∉ [9, 10, 12, 13, 32])
      (unread : Json.parseBytes? request.body = none) :
    Carries request (.object [("raw", .string (Utf8.decodeLossy request.body))])

theorem WebhookRequest.triggerInput_carried (request : WebhookRequest) :
    request.Carries request.triggerInput := by
  have blanks (byte : UInt8) :
      isAsciiBlank byte = true ↔ byte ∈ ([9, 10, 12, 13, 32] : List UInt8) := by
    simp only [isAsciiBlank, Bool.or_eq_true, beq_iff_eq, List.mem_cons, List.not_mem_nil, or_false]
    tauto
  unfold triggerInput
  split
  · next blank =>
    exact .blank fun byte member => (blanks byte).mp (List.all_eq_true.mp blank byte member)
  · next some =>
    have written : ∃ byte ∈ request.body, byte ∉ ([9, 10, 12, 13, 32] : List UInt8) := by
      by_contra none
      exact some (List.all_eq_true.mpr fun byte member => (blanks byte).mpr
        (by_contra fun other => none ⟨byte, member, other⟩))
    split
    · next value read => exact .json written read
    · next unread => exact .text written unread

namespace Engine

variable {S : Type}

/-- A webhook is served if it is bound to a registered workflow that declares it. -/
structure Served (engine : Engine S) (webhookId : String) (registered : RegisteredWorkflow)
    (webhook : Webhook) : Prop where
  bound : engine.webhooks.get? webhookId = some registered.definition.id
  known : engine.workflow? registered.definition.id = some registered
  declares : registered.definition.webhook? = some webhook
  named : webhook.id = webhookId
  configured : engine.gate.webhook? webhookId = some webhook

/-- A plan is too long for a tenant if it has more steps than the tenant may have. -/
def TooLong (engine : Engine S) (tenantId : Uuid) (plan : Plan) : Prop :=
  (engine.gate.tenants.limits tenantId).maxStepsPerWorkflow.toNat < plan.length

/-- A gate has let a request to a webhook pass and has counted an amount for its tenant. -/
structure Passed (engine : Engine S) (webhook : Webhook) (request : WebhookRequest) (gate : Gate)
    (amount : Nat) : Prop where
  confined : engine.gate.Confined gate webhook.id
  counts : engine.gate.CountsOnce gate webhook.id webhook.rateLimit request.receivedAt
  running : ∀ tenantId, gate.runningCount tenantId =
    engine.gate.runningCount tenantId + if tenantId = webhook.tenantId then amount else 0

section

variable {engine : Engine S} {webhook : Webhook} {request : WebhookRequest}

/-- In a coherent engine a webhook is either served or unknown. -/
theorem Coherent.served (coherent : Coherent engine) (webhookId : String) :
    (engine.webhooks.get? webhookId = none ∧ engine.gate.webhook? webhookId = none) ∨
    ∃ registered webhook, engine.Served webhookId registered webhook := by
  cases bound : engine.webhooks.get? webhookId with
  | none =>
    have keys := (coherent.owned webhookId).keys
    rw [bound, Option.isSome_none, Eq.comm, Option.isSome_eq_false_iff, Option.isNone_iff_eq_none]
      at keys
    exact .inl ⟨rfl, keys⟩
  | some workflowId =>
    obtain ⟨registered, webhook, known, rfl, declares, named, configured⟩ :=
      (coherent.owned webhookId).owner bound
    exact .inr ⟨registered, webhook, bound, known, declares, named, configured⟩

/-- What the gate refuses starts nothing. -/
theorem admitAndLaunch_refused {error : AdmissionError}
    (refused : (engine.gate.admission webhook.id webhook.tenantId request).1 = .error error)
    (plan : Plan) : engine.admitAndLaunch webhook plan request =
      (.error (.admission error),
        { engine with gate := (engine.gate.admission webhook.id webhook.tenantId request).2 }) := by
  unfold admitAndLaunch
  generalize engine.gate.admission webhook.id webhook.tenantId request = result at refused ⊢
  obtain ⟨answer, gate⟩ := result
  dsimp only at refused
  subst refused
  rfl

/-- A plan that is too long gives the slot back. -/
theorem admitAndLaunch_admitted {input : Json}
    (admitted : (engine.gate.admission webhook.id webhook.tenantId request).1 = .ok input)
    (plan : Plan) :
    let gate := (engine.gate.admission webhook.id webhook.tenantId request).2
    (engine.TooLong webhook.tenantId plan → engine.admitAndLaunch webhook plan request =
      (.error (.admission (.stepLimitExceeded plan.length
        (engine.gate.tenants.limits webhook.tenantId).maxStepsPerWorkflow)),
          { engine with gate := gate.release webhook.tenantId })) ∧
    (¬engine.TooLong webhook.tenantId plan → engine.admitAndLaunch webhook plan request =
      (.ok engine.ids.draw.1, ({ engine with gate := gate }.launch engine.executor plan
        webhook.tenantId input).2)) := by
  have tenants := (engine.gate.admission_confined webhook.id webhook.tenantId request).tenants
  unfold admitAndLaunch
  generalize engine.gate.admission webhook.id webhook.tenantId request = result
    at admitted tenants ⊢
  obtain ⟨answer, gate⟩ := result
  dsimp only at admitted tenants ⊢
  subst admitted
  simp only [Gate.checkStepLimit, tenants, TooLong]
  constructor
  · intro long
    rw [if_pos long]
  · intro short
    rw [if_neg short]
    rfl

end

variable [ExecutionStore S]

/-- The first check that fails decides, in the order in which they are listed. -/
inductive Decision (past : List (Occurrence S)) (engine : Engine S) (webhookId : String)
    (request : WebhookRequest) : Except EngineError Uuid × Engine S → Prop where
  | unknownWebhook (unbound : engine.webhooks.get? webhookId = none)
      (unconfigured : engine.gate.webhook? webhookId = none) :
    Decision past engine webhookId request
      (.error (.admission (.unknownWebhook webhookId)), engine)
  | authenticationFailed {registered : RegisteredWorkflow} {webhook : Webhook}
      (served : engine.Served webhookId registered webhook)
      (forged : webhook.auth.accepts request = false) :
    Decision past engine webhookId request (.error (.admission .authenticationFailed), engine)
  | rateLimited {registered : RegisteredWorkflow} {webhook : Webhook} {gate : Gate}
      (served : engine.Served webhookId registered webhook)
      (authentic : webhook.auth.accepts request = true)
      (spent : engine.gate.Spent webhookId webhook.rateLimit request.receivedAt)
      (confined : engine.gate.Confined gate webhookId)
      (idle : webhook.rateLimit.limit ≠ 0 →
        ∀ other, gate.use? other = engine.gate.use? other)
      (running : ∀ tenantId, gate.runningCount tenantId = engine.gate.runningCount tenantId)
      (retryAfter : Duration) :
    Decision past engine webhookId request
      (.error (.admission (.rateLimited webhookId retryAfter)), { engine with gate := gate })
  | tenantAtCapacity {registered : RegisteredWorkflow} {webhook : Webhook} {gate : Gate}
      (served : engine.Served webhookId registered webhook)
      (authentic : webhook.auth.accepts request = true)
      (unspent : ¬engine.gate.Spent webhookId webhook.rateLimit request.receivedAt)
      (full : engine.gate.Full webhook.tenantId)
      (passed : engine.Passed webhook request gate 0) :
    Decision past engine webhookId request
      (.error (.admission (.tenantAtCapacity webhook.tenantId
        (engine.gate.tenants.limits webhook.tenantId).maxConcurrentExecutions)),
        { engine with gate := gate })
  | stepLimitExceeded {registered : RegisteredWorkflow} {webhook : Webhook} {gate : Gate}
      (served : engine.Served webhookId registered webhook)
      (authentic : webhook.auth.accepts request = true)
      (unspent : ¬engine.gate.Spent webhookId webhook.rateLimit request.receivedAt)
      (room : ¬engine.gate.Full webhook.tenantId)
      (long : engine.TooLong webhook.tenantId registered.compiled.plan)
      (passed : engine.Passed webhook request gate 0) :
    Decision past engine webhookId request
      (.error (.admission (.stepLimitExceeded registered.compiled.plan.length
        (engine.gate.tenants.limits webhook.tenantId).maxStepsPerWorkflow)),
        { engine with gate := gate })
  | started {registered : RegisteredWorkflow} {webhook : Webhook} {gate : Gate} {job : Job}
      (served : engine.Served webhookId registered webhook)
      (authentic : webhook.auth.accepts request = true)
      (unspent : ¬engine.gate.Spent webhookId webhook.rateLimit request.receivedAt)
      (room : ¬engine.gate.Full webhook.tenantId)
      (short : ¬engine.TooLong webhook.tenantId registered.compiled.plan)
      (passed : engine.Passed webhook request gate 1)
      (runs : job.run.plan = registered.compiled.plan)
      (named : job.run.execution.id = engine.ids.draw.1)
      (owner : job.run.execution.tenantId = webhook.tenantId)
      (input : request.Carries job.run.execution.triggerInput)
      (shown : job.snapshot = job.run.execution)
      (fresh : (admitted past).length < 2 ^ 128 →
        engine.ids.draw.1 ∉ (admitted past).map Prod.fst ∧
          engine.jobs.get? engine.ids.draw.1 = none) :
    Decision past engine webhookId request
      (.ok engine.ids.draw.1,
        { engine with
          gate := gate
          ids := engine.ids.draw.2
          jobs := engine.jobs.insert engine.ids.draw.1 job })

section

variable {config : EngineConfig} {catalog : Catalog} {store : S} {ids : IdSource}
  {past : List (Occurrence S)} {engine : Engine S} {webhookId : String}
  {registered : RegisteredWorkflow} {webhook : Webhook} {request : WebhookRequest}

/-- The next identifier is fresh as long as not all have been drawn. -/
theorem Course.drawn_fresh (course : Course (create config catalog store ids) past engine)
    (few : (admitted past).length < 2 ^ 128) :
    engine.ids.draw.1 ∉ (admitted past).map Prod.fst ∧
      engine.jobs.get? engine.ids.draw.1 = none := by
  have unknown : engine.ids.draw.1 ∉ (admitted past).map Prod.fst := by
    obtain ⟨next, drawn⟩ := course.drawn
    rw [drawn, List.mem_map]
    rintro ⟨offset, earlier, same⟩
    rw [List.mem_range] at earlier
    have numbers := congrArg (fun id => id.value.toNat) same
    simp only [IdSource.draw, next, BitVec.toNat_ofNat] at numbers
    omega
  refine ⟨unknown, Option.eq_none_iff_forall_not_mem.mpr fun job found => unknown ?_⟩
  have balanced := course.balanced (course.distinct (Nat.le_of_lt few))
  exact List.mem_map.mpr ⟨_, (balanced.accounted _ job found).billed, rfl⟩

/-- The checks of the gate and of the plan decide on a served webhook. -/
theorem admitAndLaunch_decided (served : engine.Served webhookId registered webhook)
    (fresh : (admitted past).length < 2 ^ 128 →
      engine.ids.draw.1 ∉ (admitted past).map Prod.fst ∧
        engine.jobs.get? engine.ids.draw.1 = none) :
    Decision past engine webhookId request
      (engine.admitAndLaunch webhook registered.compiled.plan request) := by
  obtain rfl := served.named
  have confined := engine.gate.admission_confined webhook.id webhook.tenantId request
  obtain ⟨counting, sparing⟩ := engine.gate.admission_counted webhook.id webhook.tenantId request
  by_cases authentic : webhook.auth.accepts request = true
  · by_cases spent : engine.gate.Spent webhook.id webhook.rateLimit request.receivedAt
    · obtain ⟨retryAfter, answer⟩ := Gate.admission_limited served.configured authentic spent
      rw [admitAndLaunch_refused (congrArg Prod.fst answer)]
      have running := (sparing _ (congrArg Prod.fst answer)).running
      refine .rateLimited served authentic spent confined ?_ (by simpa using running) retryAfter
      rw [answer]
      exact Gate.checkRateLimit_idle spent
    · have counts := Gate.admission_counts served.configured authentic spent
      obtain ⟨refused, admitted⟩ := Gate.admission_passed served.configured authentic spent
      by_cases full : engine.gate.Full webhook.tenantId
      · rw [admitAndLaunch_refused (refused full)]
        exact .tenantAtCapacity served authentic spent full
          ⟨confined, counts, (sparing _ (refused full)).running⟩
      · have counted := (counting _ (admitted full)).2
        obtain ⟨tooLong, fits⟩ :=
          admitAndLaunch_admitted (admitted full) registered.compiled.plan
        by_cases long : engine.TooLong webhook.tenantId registered.compiled.plan
        · rw [tooLong long]
          exact .stepLimitExceeded served authentic spent full long
            ⟨confined.release _, counts.congr (Gate.release_window _ _ _), counted.undone.running⟩
        · rw [fits long]
          exact .started served authentic spent full long ⟨confined, counts, counted.running⟩
            rfl rfl rfl request.triggerInput_carried rfl fresh
  · have forged : webhook.auth.accepts request = false := by simpa using authentic
    have answer := Gate.admission_forged served.configured forged
    rw [admitAndLaunch_refused (congrArg Prod.fst answer), answer]
    exact .authenticationFailed served forged

/-- Along every course each request is decided by the first check that fails. -/
theorem trigger_decided (course : Course (create config catalog store ids) past engine)
    (now : Timestamp) (webhookId : String) (request : WebhookRequest) :
    Decision past engine webhookId request (engine.triggerWebhook now webhookId request) := by
  have coherent := course.coherent
  rcases coherent.served webhookId with ⟨unbound, unconfigured⟩ | ⟨registered, webhook, served⟩
  · have answer : engine.triggerWebhook now webhookId request =
        (.error (.admission (.unknownWebhook webhookId)), engine) := by
      simp only [triggerWebhook, unbound]
    rw [answer]
    exact .unknownWebhook unbound unconfigured
  · rw [coherent.triggers served.bound served.known served.declares]
    exact admitAndLaunch_decided served fun few => course.drawn_fresh few

end

/-- The tenant of the webhook may run nothing. -/
def closed : List (Occurrence MemoryStore) × Engine MemoryStore :=
  replay contested.1 contested.2 [.setTenants ⟨⟨0, 100⟩, []⟩]

/-- This request brings a list with one truth value. -/
def asking : WebhookRequest :=
  ⟨[], Utf8.encode " [true]", ⟨7, 0⟩⟩

/-- A request that finds no room is refused, and one that finds room is started. -/
theorem closed_trigger_decided :
    Course bare closed.1 closed.2 ∧
    Decision closed.1 closed.2 "hook" ⟨[], [], ⟨7, 0⟩⟩
      (closed.2.triggerWebhook ⟨7, 0⟩ "hook" ⟨[], [], ⟨7, 0⟩⟩) ∧
    (closed.2.triggerWebhook ⟨7, 0⟩ "hook" ⟨[], [], ⟨7, 0⟩⟩).1 =
      .error (.admission (.tenantAtCapacity ⟨2⟩ 0)) ∧
    closed.2.gate.use? "hook" = none ∧
    (closed.2.triggerWebhook ⟨7, 0⟩ "hook" ⟨[], [], ⟨7, 0⟩⟩).2.gate.use? "hook" =
      some (⟨7, 0⟩, 1) ∧
    Decision contested.1 contested.2 "hook" asking
      (contested.2.triggerWebhook ⟨7, 0⟩ "hook" asking) ∧
    (contested.2.triggerWebhook ⟨7, 0⟩ "hook" asking).1.toOption = some ⟨0⟩ ∧
    ((contested.2.triggerWebhook ⟨7, 0⟩ "hook" asking).2.jobs.get? ⟨0⟩).map
      (fun job => job.run.execution.triggerInput) = some (.array [.bool true]) ∧
    (contested.2.triggerWebhook ⟨7, 0⟩ "hook" asking).2.gate.use? "hook" =
      some (⟨7, 0⟩, 1) := by
  have first : Course bare contested.1 contested.2 := Course.start.replay _
  have course : Course bare closed.1 closed.2 := first.replay _
  exact ⟨course, trigger_decided course _ _ _, by decide +kernel, by decide +kernel,
    by decide +kernel, trigger_decided first _ _ _, by decide +kernel, by decide +kernel,
    by decide +kernel⟩

end Engine

end WorkflowEngine
