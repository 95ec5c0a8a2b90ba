/-
This file holds the courses that an engine may take: what its callers ask for, what happens to its
executions, and what others change in the table of tenants and in the store, all in any order.
-/

import WorkflowEngine.Engine.Progress
import WorkflowEngine.Engine.Start
import WorkflowEngine.Store.Memory

namespace WorkflowEngine.Engine

open Time

/-- The halves of a start and of a trigger are calls of their own. -/
inductive Call (S : Type) where
  | compile (definition : Definition)
  | register (definition : Definition)
  | unregister (workflowId : Uuid)
  | planFor (now : Timestamp) (workflowId : Uuid)
  | startExecution (plan : Plan) (tenantId : Uuid) (input : Json)
  | startWorkflow (now : Timestamp) (workflowId tenantId : Uuid) (input : Json)
  | admitAndLaunch (webhook : Webhook) (plan : Plan) (request : WebhookRequest)
  | triggerWebhook (now : Timestamp) (webhookId : String) (request : WebhookRequest)
  | advance (now : Moment) (id : Uuid) (input : Job.Input)
  | save (now : Moment) (id : Uuid)
  | evict (id : Uuid)
  | status (id : Uuid)
  | cancel (now : Moment) (id : Uuid)
  | setTenants (tenants : TenantRegistry)
  | setStore (store : S)

/-- A reply holds what a call answers, or what an execution tells. -/
inductive Reply where
  | compiled (answer : Except CompileError CompiledPlan)
  | registered (answer : Except CompileError RegisteredWorkflow)
  | unregistered (known : Bool)
  | planned (answer : Except EngineError CompiledPlan)
  | started (answer : Except EngineError Uuid)
  | shown (answer : Except EngineError Execution)
  | cancelled (answer : Except EngineError Unit)
  | moved (effects : List Effect)
  | done

variable {S : Type} [ExecutionStore S]

def perform (engine : Engine S) : Call S → Reply × Engine S
  | .compile definition =>
    let (answer, engine) := engine.compile definition
    (.compiled answer, engine)
  | .register definition =>
    let (answer, engine) := engine.register definition
    (.registered answer, engine)
  | .unregister workflowId =>
    let (known, engine) := engine.unregister workflowId
    (.unregistered known, engine)
  | .planFor now workflowId =>
    let (answer, engine) := engine.planFor now workflowId
    (.planned answer, engine)
  | .startExecution plan tenantId input =>
    let (answer, engine) := engine.startExecution plan tenantId input
    (.started (answer.mapError .admission), engine)
  | .startWorkflow now workflowId tenantId input =>
    let (answer, engine) := engine.startWorkflow now workflowId tenantId input
    (.started answer, engine)
  | .admitAndLaunch webhook plan request =>
    let (answer, engine) := engine.admitAndLaunch webhook plan request
    (.started answer, engine)
  | .triggerWebhook now webhookId request =>
    let (answer, engine) := engine.triggerWebhook now webhookId request
    (.started answer, engine)
  | .advance now id input =>
    let (engine, effects) := engine.advance now id input
    (.moved effects, engine)
  | .save now id =>
    let (engine, effects) := engine.save now id
    (.moved effects, engine)
  | .evict id => (.done, engine.evict id)
  | .status id =>
    let (answer, engine) := engine.status id
    (.shown answer, engine)
  | .cancel now id =>
    let (answer, engine) := engine.cancel now id
    (.cancelled answer, engine)
  | .setTenants tenants => (.done, engine.modifyGate fun gate => { gate with tenants := tenants })
  | .setStore store => (.done, { engine with store := store })

/-- An occurrence is one call, with the engine before it. -/
structure Occurrence (S : Type) where
  before : Engine S
  call : Call S

namespace Occurrence

def reply (occurrence : Occurrence S) : Reply :=
  (occurrence.before.perform occurrence.call).1

def after (occurrence : Occurrence S) : Engine S :=
  (occurrence.before.perform occurrence.call).2

end Occurrence

/-- The calls of a course may come in any order. -/
inductive Course (start : Engine S) : List (Occurrence S) → Engine S → Prop where
  | start : Course start [] start
  | next {past : List (Occurrence S)} {engine : Engine S} (course : Course start past engine)
    (call : Call S) : Course start (past ++ [⟨engine, call⟩]) (engine.perform call).2

def replay (past : List (Occurrence S)) (engine : Engine S) :
    List (Call S) → List (Occurrence S) × Engine S
  | [] => (past, engine)
  | call :: rest => replay (past ++ [⟨engine, call⟩]) (engine.perform call).2 rest

/-- Every script goes on with a course. -/
theorem Course.replay {start engine : Engine S} {past : List (Occurrence S)}
    (course : Course start past engine) (script : List (Call S)) :
    Course start (Engine.replay past engine script).1 (Engine.replay past engine script).2 := by
  induction script generalizing past engine with
  | nil => exact course
  | cons call rest inductionHypothesis => exact inductionHypothesis (course.next call)

/-- In the middle of a course stands the course up to there. -/
theorem Course.upTo {start engine : Engine S} {past earlier later : List (Occurrence S)}
    {occurrence : Occurrence S} (course : Course start past engine)
    (listed : past = earlier ++ occurrence :: later) : Course start earlier occurrence.before := by
  induction course generalizing later with
  | start => simp at listed
  | @next past engine course call inductionHypothesis =>
    rcases List.eq_nil_or_concat later with rfl | ⟨front, last, rfl⟩
    · obtain ⟨rfl, same⟩ := List.append_inj' listed rfl
      cases same
      exact course
    · rw [List.concat_eq_append, ← List.cons_append, ← List.append_assoc] at listed
      exact inductionHypothesis (List.append_inj' listed rfl).1

/-- A start fails in the search for the plan, or starts the plan that was found. -/
theorem startWorkflow_cases (engine : Engine S) (now : Timestamp) (workflowId tenantId : Uuid)
    (input : Json) :
    (∃ error, engine.startWorkflow now workflowId tenantId input =
      (.error error, (engine.planFor now workflowId).2)) ∨
    ∃ compiled, (engine.planFor now workflowId).1 = .ok compiled ∧
      engine.startWorkflow now workflowId tenantId input =
        let started :=
          (engine.planFor now workflowId).2.startExecution compiled.plan tenantId input
        (started.1.mapError .admission, started.2) := by
  unfold startWorkflow
  rcases engine.planFor now workflowId with ⟨error | compiled, after⟩
  · exact .inl ⟨error, rfl⟩
  · exact .inr ⟨compiled, rfl, rfl⟩

/-- A request fails in the search for the plan, or is admitted to it. -/
theorem triggerWebhook_cases (engine : Engine S) (now : Timestamp) (webhookId : String)
    (request : WebhookRequest) :
    (∃ error, engine.triggerWebhook now webhookId request = (.error error, engine)) ∨
    ∃ workflowId webhook, engine.gate.webhook? webhookId = some webhook ∧
      ((∃ error, engine.triggerWebhook now webhookId request =
        (.error error, (engine.planFor now workflowId).2)) ∨
      ∃ compiled, (engine.planFor now workflowId).1 = .ok compiled ∧
        engine.triggerWebhook now webhookId request =
          (engine.planFor now workflowId).2.admitAndLaunch webhook compiled.plan request) := by
  unfold triggerWebhook
  cases engine.webhooks.get? webhookId with
  | none => exact .inl ⟨_, rfl⟩
  | some workflowId =>
    cases engine.gate.webhook? webhookId with
    | none => exact .inl ⟨_, rfl⟩
    | some webhook =>
      refine .inr ⟨workflowId, webhook, rfl, ?_⟩
      dsimp only
      rcases engine.planFor now workflowId with ⟨error | compiled, after⟩
      · exact .inl ⟨error, rfl⟩
      · exact .inr ⟨compiled, rfl, rfl⟩

/-- This engine is new and knows one type of nodes. -/
def bare : Engine MemoryStore :=
  create {} [("passthrough", .passthrough)] {} ⟨0⟩

end WorkflowEngine.Engine
