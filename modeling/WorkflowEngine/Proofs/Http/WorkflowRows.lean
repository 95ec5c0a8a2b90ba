/-
This file proves that the row of a workflow is left alone by all that happens at the interface, but
for a demand that creates or deletes this workflow and is not refused.
-/

import WorkflowEngine.Proofs.Http.FailedRequests

namespace WorkflowEngine

open Json Time

/-- The store of an interface may be the database itself. -/
def DatabaseAccess.whole : DatabaseAccess Database where
  get := id
  put _ database := database

namespace Database

section

variable {database : Database} {id : Uuid}

theorem run_workflows {A : Type} {statement : Statement A}
    (keeps : ∀ before : Database, (statement before).2.workflows = before.workflows)
    (database : Database) : (run statement database).2.workflows = database.workflows := by
  rcases run_cases statement database with ⟨_, worked⟩ | ⟨left, failed⟩
  · rw [worked, keeps]
  · rw [failed]

theorem query_workflows {A : Type} (read : Database → Except DatabaseError A)
    (database : Database) : (query read database).2.workflows = database.workflows :=
  run_workflows (fun _ => rfl) database

theorem upsertExecution_workflows (row : ExecutionRow) (database : Database) :
    (upsertExecution row database).2.workflows = database.workflows :=
  run_workflows (fun _ => rfl) database

theorem upsertNode_workflows (row : NodeRow) (database : Database) :
    (upsertNode row database).2.workflows = database.workflows := by
  refine run_workflows (fun before => ?_) database
  split <;> rfl

/-- Workflows are loaded without a change of the workflows. -/
theorem loadDefinition_workflows (now : Timestamp) (workflowId : Uuid) (database : Database) :
    (loadDefinition now workflowId database).2.workflows = database.workflows := by
  have queried := query_workflows
    (fun database => found (database.workflows.get? workflowId)) database
  unfold loadDefinition getWorkflow
  split
  all_goals
    next answer =>
    rw [answer] at queried
    exact queried

/-- Executions are loaded without a change of the workflows. -/
theorem loadExecution_workflows (executionId : Uuid) (database : Database) :
    (loadExecution executionId database).2.workflows = database.workflows := by
  have header := query_workflows
    (fun database => found (database.executions.get? executionId)) database
  unfold loadExecution getExecution
  split
  · next answer =>
    rw [answer] at header
    exact header
  · next between answer =>
    rw [answer] at header
    have rows := query_workflows (fun database => .ok
      ((database.nodes.filter fun entry => entry.1.1 == executionId).map Prod.snd)) between
    unfold listNodes
    split
    all_goals
      next answer =>
      rw [answer] at rows
      exact rows.trans header

/-- A workflow that is stored leaves the rows of the others alone. -/
theorem upsertWorkflow_other {row : WorkflowRow} (other : row.id ≠ id) (database : Database) :
    (upsertWorkflow row database).2.workflows.get? id = database.workflows.get? id := by
  unfold upsertWorkflow
  rcases run_cases _ database with ⟨_, worked⟩ | ⟨left, failed⟩
  · rw [worked]
    exact Table.getInsertOther _ _ other
  · rw [failed]

/-- A workflow that is deleted leaves the rows of the others alone. -/
theorem deleteWorkflow_other {deleted : Uuid} (other : deleted ≠ id) (database : Database) :
    (deleteWorkflow deleted database).2.workflows.get? id = database.workflows.get? id := by
  unfold deleteWorkflow
  rcases run_cases _ database with ⟨_, worked⟩ | ⟨left, failed⟩
  · rw [worked]
    split
    · exact Table.getEraseOther _ other
    · rfl
  · rw [failed]

end

end Database

namespace Engine

section

variable (engine : Engine Database)

theorem planFor_workflows (now : Timestamp) (workflowId : Uuid) :
    (engine.planFor now workflowId).2.store.workflows = engine.store.workflows := by
  have loaded := Database.loadDefinition_workflows now workflowId engine.store
  unfold planFor
  split
  · rfl
  · dsimp only
    split
    · exact loaded
    · rw [register_store]
      exact loaded

theorem startWorkflow_workflows (now : Timestamp) (workflowId tenantId : Uuid) (input : Json) :
    (engine.startWorkflow now workflowId tenantId input).2.store.workflows =
      engine.store.workflows := by
  rcases engine.startWorkflow_cases now workflowId tenantId input with
    ⟨_, same⟩ | ⟨compiled, _, same⟩
  · rw [same, planFor_workflows]
  · rw [same, startExecution_store, planFor_workflows]

theorem triggerWebhook_workflows (now : Timestamp) (webhookId : String)
    (request : WebhookRequest) :
    (engine.triggerWebhook now webhookId request).2.store.workflows = engine.store.workflows := by
  rcases engine.triggerWebhook_cases now webhookId request with
    ⟨_, same⟩ | ⟨workflowId, webhook, _, ⟨_, same⟩ | ⟨compiled, _, same⟩⟩
  · rw [same]
  · rw [same, planFor_workflows]
  · rw [same, admitAndLaunch_store, planFor_workflows]

theorem save_workflows (now : Moment) (id : Uuid) :
    (engine.save now id).1.store.workflows = engine.store.workflows := by
  unfold save
  split
  · rfl
  · split
    · rw [advance_store]
      unfold performSave
      dsimp only
      split
      · exact Database.upsertExecution_workflows _ _
      · exact Database.upsertNode_workflows _ _
    · rfl

theorem load_workflows (id : Uuid) :
    (engine.load id).2.store.workflows = engine.store.workflows :=
  Database.loadExecution_workflows id engine.store

theorem status_workflows (id : Uuid) :
    (engine.status id).2.store.workflows = engine.store.workflows := by
  unfold status
  split
  · rfl
  · exact engine.load_workflows id

theorem cancel_workflows (now : Moment) (id : Uuid) :
    (engine.cancel now id).2.store.workflows = engine.store.workflows := by
  unfold cancel requestCancel
  cases engine.job? engine.executor.name id with
  | none => exact engine.load_workflows id
  | some job => exact congrArg Database.workflows (engine.advance_store now id .cancelRequested)

/-- Nothing that the engine does by itself changes the workflows of its database. -/
theorem perform_workflows (call : Call Database) (unset : ∀ store, call ≠ .setStore store) :
    (engine.perform call).2.store.workflows = engine.store.workflows := by
  cases call with
  | compile definition => exact congrArg _ (engine.compile_store definition)
  | register definition => exact congrArg _ (engine.register_store definition)
  | unregister workflowId => exact congrArg _ (engine.unregister_store workflowId)
  | planFor now workflowId => exact engine.planFor_workflows now workflowId
  | startExecution plan tenantId input =>
    exact congrArg _ (engine.startExecution_store plan tenantId input)
  | startWorkflow now workflowId tenantId input =>
    exact engine.startWorkflow_workflows now workflowId tenantId input
  | admitAndLaunch webhook plan request =>
    exact congrArg _ (engine.admitAndLaunch_store webhook plan request)
  | triggerWebhook now webhookId request =>
    exact engine.triggerWebhook_workflows now webhookId request
  | advance now id input => exact congrArg _ (engine.advance_store now id input)
  | save now id => exact engine.save_workflows now id
  | evict id => exact congrArg _ (engine.evict_store id)
  | status id => exact engine.status_workflows id
  | cancel now id => exact engine.cancel_workflows now id
  | setTenants tenants => rfl
  | setStore store => exact absurd rfl (unset store)

end

end Engine

/-- A demand writes a workflow if it creates the workflow or deletes it. -/
def Demand.Writes (id : Uuid) : Demand → Prop
  | .create definition => definition.id = id
  | .delete workflowId => workflowId = id
  | _ => False

namespace HttpState

section

variable {S : Type} {state : HttpState S} {access : DatabaseAccess S}

theorem registerWorkflow_store (state : HttpState S) (definition : Definition) :
    (state.registerWorkflow definition).2.engine.store = state.engine.store := by
  have registered : (state.call fun engine => engine.register definition).2.engine.store =
      state.engine.store := state.engine.register_store definition
  unfold registerWorkflow
  split
  all_goals
    next answer =>
    rw [answer] at registered
    exact registered

/-- A definition does not compile, or the statement that stores it is run. -/
theorem createWorkflow_store (pool : state.database = some access) (now : Timestamp)
    (definition : Definition) :
    (∃ error, state.createWorkflow now definition =
      (.error (.engine (.compile error)), state)) ∨
    (state.createWorkflow now definition).2.engine.store =
      access.put state.engine.store (Database.upsertWorkflow (workflowRow now definition)
        (access.get state.engine.store)).2 := by
  have store := state.engine.compile_store definition
  rcases state.engine.compile_cases definition with ⟨error, answer⟩ | ⟨compiled, answer, _⟩
  · refine .inl ⟨error, ?_⟩
    rw [createWorkflow, call, answer]
  · refine .inr ?_
    rw [createWorkflow, call]
    generalize state.engine.compile definition = compilation at store answer ⊢
    obtain ⟨outcome, engine⟩ := compilation
    dsimp only at store answer ⊢
    subst answer
    dsimp only
    have pooled : ({ state with engine := engine } : HttpState S).database = some access := pool
    rw [run?_pool pooled]
    dsimp only
    rw [store]
    generalize Database.upsertWorkflow (workflowRow now definition)
      (access.get state.engine.store) = statement
    obtain ⟨outcome, database⟩ := statement
    cases outcome with
    | error error => rfl
    | ok stored => exact registerWorkflow_store _ definition

/-- The statement that deletes a workflow is always run. -/
theorem deleteWorkflow_store (pool : state.database = some access) (id : Uuid) :
    (state.deleteWorkflow id).2.engine.store =
      access.put state.engine.store
        (Database.deleteWorkflow id (access.get state.engine.store)).2 := by
  have store := state.engine.unregister_store id
  have told (existed : Bool) (after : HttpState S) :
      (deleted id existed after).2.engine.store = after.engine.store := by
    cases existed <;> rfl
  rw [deleteWorkflow, call]
  generalize state.engine.unregister id = unregistration at store ⊢
  obtain ⟨known, engine⟩ := unregistration
  dsimp only at store ⊢
  have pooled : ({ state with engine := engine } : HttpState S).database = some access := pool
  rw [run?_pool pooled]
  dsimp only
  rw [store]
  generalize Database.deleteWorkflow id (access.get state.engine.store) = statement
  obtain ⟨outcome, database⟩ := statement
  rcases outcome with (_ | _) | _
  · exact told _ _
  · rfl
  · exact told _ _

end

section

variable {state : HttpState Database} {id : Uuid} {now : Moment}

def row? (state : HttpState Database) (id : Uuid) : Option WorkflowRow :=
  state.engine.store.workflows.get? id

/-- Only a count of failures has moved in a store if the workflows are the same. -/
theorem Spent.workflows {before after : Database} (spent : Spent .whole before after) :
    after.workflows = before.workflows := by
  rcases spent with same | ⟨left, counted⟩
  · rw [same]
  · rw [counted]
    rfl

theorem health_workflows (pool : state.database = some .whole) :
    state.health.2.engine.store.workflows = state.engine.store.workflows := by
  have pinged : (state.run? Database.ping).2.engine.store.workflows =
      state.engine.store.workflows := by
    rw [run?_pool pool]
    exact Database.query_workflows _ _
  unfold health
  split
  all_goals
    next answer =>
    rw [answer] at pinged
    exact pinged

theorem started_workflows (outcome : Except EngineError Uuid × HttpState Database) :
    (started outcome).2.engine.store.workflows = outcome.2.engine.store.workflows := by
  rcases outcome with ⟨error | workflowId, after⟩
  · rfl
  · rfl

theorem showExecution_workflows (state : HttpState Database) (executionId : Uuid) :
    (state.showExecution executionId).2.engine.store.workflows =
      state.engine.store.workflows := by
  have shown : (state.call fun engine => engine.status executionId).2.engine.store.workflows =
      state.engine.store.workflows := state.engine.status_workflows executionId
  unfold showExecution
  split
  all_goals
    next answer =>
    rw [answer] at shown
    exact shown

theorem cancelExecution_workflows (state : HttpState Database) (now : Moment)
    (executionId : Uuid) :
    (state.cancelExecution now executionId).2.engine.store.workflows =
      state.engine.store.workflows := by
  have cancelled :
      (state.call fun engine => engine.cancel now executionId).2.engine.store.workflows =
        state.engine.store.workflows := state.engine.cancel_workflows now executionId
  unfold cancelExecution
  split
  all_goals
    next answer =>
    rw [answer] at cancelled
    exact cancelled

theorem createWorkflow_row (pool : state.database = some .whole) {now : Timestamp}
    {definition : Definition} (harmless : definition.id = id →
      400 ≤ (respond (state.createWorkflow now definition).1).status) :
    (state.createWorkflow now definition).2.row? id = state.row? id := by
  unfold row?
  by_cases own : definition.id = id
  · obtain ⟨store, spent, after⟩ := failed_create pool (harmless own)
    rw [after]
    exact congrArg (fun workflows => workflows.get? id) spent.workflows
  · rcases createWorkflow_store pool now definition with ⟨error, refused⟩ | stored
    · rw [refused]
    · rw [stored]
      exact Database.upsertWorkflow_other own _

theorem deleteWorkflow_row (pool : state.database = some .whole) {workflowId : Uuid}
    (harmless : workflowId = id → 400 ≤ (respond (state.deleteWorkflow workflowId).1).status) :
    (state.deleteWorkflow workflowId).2.row? id = state.row? id := by
  unfold row?
  by_cases own : workflowId = id
  · obtain ⟨store, spent, after⟩ := failed_delete pool (harmless own)
    rw [after]
    exact congrArg (fun workflows => workflows.get? id) spent.workflows
  · rw [deleteWorkflow_store pool]
    exact Database.deleteWorkflow_other own _

/-- A demand that is refused leaves the row of a workflow alone. -/
theorem meet_row (pool : state.database = some .whole) {demand : Demand}
    (harmless : demand.Writes id → 400 ≤ (respond (state.meet now demand).1).status) :
    (state.meet now demand).2.row? id = state.row? id := by
  have still {after : HttpState Database}
      (same : after.engine.store.workflows = state.engine.store.workflows) :
      after.row? id = state.row? id :=
    congrArg (fun workflows => workflows.get? id) same
  cases demand with
  | health => exact still (health_workflows pool)
  | list => rfl
  | showWorkflow workflowId =>
    change (state.showWorkflow workflowId).2.row? id = _
    unfold showWorkflow
    split <;> rfl
  | create definition => exact createWorkflow_row pool harmless
  | delete workflowId => exact deleteWorkflow_row pool harmless
  | execute workflowId tenantId input =>
    exact still ((started_workflows _).trans
      (state.engine.startWorkflow_workflows now.wall workflowId tenantId input))
  | showExecution executionId => exact still (state.showExecution_workflows executionId)
  | cancel executionId => exact still (state.cancelExecution_workflows now executionId)
  | trigger webhookId request =>
    exact still ((started_workflows _).trans
      (state.engine.triggerWebhook_workflows now.wall webhookId _))

/-- A turn may write the row of a workflow or replace the tables. -/
def WritesRow (state : HttpState Database) (id : Uuid) : HttpTurn Database → Prop
  | .request now request =>
    (∃ demand, request.demand now.wall = .ok demand ∧ demand.Writes id) ∧
      (state.handle now request).1.status < 400
  | .demand now demand => demand.Writes id ∧ (respond (state.meet now demand).1).status < 400
  | .outage _ => False
  | .call (.setStore tables) => tables.workflows.get? id ≠ state.row? id
  | .call _ => False

/-- The row of a workflow is unwritten if nothing of what happens writes it. -/
def Unwritten (id : Uuid) (state : HttpState Database) : List (HttpTurn Database) → Prop
  | [] => True
  | turn :: rest => ¬state.WritesRow id turn ∧ Unwritten id (state.react turn).2 rest

theorem failNext_row (state : HttpState Database) (pool : state.database = some .whole)
    (statements : Nat) : (state.failNext statements).row? id = state.row? id := by
  unfold failNext
  rw [pool]
  rfl

/-- A turn that does not write a row leaves it as it is. -/
theorem react_row (pool : state.database = some .whole) {turn : HttpTurn Database}
    (unwritten : ¬state.WritesRow id turn) : (state.react turn).2.row? id = state.row? id := by
  cases turn with
  | request now request =>
    change (state.handle now request).2.row? id = _
    cases read : request.demand now.wall with
    | error status =>
      rw [handle_read, read]
      rfl
    | ok demand =>
      obtain ⟨response, after⟩ := state.handle_demand read
      rw [after]
      apply meet_row pool
      intro writes
      have refused : ¬(state.handle now request).1.status < 400 := fun accepted =>
        unwritten ⟨⟨demand, read, writes⟩, accepted⟩
      rw [response, HttpRequest.sent_status] at refused
      exact Nat.le_of_not_lt refused
  | demand now demand =>
    exact meet_row pool fun writes =>
      Nat.le_of_not_lt fun accepted => unwritten ⟨writes, accepted⟩
  | outage statements => exact state.failNext_row pool statements
  | call call =>
    by_cases set : ∃ tables, call = .setStore tables
    · obtain ⟨tables, rfl⟩ := set
      exact Decidable.not_not.mp unwritten
    · have performed :=
        state.engine.perform_workflows call fun tables same => set ⟨tables, same⟩
      exact congrArg (fun workflows => workflows.get? id) performed

/-- A row that is unwritten stays as it is. -/
theorem after_row {turns : List (HttpTurn Database)} (pool : state.database = some .whole)
    (unwritten : state.Unwritten id turns) : (state.after turns).row? id = state.row? id := by
  induction turns generalizing state with
  | nil => rfl
  | cons turn rest inductionHypothesis =>
    obtain ⟨first, later⟩ := unwritten
    have pooled := (state.react_database turn).trans pool
    exact (inductionHypothesis pooled later).trans (react_row pool first)

end

end HttpState

end WorkflowEngine
