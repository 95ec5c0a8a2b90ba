/-
This file proves that a store in memory holds of every execution what it has acknowledged last, and
otherwise what it held before.
-/

import WorkflowEngine.Proofs.Engine.Traffic
import WorkflowEngine.Proofs.Execution.StoredEnd

namespace WorkflowEngine

open Time

def Saved.owner : Saved → Uuid
  | .header execution => execution.id
  | .step executionId _ => executionId

theorem Run.handed_owner (run : Run) (errand : Errand) :
    (run.handed errand).owner = run.execution.id := by
  cases errand <;> rfl

namespace MemoryStore

/-- The same headers and the same records of steps are held. -/
structure SameRecords (before after : MemoryStore) : Prop where
  executions : after.executions = before.executions
  steps : after.steps = before.steps

/-- The records of a store are those that were saved last. -/
structure Mirrors (first store : MemoryStore) (saved : Uuid → List Saved) : Prop where
  header : ∀ id, store.executions.get? id =
    (Saved.lastHeader (saved id)).or (first.executions.get? id)
  record : ∀ id nodeId, store.steps.get? (id, nodeId) =
    (Saved.lastRecord (saved id) nodeId).or (first.steps.get? (id, nodeId))

/-- A store has not heard of an execution if it holds no record of it. -/
structure Unheard (store : MemoryStore) (id : Uuid) : Prop where
  header : store.executions.get? id = none
  record : ∀ nodeId, store.steps.get? (id, nodeId) = none

def keep (item : Saved) (store : MemoryStore) : MemoryStore :=
  match item with
  | .header execution =>
    { store with executions := store.executions.insert execution.id execution }
  | .step executionId record =>
    { store with steps := store.steps.insert (executionId, record.nodeId) record }

/-- A store that fails as it was told keeps its records. -/
theorem put_cases (item : Saved) (store : MemoryStore) :
    item.put store = (.ok (), store.keep item) ∨
    ∃ error after, item.put store = (.error error, after) ∧ SameRecords store after := by
  have writes : item.put store = store.write (keep item) := by
    cases item <;> rfl
  rw [writes, write]
  split
  · exact .inl rfl
  · exact .inr ⟨_, _, rfl, rfl, rfl⟩

theorem keep_header (item : Saved) (store : MemoryStore) (id : Uuid) :
    (store.keep item).executions.get? id =
      if item.owner = id then item.header?.or (store.executions.get? id)
      else store.executions.get? id := by
  cases item with
  | header execution =>
    show (store.executions.insert execution.id execution).get? id =
      if execution.id = id then some execution else store.executions.get? id
    split
    · next same => rw [same, Table.getInsertSame]
    · next different => exact Table.getInsertOther _ _ different
  | step executionId record => simp [keep, Saved.header?]

theorem keep_record (item : Saved) (store : MemoryStore) (id : Uuid) (nodeId : String) :
    (store.keep item).steps.get? (id, nodeId) =
      if item.owner = id then (item.record? nodeId).or (store.steps.get? (id, nodeId))
      else store.steps.get? (id, nodeId) := by
  cases item with
  | header execution => simp [keep, Saved.record?]
  | step executionId record =>
    show (store.steps.insert (executionId, record.nodeId) record).get? (id, nodeId) =
      if executionId = id then
        (if record.nodeId = nodeId then some record else none).or (store.steps.get? (id, nodeId))
      else store.steps.get? (id, nodeId)
    by_cases own : executionId = id
    · by_cases named : record.nodeId = nodeId
      · simp [own, named, Table.getInsertSame]
      · rw [Table.getInsertOther _ _ (by simp [named])]
        simp [named]
    · rw [Table.getInsertOther _ _ (by simp [own]), if_neg own]

section

variable {first store : MemoryStore} {saved : Uuid → List Saved}

theorem Mirrors.same {after : MemoryStore} (mirrors : Mirrors first store saved)
    (same : SameRecords store after) : Mirrors first after saved := by
  constructor
  · rw [same.executions]
    exact mirrors.header
  · rw [same.steps]
    exact mirrors.record

/-- What is kept is what was saved last. -/
theorem Mirrors.keep (mirrors : Mirrors first store saved) (item : Saved) :
    Mirrors first (store.keep item)
      fun id => if item.owner = id then saved id ++ [item] else saved id := by
  constructor
  · intro id
    rw [keep_header, mirrors.header]
    split
    · rw [Saved.lastHeader_concat, Option.or_assoc]
    · rfl
  · intro id nodeId
    rw [keep_record, mirrors.record]
    split
    · rw [Saved.lastRecord_concat, Option.or_assoc]
    · rfl

/-- A store that had not heard of an execution gives back what was saved last of it. -/
theorem Mirrors.execution (mirrors : Mirrors first store saved) {id : Uuid}
    (unheard : first.Unheard id) :
    store.execution id = match Saved.assembled (saved id) with
      | some execution => .ok execution
      | none => .error (.notFound ("execution " ++ id.text)) := by
  have header : store.executions.get? id = Saved.lastHeader (saved id) := by
    rw [mirrors.header, unheard.header, Option.or_none]
  have record (nodeId : String) :
      store.stepRecord? id nodeId = Saved.lastRecord (saved id) nodeId := by
    rw [stepRecord?, mirrors.record, unheard.record, Option.or_none]
  rw [MemoryStore.execution, header, Saved.assembled]
  cases Saved.lastHeader (saved id) with
  | none => rfl
  | some execution => simp only [Option.map_some, record]

end

end MemoryStore

namespace Engine

section

variable {S : Type}

theorem advance_store (engine : Engine S) (now : Moment) (id : Uuid) (input : Job.Input) :
    (engine.advance now id input).1.store = engine.store := by
  have absorbed (tenantId : Uuid) (effects : List Effect) (before : Engine S) :
      (effects.foldl (absorb tenantId) before).store = before.store := by
    induction effects generalizing before with
    | nil => rfl
    | cons effect rest inductionHypothesis =>
      rw [List.foldl_cons, inductionHypothesis]
      cases effect <;> rfl
  unfold advance
  split
  · rfl
  · exact absorbed _ _ _

theorem evict_store (engine : Engine S) (id : Uuid) : (engine.evict id).store = engine.store := by
  rcases engine.evict_forgets id with still | ⟨_, _, _, forgotten⟩
  · rw [still]
  · rw [forgotten]

theorem compile_store (engine : Engine S) (definition : Definition) :
    (engine.compile definition).2.store = engine.store := by
  unfold compile
  split
  · rfl
  · split <;> rfl

theorem register_store (engine : Engine S) (definition : Definition) :
    (engine.register definition).2.store = engine.store := by
  have compiled := engine.compile_store definition
  have unbound (before : Engine S) : (before.unbindPrevious definition).store = before.store := by
    unfold unbindPrevious
    split
    · rfl
    · split <;> rfl
  unfold register
  split
  · next answer => rwa [answer] at compiled
  · next plan after answer =>
    rw [answer] at compiled
    dsimp only
    split <;> exact (unbound after).trans compiled

theorem unregister_store (engine : Engine S) (workflowId : Uuid) :
    (engine.unregister workflowId).2.store = engine.store := by
  unfold unregister
  split
  · rfl
  · dsimp only
    split <;> rfl

theorem startExecution_store (engine : Engine S) (plan : Plan) (tenantId : Uuid)
    (input : Json) : (engine.startExecution plan tenantId input).2.store = engine.store := by
  unfold startExecution startOn
  split
  · rfl
  · split <;> rfl

theorem admitAndLaunch_store (engine : Engine S) (webhook : Webhook) (plan : Plan)
    (request : WebhookRequest) :
    (engine.admitAndLaunch webhook plan request).2.store = engine.store := by
  unfold admitAndLaunch
  split
  · rfl
  · split <;> rfl

end

section

variable {S : Type} [ExecutionStore S]

/-- A save is acknowledged only while the run waits for it. -/
def acknowledges (engine : Engine S) (id : Uuid) : List Saved :=
  match engine.jobs.get? id with
  | none => []
  | some job =>
    match job.run.phase with
    | .saving errand _ =>
      match (performSave job.run errand engine.store).1 with
      | .ok () => [job.run.handed errand]
      | .error _ => []
    | _ => []

def Occurrence.acknowledged (occurrence : Occurrence S) (id : Uuid) : List Saved :=
  match occurrence.call with
  | .save _ other => if other = id then occurrence.before.acknowledges id else []
  | _ => []

def acknowledged (past : List (Occurrence S)) (id : Uuid) : List Saved :=
  past.flatMap fun occurrence => occurrence.acknowledged id

theorem acknowledged_concat (past : List (Occurrence S)) (occurrence : Occurrence S) (id : Uuid) :
    acknowledged (past ++ [occurrence]) id = acknowledged past id ++ occurrence.acknowledged id := by
  simp [acknowledged]

/-- Nothing is acknowledged of an execution that is not in memory. -/
theorem Occurrence.acknowledged_missing {occurrence : Occurrence S} {id : Uuid}
    (missing : occurrence.before.jobs.get? id = none) : occurrence.acknowledged id = [] := by
  unfold Occurrence.acknowledged
  split
  · split
    · rw [acknowledges, missing]
    · rfl
  · rfl

end

section

variable (engine : Engine MemoryStore)

theorem planFor_store (now : Timestamp) (workflowId : Uuid) :
    (engine.planFor now workflowId).2.store = engine.store := by
  unfold planFor
  split
  · rfl
  · dsimp only
    split
    · rfl
    · exact register_store _ _

theorem startWorkflow_store (now : Timestamp) (workflowId tenantId : Uuid) (input : Json) :
    (engine.startWorkflow now workflowId tenantId input).2.store = engine.store := by
  rcases engine.startWorkflow_cases now workflowId tenantId input with
    ⟨_, same⟩ | ⟨compiled, _, same⟩
  · rw [same, planFor_store]
  · rw [same, startExecution_store, planFor_store]

theorem triggerWebhook_store (now : Timestamp) (webhookId : String) (request : WebhookRequest) :
    (engine.triggerWebhook now webhookId request).2.store = engine.store := by
  rcases engine.triggerWebhook_cases now webhookId request with
    ⟨_, same⟩ | ⟨workflowId, webhook, _, ⟨_, same⟩ | ⟨compiled, _, same⟩⟩
  · rw [same]
  · rw [same, planFor_store]
  · rw [same, admitAndLaunch_store, planFor_store]

theorem status_store (id : Uuid) : (engine.status id).2.store = engine.store := by
  unfold status
  split <;> rfl

theorem cancel_store (now : Moment) (id : Uuid) :
    (engine.cancel now id).2.store = engine.store := by
  unfold cancel requestCancel
  cases engine.job? engine.executor.name id with
  | none => rfl
  | some job => exact engine.advance_store now id .cancelRequested

end

/-- A genuine call leaves the answers and the records of the store to the store. -/
def Occurrence.Genuine (occurrence : Occurrence MemoryStore) : Prop :=
  match occurrence.call with
  | .startExecution plan _ _ | .admitAndLaunch _ plan _ => plan.WellFormed
  | .advance _ _ input => ∀ outcome, input ≠ .saved outcome
  | .setStore store => occurrence.before.store.SameRecords store
  | _ => True

/-- A call other than a save leaves the records of the store alone. -/
theorem perform_records {occurrence : Occurrence MemoryStore} (genuine : occurrence.Genuine)
    (unsaved : ∀ now id, occurrence.call ≠ .save now id) :
    occurrence.before.store.SameRecords occurrence.after.store ∧
      ∀ id, occurrence.acknowledged id = [] := by
  obtain ⟨engine, call⟩ := occurrence
  have still {after : MemoryStore} (same : after = engine.store) :
      engine.store.SameRecords after := by
    rw [same]
    exact ⟨rfl, rfl⟩
  cases call with
  | compile definition => exact ⟨still (engine.compile_store definition), fun _ => rfl⟩
  | register definition => exact ⟨still (engine.register_store definition), fun _ => rfl⟩
  | unregister workflowId => exact ⟨still (engine.unregister_store workflowId), fun _ => rfl⟩
  | planFor now workflowId => exact ⟨still (engine.planFor_store now workflowId), fun _ => rfl⟩
  | startExecution plan tenantId input =>
    exact ⟨still (engine.startExecution_store plan tenantId input), fun _ => rfl⟩
  | startWorkflow now workflowId tenantId input =>
    exact ⟨still (engine.startWorkflow_store now workflowId tenantId input), fun _ => rfl⟩
  | admitAndLaunch webhook plan request =>
    exact ⟨still (engine.admitAndLaunch_store webhook plan request), fun _ => rfl⟩
  | triggerWebhook now webhookId request =>
    exact ⟨still (engine.triggerWebhook_store now webhookId request), fun _ => rfl⟩
  | advance now id input => exact ⟨still (engine.advance_store now id input), fun _ => rfl⟩
  | save now id => exact absurd rfl (unsaved now id)
  | evict id => exact ⟨still (engine.evict_store id), fun _ => rfl⟩
  | status id => exact ⟨still (engine.status_store id), fun _ => rfl⟩
  | cancel now id => exact ⟨still (engine.cancel_store now id), fun _ => rfl⟩
  | setTenants tenants => exact ⟨⟨rfl, rfl⟩, fun _ => rfl⟩
  | setStore store => exact ⟨genuine, fun _ => rfl⟩

end Engine

end WorkflowEngine
