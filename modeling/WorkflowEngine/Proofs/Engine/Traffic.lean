/-
This file proves what a call may do to the executions of an engine. It admits one, moves one,
forgets one that has ended, or leaves all of them alone with the numbers that are counted for them.
-/

import WorkflowEngine.Proofs.Admission.Running
import WorkflowEngine.Proofs.Engine.Course
import WorkflowEngine.Proofs.Engine.Undisturbed
import WorkflowEngine.Proofs.Execution.Closing

namespace WorkflowEngine.Engine

open Time

variable {S : Type}

/-- An engine stores the job that it admits and counts one. -/
structure Admits (before after : Engine S) (tenantId : Uuid) (job : Job) : Prop where
  holds : job.Holds
  owner : job.run.execution.tenantId = tenantId
  executor : job.executor = before.executor
  jobs : after.jobs = before.jobs.insert before.ids.draw.1 job
  ids : after.ids = before.ids.draw.2
  room : before.gate.runningCount tenantId <
    (before.gate.tenants.limits tenantId).maxConcurrentExecutions.toNat
  running : ∀ other, after.gate.runningCount other =
    before.gate.runningCount other + if other = tenantId then 1 else 0

/-- Undisturbed work before an admission belongs to it. -/
theorem Undisturbed.admits {before between after : Engine S} {tenantId : Uuid} {job : Job}
    (undisturbed : Undisturbed before between) (admits : Admits between after tenantId job) :
    Admits before after tenantId job := by
  obtain ⟨holds, owner, executor, jobs, ids, room, running⟩ := admits
  rw [undisturbed.ids] at jobs ids
  rw [undisturbed.runningCount, undisturbed.tenants] at room
  refine ⟨holds, owner, ?_, undisturbed.jobs ▸ jobs, ids, room, fun other => ?_⟩
  · rw [executor, Engine.executor, undisturbed.catalog, Engine.executor]
  · rw [running, undisturbed.runningCount]

/-- A start admits one job, or it changes nothing that is counted. -/
inductive Starts (before : Engine S) (biller : Option Uuid) {E : Type} :
    Except E Uuid × Engine S → Prop where
  | refused (error : E) {after : Engine S} (jobs : after.jobs = before.jobs)
      (ids : after.ids = before.ids)
      (running : ∀ tenantId, after.gate.runningCount tenantId = before.gate.runningCount tenantId) :
      Starts before biller (.error error, after)
  | admitted {after : Engine S} (tenantId : Uuid) (bills : biller = some tenantId) (job : Job)
      (admits : Admits before after tenantId job) :
      Starts before biller (.ok before.ids.draw.1, after)

theorem Starts.mapError {before : Engine S} {biller : Option Uuid} {E F : Type}
    {result : Except E Uuid × Engine S} (starts : Starts before biller result) (wrap : E → F) :
    Starts before biller (result.1.mapError wrap, result.2) := by
  cases starts with
  | refused error jobs ids running => exact .refused (wrap error) jobs ids running
  | admitted tenantId bills job admits => exact .admitted tenantId bills job admits

/-- A start after undisturbed work is a start before it. -/
theorem Undisturbed.starts {before between : Engine S} (undisturbed : Undisturbed before between)
    {biller : Option Uuid} {E : Type} {result : Except E Uuid × Engine S}
    (starts : Starts between biller result) : Starts before biller result := by
  cases starts with
  | refused error jobs ids running =>
    exact .refused error (jobs.trans undisturbed.jobs) (ids.trans undisturbed.ids)
      fun tenantId => (running tenantId).trans (undisturbed.runningCount tenantId)
  | admitted tenantId bills job admits =>
    rw [undisturbed.ids]
    exact .admitted tenantId bills job (undisturbed.admits admits)

theorem Undisturbed.refuses {before after : Engine S} (undisturbed : Undisturbed before after)
    {biller : Option Uuid} {E : Type} (error : E) : Starts before biller (.error error, after) :=
  undisturbed.starts (.refused error rfl rfl fun _ => rfl)

/-- An execution that is launched after its tenant was counted is admitted. -/
theorem launch_starts {before : Engine S} {gate : Gate} {tenantId : Uuid} {E : Type}
    (counted : Gate.Counted before.gate gate tenantId 1)
    (room : before.gate.runningCount tenantId <
      (before.gate.tenants.limits tenantId).maxConcurrentExecutions.toNat)
    (plan : Plan) (input : Json) :
    Starts before (some tenantId)
      ((.ok ({ before with gate := gate }.launch before.executor plan tenantId input).1 :
        Except E Uuid), ({ before with gate := gate }.launch before.executor plan tenantId input).2) :=
  .admitted tenantId rfl _
    { holds := Job.prepare_holds before.executor plan _ _ _ tenantId input
      owner := rfl
      executor := rfl
      jobs := rfl
      ids := rfl
      room := room
      running := counted.running }

theorem startExecution_starts (engine : Engine S) (plan : Plan) (tenantId : Uuid) (input : Json) :
    Starts engine (some tenantId) (engine.startExecution plan tenantId input) := by
  have reserved := engine.gate.reserve_counted tenantId
  unfold startExecution startOn
  split
  · next error _ => exact .refused error rfl rfl fun _ => rfl
  · split
    · next error gate answer =>
      rw [answer] at reserved
      exact .refused error rfl rfl fun other => by
        simpa using (reserved.2 error rfl).running other
    · next gate answer =>
      rw [answer] at reserved
      obtain ⟨room, counted⟩ := reserved.1 rfl
      exact launch_starts counted room plan input

theorem admitAndLaunch_starts (engine : Engine S) (webhook : Webhook) (plan : Plan)
    (request : WebhookRequest) :
    Starts engine (some webhook.tenantId) (engine.admitAndLaunch webhook plan request) := by
  have admission := engine.gate.admission_counted webhook.id webhook.tenantId request
  unfold admitAndLaunch
  split
  · next error gate answer =>
    rw [answer] at admission
    exact .refused _ rfl rfl fun other => by
      simpa using (admission.2 error rfl).running other
  · next input gate answer =>
    rw [answer] at admission
    obtain ⟨room, counted⟩ := admission.1 input rfl
    split
    · exact .refused _ rfl rfl fun other => by
        simpa using counted.undone.running other
    · exact launch_starts counted room plan input

/-- An effect of an execution changes the engine by the slot that it gives back. -/
theorem foldl_absorb_slots (tenantId : Uuid) (engine : Engine S) (effects : List Effect) :
    (effects.foldl (absorb tenantId) engine).jobs = engine.jobs ∧
    (effects.foldl (absorb tenantId) engine).ids = engine.ids ∧
    ∀ other, (effects.foldl (absorb tenantId) engine).gate.runningCount other =
      engine.gate.runningCount other -
        if other = tenantId then effects.count .releaseSlot else 0 := by
  induction effects generalizing engine with
  | nil => simp
  | cons effect rest inductionHypothesis =>
    by_cases releases : effect = .releaseSlot
    · subst releases
      obtain ⟨jobs, ids, running⟩ := inductionHypothesis (engine.absorb tenantId .releaseSlot)
      refine ⟨jobs, ids, fun other => (running other).trans ?_⟩
      simp only [absorb, modifyGate, Gate.release_running, List.count_cons_self]
      split <;> omega
    · have same : engine.absorb tenantId effect = engine := by
        cases effect <;> first | rfl | exact absurd rfl releases
      rw [List.foldl_cons, same, List.count_cons_of_ne releases]
      exact inductionHypothesis engine

/-- The slots that the effects of a move release are taken back. -/
structure Moves (before after : Engine S) (id : Uuid) (job : Job) (now : Moment)
    (input : Job.Input) : Prop where
  found : before.jobs.get? id = some job
  jobs : after.jobs = before.jobs.insert id (job.advance now input).1
  ids : after.ids = before.ids
  running : ∀ other, after.gate.runningCount other =
    before.gate.runningCount other - if other = job.run.execution.tenantId then
      (job.advance now input).2.count .releaseSlot else 0

/-- Undisturbed work before a move belongs to it. -/
theorem Undisturbed.moves {before between after : Engine S} {id : Uuid} {job : Job} {now : Moment}
    {input : Job.Input} (undisturbed : Undisturbed before between)
    (moves : Moves between after id job now input) : Moves before after id job now input := by
  obtain ⟨found, jobs, ids, running⟩ := moves
  rw [undisturbed.jobs] at found jobs
  refine ⟨found, jobs, ids.trans undisturbed.ids, fun other => ?_⟩
  rw [running, undisturbed.runningCount]

theorem advance_moves {engine : Engine S} {id : Uuid} {job : Job}
    (found : engine.jobs.get? id = some job) (now : Moment) (input : Job.Input) :
    (engine.advance now id input).2 = (job.advance now input).2 ∧
      Moves engine (engine.advance now id input).1 id job now input := by
  obtain ⟨jobs, ids, running⟩ := foldl_absorb_slots job.run.execution.tenantId
    { engine with jobs := engine.jobs.insert id (job.advance now input).1 }
    (job.advance now input).2
  unfold advance
  rw [found]
  dsimp only
  rw [Job.tenantId_after]
  exact ⟨rfl, found, jobs, ids, running⟩

theorem advance_unknown {engine : Engine S} {id : Uuid} (unknown : engine.jobs.get? id = none)
    (now : Moment) (input : Job.Input) : engine.advance now id input = (engine, []) := by
  simp only [advance, unknown]

theorem evict_forgets (engine : Engine S) (id : Uuid) :
    engine.evict id = engine ∨
    ∃ job, engine.jobs.get? id = some job ∧ job.run.phase = .closed ∧
      engine.evict id = { engine with jobs := engine.jobs.erase id } := by
  unfold evict
  split
  · next job found =>
    split
    · next closed => exact .inr ⟨job, found, closed, rfl⟩
    · exact .inl rfl
  · exact .inl rfl

variable [ExecutionStore S]

theorem startWorkflow_starts (engine : Engine S) (now : Timestamp) (workflowId tenantId : Uuid)
    (input : Json) :
    Starts engine (some tenantId) (engine.startWorkflow now workflowId tenantId input) := by
  have planned := engine.planFor_undisturbed now workflowId
  rcases engine.startWorkflow_cases now workflowId tenantId input with
    ⟨error, same⟩ | ⟨compiled, _, same⟩
  · rw [same]
    exact planned.refuses error
  · rw [same]
    exact planned.starts ((startExecution_starts _ compiled.plan tenantId input).mapError _)

theorem triggerWebhook_starts (engine : Engine S) (now : Timestamp) (webhookId : String)
    (request : WebhookRequest) :
    Starts engine ((engine.gate.webhook? webhookId).map Webhook.tenantId)
      (engine.triggerWebhook now webhookId request) := by
  rcases engine.triggerWebhook_cases now webhookId request with
    ⟨error, same⟩ | ⟨workflowId, webhook, found, ⟨error, same⟩ | ⟨compiled, _, same⟩⟩
  · rw [same]
    exact (Undisturbed.refl engine).refuses error
  · rw [same]
    exact (engine.planFor_undisturbed now workflowId).refuses error
  · have planned := engine.planFor_undisturbed now workflowId
    rw [same, found]
    exact planned.starts (admitAndLaunch_starts _ webhook compiled.plan request)

namespace Occurrence

/-- A start is billed to at most one tenant. -/
def biller? (occurrence : Occurrence S) : Option Uuid :=
  match occurrence.call with
  | .startExecution _ tenantId _ | .startWorkflow _ _ tenantId _ => some tenantId
  | .admitAndLaunch webhook _ _ => some webhook.tenantId
  | .triggerWebhook _ webhookId _ =>
    (occurrence.before.gate.webhook? webhookId).map Webhook.tenantId
  | _ => none

def admission? (occurrence : Occurrence S) : Option (Uuid × Uuid) :=
  match occurrence.reply with
  | .started (.ok id) => occurrence.biller?.map fun tenantId => (id, tenantId)
  | _ => none

def effects (occurrence : Occurrence S) (id : Uuid) : List Effect :=
  match occurrence.call, occurrence.reply with
  | .advance _ other _, .moved effects | .save _ other, .moved effects =>
    if other = id then effects else []
  | _, _ => []

/-- A start publishes the first snapshot. -/
def published (occurrence : Occurrence S) (id : Uuid) : List Execution :=
  match occurrence.reply with
  | .started (.ok other) =>
    if other = id then (occurrence.after.jobs.get? id).toList.map Job.snapshot else []
  | _ => (occurrence.effects id).filterMap Effect.snapshot?

theorem effects_unmoved {occurrence : Occurrence S}
    (unmoved : ∀ effects, occurrence.reply ≠ .moved effects) (id : Uuid) :
    occurrence.effects id = [] := by
  unfold effects
  split
  · next answer => exact absurd answer (unmoved _)
  · next answer => exact absurd answer (unmoved _)
  · rfl

theorem admission_unstarted {occurrence : Occurrence S}
    (unstarted : ∀ answer, occurrence.reply ≠ .started answer) : occurrence.admission? = none := by
  unfold admission?
  split
  · next answer => exact absurd answer (unstarted _)
  · rfl

theorem published_unstarted {occurrence : Occurrence S}
    (unstarted : ∀ answer, occurrence.reply ≠ .started answer) (id : Uuid) :
    occurrence.published id = (occurrence.effects id).filterMap Effect.snapshot? := by
  unfold published
  split
  · next answer => exact absurd answer (unstarted _)
  · rfl

end Occurrence

/-- Every execution that a call answers with is admitted for a tenant. -/
theorem Occurrence.admission_of_started (occurrence : Occurrence S) {id : Uuid}
    (started : occurrence.reply = .started (.ok id)) :
    ∃ tenantId, occurrence.admission? = some (id, tenantId) := by
  have billed : ∃ tenantId, occurrence.biller? = some tenantId := by
    obtain ⟨engine, call⟩ := occurrence
    cases call with
    | startExecution plan tenantId input => exact ⟨tenantId, rfl⟩
    | startWorkflow now workflowId tenantId input => exact ⟨tenantId, rfl⟩
    | admitAndLaunch webhook plan request => exact ⟨webhook.tenantId, rfl⟩
    | triggerWebhook now webhookId request =>
      have starts := engine.triggerWebhook_starts now webhookId request
      have answer : (engine.triggerWebhook now webhookId request).1 = .ok id :=
        Reply.started.inj started
      generalize engine.triggerWebhook now webhookId request = result at starts answer
      cases starts with
      | refused error => cases answer
      | admitted tenantId bills => exact ⟨tenantId, bills⟩
    | _ => cases started
  obtain ⟨tenantId, bills⟩ := billed
  exact ⟨tenantId, by simp [admission?, started, bills]⟩

/-- A call leaves the executions alone, or admits, moves or forgets one. -/
inductive Traffic (occurrence : Occurrence S) : Prop where
  | quiet (jobs : occurrence.after.jobs = occurrence.before.jobs)
      (ids : occurrence.after.ids = occurrence.before.ids)
      (running : ∀ tenantId, occurrence.after.gate.runningCount tenantId =
        occurrence.before.gate.runningCount tenantId)
      (admission : occurrence.admission? = none) (effects : ∀ id, occurrence.effects id = [])
      (published : ∀ id, occurrence.published id = [])
  | admits (tenantId : Uuid) (job : Job)
      (admits : Admits occurrence.before occurrence.after tenantId job)
      (admission : occurrence.admission? = some (occurrence.before.ids.draw.1, tenantId))
      (effects : ∀ id, occurrence.effects id = [])
      (published : ∀ id, occurrence.published id =
        if occurrence.before.ids.draw.1 = id then [job.snapshot] else [])
  | moves (id : Uuid) (job : Job) (now : Moment) (input : Job.Input)
      (moves : Moves occurrence.before occurrence.after id job now input)
      (admission : occurrence.admission? = none)
      (effects : ∀ other, occurrence.effects other =
        if id = other then (job.advance now input).2 else [])
      (published : ∀ other, occurrence.published other =
        (occurrence.effects other).filterMap Effect.snapshot?)
  | evicts (id : Uuid) (job : Job) (found : occurrence.before.jobs.get? id = some job)
      (closed : job.run.phase = .closed)
      (jobs : occurrence.after.jobs = occurrence.before.jobs.erase id)
      (ids : occurrence.after.ids = occurrence.before.ids)
      (running : ∀ tenantId, occurrence.after.gate.runningCount tenantId =
        occurrence.before.gate.runningCount tenantId)
      (admission : occurrence.admission? = none) (effects : ∀ id, occurrence.effects id = [])
      (published : ∀ id, occurrence.published id = [])

/-- What the engine starts is its only traffic in starts. -/
theorem Starts.traffic {occurrence : Occurrence S} {answer : Except EngineError Uuid}
    (starts : Starts occurrence.before occurrence.biller? (answer, occurrence.after))
    (reply : occurrence.reply = .started answer) : Traffic occurrence := by
  have silent : ∀ id, occurrence.effects id = [] :=
    Occurrence.effects_unmoved (by simp [reply])
  cases starts with
  | refused error jobs ids running =>
    exact .quiet jobs ids running (by simp [Occurrence.admission?, reply]) silent
      fun id => by simp [Occurrence.published, reply, silent]
  | admitted tenantId bills job admits =>
    refine .admits tenantId job admits (by simp [Occurrence.admission?, reply, bills])
      silent fun id => ?_
    simp only [Occurrence.published, reply]
    split
    · next same =>
      rw [admits.jobs, same, Table.getInsertSame]
      rfl
    · rfl

/-- Undisturbed work that starts nothing is no traffic. -/
theorem Undisturbed.traffic {occurrence : Occurrence S}
    (undisturbed : Undisturbed occurrence.before occurrence.after)
    (unstarted : ∀ answer, occurrence.reply ≠ .started answer)
    (silent : ∀ id, occurrence.effects id = []) : Traffic occurrence := by
  refine .quiet undisturbed.jobs undisturbed.ids undisturbed.runningCount
    (Occurrence.admission_unstarted unstarted) silent fun id => ?_
  rw [Occurrence.published_unstarted unstarted, silent]
  rfl

/-- A move after undisturbed work is traffic of its execution alone. -/
theorem advance_traffic {occurrence : Occurrence S} {between : Engine S} {id : Uuid}
    (now : Moment) (input : Job.Input) (undisturbed : Undisturbed occurrence.before between)
    (after : occurrence.after = (between.advance now id input).1)
    (effects : ∀ other, occurrence.effects other =
      if id = other then (between.advance now id input).2 else [])
    (unstarted : ∀ answer, occurrence.reply ≠ .started answer) : Traffic occurrence := by
  cases found : between.jobs.get? id with
  | none =>
    rw [advance_unknown found] at after effects
    exact Undisturbed.traffic (after ▸ undisturbed) unstarted fun other =>
      (effects other).trans (ite_self _)
  | some job =>
    obtain ⟨told, moves⟩ := advance_moves found now input
    rw [told] at effects
    exact .moves id job now input (undisturbed.moves (after ▸ moves))
      (Occurrence.admission_unstarted unstarted) effects (Occurrence.published_unstarted unstarted)

/-- A save is an answer of the store to a run that waits for it. -/
theorem save_moves (engine : Engine S) (now : Moment) (id : Uuid) :
    engine.save now id = (engine, []) ∨
    ∃ between input, Undisturbed engine between ∧
      engine.save now id = between.advance now id input := by
  unfold save
  split
  · exact .inl rfl
  · next job _ =>
    split
    · next errand _ _ =>
      exact .inr ⟨{ engine with store := (performSave job.run errand engine.store).2 },
        .saved (performSave job.run errand engine.store).1, ⟨rfl, rfl, rfl, rfl, rfl, rfl⟩, rfl⟩
    · exact .inl rfl

/-- A cancellation moves its execution without an effect, or looks it up in the store. -/
theorem cancel_moves (engine : Engine S) (now : Moment) (id : Uuid) :
    Undisturbed engine (engine.cancel now id).2 ∨
    ((engine.cancel now id).2 = (engine.advance now id .cancelRequested).1 ∧
      (engine.advance now id .cancelRequested).2 = []) := by
  unfold cancel requestCancel
  cases engine.job? engine.executor.name id with
  | none => exact .inl (engine.load_undisturbed id)
  | some job =>
    -- the request is only noted; the run hears of it later
    refine .inr ⟨rfl, ?_⟩
    unfold advance
    split <;> rfl

open Occurrence in
/-- Every call is traffic of one of these kinds. -/
theorem perform_traffic (occurrence : Occurrence S) : Traffic occurrence := by
  obtain ⟨engine, call⟩ := occurrence
  cases call with
  | compile definition =>
    exact (engine.compile_undisturbed definition).traffic nofun (effects_unmoved nofun)
  | register definition =>
    exact (engine.register_undisturbed definition).traffic nofun (effects_unmoved nofun)
  | unregister workflowId =>
    exact (engine.unregister_undisturbed workflowId).traffic nofun (effects_unmoved nofun)
  | planFor now workflowId =>
    exact (engine.planFor_undisturbed now workflowId).traffic nofun (effects_unmoved nofun)
  | startExecution plan tenantId input =>
    exact ((engine.startExecution_starts plan tenantId input).mapError EngineError.admission).traffic
      rfl
  | startWorkflow now workflowId tenantId input =>
    exact (engine.startWorkflow_starts now workflowId tenantId input).traffic rfl
  | admitAndLaunch webhook plan request =>
    exact (engine.admitAndLaunch_starts webhook plan request).traffic rfl
  | triggerWebhook now webhookId request =>
    exact (engine.triggerWebhook_starts now webhookId request).traffic rfl
  | advance now id input =>
    exact advance_traffic now input (.refl engine) rfl (fun _ => rfl) nofun
  | save now id =>
    rcases engine.save_moves now id with idle | ⟨between, input, undisturbed, moved⟩
    · have still : (Occurrence.mk engine (.save now id)).after = engine := congrArg Prod.fst idle
      refine Undisturbed.traffic ?_ nofun fun other => ?_
      · rw [still]
        exact .refl engine
      · exact (ite_congr rfl (fun _ => congrArg Prod.snd idle) fun _ => rfl).trans (ite_self _)
    · exact advance_traffic now input undisturbed (congrArg Prod.fst moved)
        (fun other => ite_congr rfl (fun _ => congrArg Prod.snd moved) fun _ => rfl) nofun
  | evict id =>
    rcases engine.evict_forgets id with still | ⟨job, found, closed, forgotten⟩
    · have same : (Occurrence.mk engine (.evict id)).after = engine := still
      refine Undisturbed.traffic ?_ nofun (effects_unmoved nofun)
      rw [same]
      exact .refl engine
    · have after : (Occurrence.mk engine (.evict id)).after =
          { engine with jobs := engine.jobs.erase id } := forgotten
      exact .evicts id job found closed (by rw [after]) (by rw [after])
        (fun tenantId => by rw [after]) rfl (effects_unmoved nofun) fun _ => rfl
  | status id => exact (engine.status_undisturbed id).traffic nofun (effects_unmoved nofun)
  | cancel now id =>
    rcases engine.cancel_moves now id with undisturbed | ⟨moved, quiet⟩
    · exact undisturbed.traffic nofun (effects_unmoved nofun)
    · have untold : ∀ other, (Occurrence.mk engine (.cancel now id)).effects other = [] :=
        effects_unmoved nofun
      refine advance_traffic now .cancelRequested (.refl engine) moved (fun other => ?_) nofun
      rw [untold, quiet, ite_self]
  | setTenants tenants => exact .quiet rfl rfl (fun _ => rfl) rfl (fun _ => rfl) fun _ => rfl
  | setStore store => exact .quiet rfl rfl (fun _ => rfl) rfl (fun _ => rfl) fun _ => rfl

end WorkflowEngine.Engine
