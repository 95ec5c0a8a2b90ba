/-
This file proves that every execution of an engine takes a course of its own, whatever happens to
the others, and that the store holds what it has acknowledged in this course.
-/

import WorkflowEngine.Proofs.Engine.Capacity
import WorkflowEngine.Proofs.Engine.StoredRecords
import WorkflowEngine.Proofs.Engine.WellPlanned
import WorkflowEngine.Proofs.Execution.WriteAhead

namespace WorkflowEngine.Engine

open Time

section

variable {S : Type}

def prepared (engine : Engine S) (plan : Plan) (tenantId : Uuid) (input : Json) : Job :=
  .prepare engine.executor plan engine.config.infraRetry engine.config.executionTimeoutMs.toNat
    (.pending plan engine.ids.draw.1 tenantId input)

/-- A start prepares a job under the next identifier, or leaves the jobs alone. -/
inductive Prepares (before : Engine S) : Option Uuid → Engine S → Prop where
  | refused {after : Engine S} (jobs : after.jobs = before.jobs) : Prepares before none after
  | admitted {after : Engine S} (plan : Plan) (wellFormed : plan.WellFormed) (tenantId : Uuid)
      (input : Json)
      (jobs : after.jobs = before.jobs.insert before.ids.draw.1
        (before.prepared plan tenantId input)) :
      Prepares before (some before.ids.draw.1) after

/-- Undisturbed work before a start belongs to it. -/
theorem Undisturbed.prepares {before between after : Engine S} {answer : Option Uuid}
    (undisturbed : Undisturbed before between) (prepares : Prepares between answer after) :
    Prepares before answer after := by
  cases prepares with
  | refused jobs => exact .refused (jobs.trans undisturbed.jobs)
  | admitted plan wellFormed tenantId input jobs =>
    have same : between.prepared plan tenantId input = before.prepared plan tenantId input := by
      rw [prepared, executor, undisturbed.catalog, undisturbed.config, undisturbed.ids]
      rfl
    rw [undisturbed.jobs, undisturbed.ids, same] at jobs
    rw [undisturbed.ids]
    exact .admitted plan wellFormed tenantId input jobs

theorem toOption_mapError {E F A : Type} (answer : Except E A) (wrap : E → F) :
    (answer.mapError wrap).toOption = answer.toOption := by
  cases answer <;> rfl

theorem startExecution_prepares (engine : Engine S) {plan : Plan} (wellFormed : plan.WellFormed)
    (tenantId : Uuid) (input : Json) :
    Prepares engine (engine.startExecution plan tenantId input).1.toOption
      (engine.startExecution plan tenantId input).2 := by
  unfold startExecution startOn
  split
  · exact .refused rfl
  · split
    · exact .refused rfl
    · exact .admitted plan wellFormed tenantId input rfl

theorem admitAndLaunch_prepares (engine : Engine S) (webhook : Webhook) {plan : Plan}
    (wellFormed : plan.WellFormed) (request : WebhookRequest) :
    Prepares engine (engine.admitAndLaunch webhook plan request).1.toOption
      (engine.admitAndLaunch webhook plan request).2 := by
  unfold admitAndLaunch
  split
  · exact .refused rfl
  · split
    · exact .refused rfl
    · exact .admitted plan wellFormed webhook.tenantId _ rfl

variable [ExecutionStore S]

theorem startWorkflow_prepares {engine : Engine S} (planned : WellPlanned engine)
    (now : Timestamp) (workflowId tenantId : Uuid) (input : Json) :
    Prepares engine (engine.startWorkflow now workflowId tenantId input).1.toOption
      (engine.startWorkflow now workflowId tenantId input).2 := by
  have undisturbed := engine.planFor_undisturbed now workflowId
  rcases engine.startWorkflow_cases now workflowId tenantId input with
    ⟨_, same⟩ | ⟨compiled, answer, same⟩
  · rw [same]
    exact .refused undisturbed.jobs
  · have wellFormed := (planned.planFor now workflowId).2 compiled answer
    rw [same, toOption_mapError]
    exact undisturbed.prepares (startExecution_prepares _ wellFormed tenantId input)

theorem triggerWebhook_prepares {engine : Engine S} (planned : WellPlanned engine)
    (now : Timestamp) (webhookId : String) (request : WebhookRequest) :
    Prepares engine (engine.triggerWebhook now webhookId request).1.toOption
      (engine.triggerWebhook now webhookId request).2 := by
  rcases engine.triggerWebhook_cases now webhookId request with
    ⟨_, same⟩ | ⟨workflowId, webhook, _, ⟨_, same⟩ | ⟨compiled, answer, same⟩⟩
  · rw [same]
    exact .refused rfl
  · rw [same]
    exact .refused (engine.planFor_undisturbed now workflowId).jobs
  · have wellFormed := (planned.planFor now workflowId).2 compiled answer
    have undisturbed := engine.planFor_undisturbed now workflowId
    rw [same]
    exact undisturbed.prepares (admitAndLaunch_prepares _ webhook wellFormed request)

/-- A save hands over what the run saves, and the run takes the answer. -/
theorem save_cases (engine : Engine S) (now : Moment) (id : Uuid) :
    engine.save now id = (engine, []) ∧ engine.acknowledges id = [] ∨
    ∃ job errand failures outcome store, engine.jobs.get? id = some job ∧
      job.run.phase = .saving errand failures ∧
      (job.run.handed errand).put engine.store = (outcome, store) ∧
      engine.save now id = { engine with store := store }.advance now id (.saved outcome) ∧
      engine.acknowledges id = Job.Occurrence.acknowledged ⟨job, now, .saved outcome⟩ := by
  unfold save acknowledges
  cases found : engine.jobs.get? id with
  | none => exact .inl ⟨rfl, rfl⟩
  | some job =>
    dsimp only
    cases phase : job.run.phase with
    | saving errand failures =>
      cases answer : (job.run.handed errand).put engine.store with
      | mk outcome store =>
        have performed : performSave job.run errand engine.store = (outcome, store) :=
          (job.run.performSave_handed errand engine.store).trans answer
        refine .inr ⟨job, errand, failures, outcome, store, rfl, phase, answer, ?_, ?_⟩
        · dsimp only
          rw [performed]
        · dsimp only
          rw [performed]
          simp only [Job.Occurrence.acknowledged, phase]
          cases outcome <;> rfl
    | _ => exact .inl ⟨rfl, rfl⟩

/-- The store refuses what the run hands over, and the run does not try again. -/
def Occurrence.exhausts (occurrence : Occurrence S) (id : Uuid) : Bool :=
  match occurrence.call, occurrence.before.jobs.get? id with
  | .save _ other, some job =>
    match job.run.phase with
    | .saving errand failures =>
      decide (other = id) && !(performSave job.run errand occurrence.before.store).1.isOk &&
        decide (job.run.infraRetry.attempts ≤ failures + 1)
    | _ => false
  | _, _ => false

/-- A call begins an execution, moves it, forgets it or leaves it alone. -/
inductive Fate (occurrence : Occurrence S) (id : Uuid) : Prop where
  | still (jobs : occurrence.after.jobs.get? id = occurrence.before.jobs.get? id)
      (silent : occurrence.acknowledged id = [])
  | begun (plan : Plan) (wellFormed : plan.WellFormed) (tenantId : Uuid) (input : Json)
      (drawn : occurrence.before.ids.draw.1 = id)
      (admission : ∃ billed, occurrence.admission? = some (id, billed))
      (found : occurrence.after.jobs.get? id =
        some (occurrence.before.prepared plan tenantId input))
      (silent : occurrence.acknowledged id = [])
  | moved (job : Job) (now : Moment) (input : Job.Input)
      (found : occurrence.before.jobs.get? id = some job)
      (after : occurrence.after.jobs.get? id = some (job.advance now input).1)
      (saved : occurrence.acknowledged id = Job.Occurrence.acknowledged ⟨job, now, input⟩)
      (exhausts : Job.Occurrence.Exhausts ⟨job, now, input⟩ → occurrence.exhausts id = true)
  | forgotten (job : Job) (found : occurrence.before.jobs.get? id = some job)
      (closed : job.run.phase = .closed) (missing : occurrence.after.jobs.get? id = none)
      (silent : occurrence.acknowledged id = [])

section

variable {occurrence : Occurrence S}

theorem Prepares.fate {answer : Except EngineError Uuid}
    (prepares : Prepares occurrence.before answer.toOption occurrence.after)
    (reply : occurrence.reply = .started answer)
    (silent : ∀ id, occurrence.acknowledged id = []) (id : Uuid) : Fate occurrence id := by
  generalize started : answer.toOption = result at prepares
  cases prepares with
  | refused jobs => exact .still (by rw [jobs]) (silent id)
  | admitted plan wellFormed tenantId input jobs =>
    cases answer with
    | error error => cases started
    | ok known =>
      by_cases drawn : occurrence.before.ids.draw.1 = id
      · have same : known = id := (Option.some.inj started).trans drawn
        subst same
        have found : occurrence.after.jobs.get? known =
            some (occurrence.before.prepared plan tenantId input) := by
          rw [jobs, drawn, Table.getInsertSame]
        exact .begun plan wellFormed tenantId input drawn (occurrence.admission_of_started reply)
          found (silent known)
      · have kept : occurrence.after.jobs.get? id = occurrence.before.jobs.get? id := by
          rw [jobs, Table.getInsertOther _ _ drawn]
        exact .still kept (silent id)

/-- An input moves its execution and no other. -/
theorem advance_fate {between : Engine S} {other : Uuid} {now : Moment} {input : Job.Input}
    (jobs : between.jobs = occurrence.before.jobs)
    (after : occurrence.after.jobs = (between.advance now other input).1.jobs)
    (saved : ∀ job, occurrence.before.jobs.get? other = some job →
      occurrence.acknowledged other = Job.Occurrence.acknowledged ⟨job, now, input⟩)
    (exhausts : ∀ job, occurrence.before.jobs.get? other = some job →
      Job.Occurrence.Exhausts ⟨job, now, input⟩ → occurrence.exhausts other = true)
    (silent : ∀ id ≠ other, occurrence.acknowledged id = []) (id : Uuid) :
    Fate occurrence id := by
  cases found : occurrence.before.jobs.get? other with
  | none =>
    rw [advance_unknown (jobs ▸ found), jobs] at after
    have quiet : occurrence.acknowledged id = [] := by
      by_cases same : id = other
      · exact Occurrence.acknowledged_missing (same ▸ found)
      · exact silent id same
    exact .still (by rw [after]) quiet
  | some job =>
    obtain ⟨_, moves⟩ := advance_moves (jobs ▸ found) now input
    rw [moves.jobs, jobs] at after
    by_cases same : id = other
    · subst same
      have moved : occurrence.after.jobs.get? id = some (job.advance now input).1 := by
        rw [after, Table.getInsertSame]
      exact .moved job now input found moved (saved job found) (exhausts job found)
    · have kept : occurrence.after.jobs.get? id = occurrence.before.jobs.get? id := by
        rw [after, Table.getInsertOther _ _ (Ne.symm same)]
      exact .still kept (silent id same)

end

end

/-- Nothing is acknowledged by an input that is no answer of the store. -/
theorem acknowledged_unsaved (job : Job) (now : Moment) {input : Job.Input}
    (unsaved : ∀ outcome, input ≠ .saved outcome) :
    Job.Occurrence.acknowledged ⟨job, now, input⟩ = [] := by
  unfold Job.Occurrence.acknowledged
  split
  · next same => exact absurd same (unsaved _)
  · rfl

/-- An input that is no answer of the store exhausts no save. -/
theorem unexhausted_unsaved (job : Job) (now : Moment) {input : Job.Input}
    (unsaved : ∀ outcome, input ≠ .saved outcome) :
    ¬Job.Occurrence.Exhausts ⟨job, now, input⟩ := by
  rintro ⟨_, _, _, _, given, _⟩
  exact unsaved _ given

theorem Undisturbed.fate {occurrence : Occurrence MemoryStore}
    (undisturbed : Undisturbed occurrence.before occurrence.after)
    (silent : ∀ id, occurrence.acknowledged id = []) (id : Uuid) : Fate occurrence id :=
  .still (by rw [undisturbed.jobs]) (silent id)

/-- A save moves its execution with the answer of the store. -/
theorem save_fate (engine : Engine MemoryStore) (now : Moment) (other id : Uuid) :
    Fate ⟨engine, .save now other⟩ id := by
  have silent (id : Uuid) (different : id ≠ other) :
      (Occurrence.mk engine (.save now other)).acknowledged id = [] :=
    if_neg (Ne.symm different)
  rcases engine.save_cases now other with
    ⟨idle, nothing⟩ | ⟨job, errand, failures, outcome, store, found, phase, put, moved, saved⟩
  · have still : (Occurrence.mk engine (.save now other)).after = engine := congrArg Prod.fst idle
    have quiet : (Occurrence.mk engine (.save now other)).acknowledged id = [] := by
      by_cases same : id = other
      · subst same
        exact (if_pos rfl).trans nothing
      · exact silent id same
    exact .still (by rw [still]) quiet
  · have still : ({ engine with store := store } : Engine MemoryStore).jobs = engine.jobs := rfl
    have after : (Occurrence.mk engine (.save now other)).after.jobs =
        ({ engine with store := store }.advance now other (.saved outcome)).1.jobs :=
      congrArg (fun result => result.1.jobs) moved
    refine advance_fate still after (fun known stored => ?_) (fun known stored exhausts => ?_)
      silent id
    · have same : known = job := Option.some.inj (stored.symm.trans found)
      rw [same]
      exact (if_pos rfl).trans saved
    · have same : known = job := Option.some.inj (stored.symm.trans found)
      subst same
      obtain ⟨under, _, error, saving, refused, last⟩ := exhausts
      obtain ⟨rfl, rfl⟩ := Run.Phase.saving.inj (saving.symm.trans phase)
      have answer : (performSave known.run under engine.store).1 = .error error := by
        rw [Run.performSave_handed, put]
        exact Job.Input.saved.inj refused
      simp only [Occurrence.exhausts, found, phase, answer, Except.isOk, Except.toBool,
        decide_true, Bool.not_false, Bool.and_true, Bool.true_and, decide_eq_true_eq]
      exact last

theorem evict_fate (engine : Engine MemoryStore) (other id : Uuid) :
    Fate ⟨engine, .evict other⟩ id := by
  rcases engine.evict_forgets other with still | ⟨job, found, closed, forgotten⟩
  · have same : (Occurrence.mk engine (.evict other)).after = engine := still
    exact .still (by rw [same]) rfl
  · have after : (Occurrence.mk engine (.evict other)).after =
        { engine with jobs := engine.jobs.erase other } := forgotten
    by_cases same : other = id
    · subst same
      exact .forgotten job found closed (by rw [after]; exact Table.getEraseSame _ _) rfl
    · exact .still (by rw [after]; exact Table.getEraseOther _ same) rfl

theorem cancel_fate (engine : Engine MemoryStore) (now : Moment) (other id : Uuid) :
    Fate ⟨engine, .cancel now other⟩ id := by
  rcases engine.cancel_moves now other with undisturbed | ⟨moved, _⟩
  · exact undisturbed.fate (fun _ => rfl) id
  · have after : (Occurrence.mk engine (.cancel now other)).after =
        (engine.advance now other .cancelRequested).1 := moved
    have unsaved (outcome : Except StoreError Unit) :
        Job.Input.cancelRequested ≠ .saved outcome := by simp
    exact advance_fate rfl (congrArg Engine.jobs after)
      (fun job _ => (acknowledged_unsaved job now unsaved).symm)
      (fun job _ exhausts => absurd exhausts (unexhausted_unsaved job now unsaved))
      (fun _ _ => rfl) id

/-- Every genuine call is one of these for each execution. -/
theorem perform_fate {occurrence : Occurrence MemoryStore} (genuine : occurrence.Genuine)
    (planned : WellPlanned occurrence.before) (id : Uuid) : Fate occurrence id := by
  obtain ⟨engine, call⟩ := occurrence
  cases call with
  | compile definition =>
    exact (engine.compile_undisturbed definition).fate (fun _ => rfl) id
  | register definition =>
    exact (engine.register_undisturbed definition).fate (fun _ => rfl) id
  | unregister workflowId =>
    exact (engine.unregister_undisturbed workflowId).fate (fun _ => rfl) id
  | planFor now workflowId =>
    exact (engine.planFor_undisturbed now workflowId).fate (fun _ => rfl) id
  | startExecution plan tenantId input =>
    refine Prepares.fate ?_ rfl (fun _ => rfl) id
    rw [toOption_mapError]
    exact engine.startExecution_prepares genuine tenantId input
  | startWorkflow now workflowId tenantId input =>
    exact (startWorkflow_prepares planned now workflowId tenantId input).fate rfl (fun _ => rfl) id
  | admitAndLaunch webhook plan request =>
    exact (engine.admitAndLaunch_prepares webhook genuine request).fate rfl (fun _ => rfl) id
  | triggerWebhook now webhookId request =>
    exact (triggerWebhook_prepares planned now webhookId request).fate rfl (fun _ => rfl) id
  | advance now other input =>
    refine advance_fate rfl rfl (fun job _ => ?_)
      (fun job _ exhausts => absurd exhausts (unexhausted_unsaved job now genuine))
      (fun _ _ => rfl) id
    rw [acknowledged_unsaved job now genuine]
    rfl
  | save now other => exact save_fate engine now other id
  | evict other => exact evict_fate engine other id
  | status other => exact (engine.status_undisturbed other).fate (fun _ => rfl) id
  | cancel now other => exact cancel_fate engine now other id
  | setTenants tenants => exact .still rfl rfl
  | setStore store => exact .still rfl rfl

/-- Nothing is published of an execution by a call after which it is not in memory. -/
theorem Occurrence.published_missing {S : Type} [ExecutionStore S] {occurrence : Occurrence S}
    {id : Uuid} (missing : occurrence.after.jobs.get? id = none) :
    occurrence.published id = [] := by
  cases perform_traffic occurrence with
  | quiet _ _ _ _ _ published => exact published id
  | admits tenantId job admits _ _ published =>
    rw [published]
    split
    · next drawn =>
      rw [admits.jobs, drawn, Table.getInsertSame] at missing
      cases missing
    · rfl
  | moves other job now input moves _ effects published =>
    rw [published, effects]
    split
    · next same =>
      rw [moves.jobs, same, Table.getInsertSame] at missing
      cases missing
    · rfl
  | evicts _ _ _ _ _ _ _ _ _ published => exact published id

/-- The chronicle of an execution is the course of its job and what was acknowledged. -/
structure Chronicle (past : List (Occurrence MemoryStore)) (id : Uuid) (job : Job) : Prop where
  admitted : id ∈ (admitted past).map Prod.fst
  course : ∃ (executor : Executor) (plan : Plan) (infraRetry : RetryPolicy) (timeoutMs : Nat)
    (tenantId : Uuid) (triggerInput : Json) (record : List Job.Occurrence), plan.WellFormed ∧
      Job.Course (.prepare executor plan infraRetry timeoutMs
        (.pending plan id tenantId triggerInput)) record job ∧
      Job.acknowledged record = acknowledged past id

/-- An execution is unknown, or held in memory, or it is gone after its end. -/
inductive Chronicled (past : List (Occurrence MemoryStore)) (engine : Engine MemoryStore)
    (id : Uuid) : Prop where
  | unknown (missing : engine.jobs.get? id = none) (silent : acknowledged past id = [])
  | held (job : Job) (found : engine.jobs.get? id = some job)
      (chronicle : Chronicle past id job)
  | gone (job : Job) (missing : engine.jobs.get? id = none) (closed : job.run.phase = .closed)
      (shown : (published past id).getLast? = some job.snapshot)
      (chronicle : Chronicle past id job)

section

variable {past : List (Occurrence MemoryStore)} {occurrence : Occurrence MemoryStore} {id : Uuid}
  {job : Job}

theorem admitted_mono (occurrence : Occurrence MemoryStore)
    (member : id ∈ (admitted past).map Prod.fst) :
    id ∈ (admitted (past ++ [occurrence])).map Prod.fst := by
  rw [admitted_concat, List.map_append]
  exact List.mem_append_left _ member

theorem acknowledged_same (silent : occurrence.acknowledged id = []) :
    acknowledged (past ++ [occurrence]) id = acknowledged past id := by
  rw [acknowledged_concat, silent, List.append_nil]

/-- What a job saves belongs to its execution. -/
theorem Chronicle.owner (chronicle : Chronicle past id job) : job.run.execution.id = id := by
  obtain ⟨_, _, _, _, _, _, _, _, course, _⟩ := chronicle.course
  exact course.id

theorem Chronicle.same (chronicle : Chronicle past id job)
    (silent : occurrence.acknowledged id = []) : Chronicle (past ++ [occurrence]) id job := by
  refine ⟨admitted_mono occurrence chronicle.admitted, ?_⟩
  rw [acknowledged_same silent]
  exact chronicle.course

theorem Chronicle.moved (chronicle : Chronicle past id job) {now : Moment} {input : Job.Input}
    (saved : occurrence.acknowledged id = Job.Occurrence.acknowledged ⟨job, now, input⟩) :
    Chronicle (past ++ [occurrence]) id (job.advance now input).1 := by
  refine ⟨admitted_mono occurrence chronicle.admitted, ?_⟩
  obtain ⟨executor, plan, infraRetry, timeoutMs, tenantId, triggerInput, record, wellFormed,
    course, same⟩ := chronicle.course
  refine ⟨executor, plan, infraRetry, timeoutMs, tenantId, triggerInput, _, wellFormed,
    course.next now input, ?_⟩
  rw [Job.acknowledged_concat, acknowledged_concat, same, saved]

/-- An execution in memory has the chronicle of its job. -/
theorem Chronicled.of_found {engine : Engine MemoryStore} (chronicled : Chronicled past engine id)
    (found : engine.jobs.get? id = some job) : Chronicle past id job := by
  cases chronicled with
  | unknown missing => simp [missing] at found
  | gone _ missing => simp [missing] at found
  | held known inMemory chronicle =>
    have same : known = job := Option.some.inj (inMemory.symm.trans found)
    exact same ▸ chronicle

/-- A call goes on with the chronicle of each execution. -/
theorem Chronicled.next (chronicled : Chronicled past occurrence.before id)
    (balanced : Balanced past occurrence.before)
    (distinct : ((admitted (past ++ [occurrence])).map Prod.fst).Nodup)
    (fate : Fate occurrence id) : Chronicled (past ++ [occurrence]) occurrence.after id := by
  cases fate with
  | still jobs silent =>
    cases chronicled with
    | unknown missing quiet =>
      exact .unknown (jobs.trans missing) ((acknowledged_same silent).trans quiet)
    | held job found chronicle => exact .held job (jobs.trans found) (chronicle.same silent)
    | gone job missing closed shown chronicle =>
      have absent : occurrence.after.jobs.get? id = none := jobs.trans missing
      rw [← published_same (Occurrence.published_missing absent)] at shown
      exact .gone job absent closed shown (chronicle.same silent)
  | begun plan wellFormed tenantId input drawn admission found silent =>
    obtain ⟨billed, admission⟩ := admission
    have now : admitted (past ++ [occurrence]) = admitted past ++ [(id, billed)] := by
      simp [admitted_concat, admission]
    have fresh := admission_fresh distinct admission
    cases chronicled with
    | held job _ chronicle => exact absurd chronicle.admitted fresh
    | gone job _ _ _ chronicle => exact absurd chronicle.admitted fresh
    | unknown missing quiet =>
      have begins : Job.Course (.prepare occurrence.before.executor plan
          occurrence.before.config.infraRetry occurrence.before.config.executionTimeoutMs.toNat
          (.pending plan id tenantId input)) []
          (occurrence.before.prepared plan tenantId input) := by
        rw [prepared, drawn]
        exact .start
      refine .held _ found ⟨by simp [now], ?_⟩
      exact ⟨_, plan, _, _, tenantId, input, [], wellFormed, begins,
        ((acknowledged_same silent).trans quiet).symm⟩
  | moved job now input found after saved =>
    exact .held _ after ((chronicled.of_found found).moved saved)
  | forgotten job found closed missing silent =>
    have shown := (balanced.accounted id job found).shown
    rw [← published_same (Occurrence.published_missing missing)] at shown
    exact .gone job missing closed shown ((chronicled.of_found found).same silent)

/-- A call goes on with what the store holds. -/
theorem mirrors_next {first : MemoryStore}
    (mirrors : first.Mirrors occurrence.before.store (acknowledged past))
    (genuine : occurrence.Genuine)
    (owners : ∀ id job, occurrence.before.jobs.get? id = some job → job.run.execution.id = id) :
    first.Mirrors occurrence.after.store (acknowledged (past ++ [occurrence])) := by
  have unchanged (records : occurrence.before.store.SameRecords occurrence.after.store)
      (silent : ∀ id, occurrence.acknowledged id = []) :
      first.Mirrors occurrence.after.store (acknowledged (past ++ [occurrence])) := by
    have same : acknowledged (past ++ [occurrence]) = acknowledged past :=
      funext fun id => acknowledged_same (silent id)
    rw [same]
    exact mirrors.same records
  by_cases saves : ∃ now id, occurrence.call = .save now id
  · obtain ⟨engine, call⟩ := occurrence
    obtain ⟨now, other, rfl⟩ := saves
    have mine : (Occurrence.mk engine (.save now other)).acknowledged other =
        engine.acknowledges other := if_pos rfl
    have theirs (id : Uuid) (different : other ≠ id) :
        (Occurrence.mk engine (.save now other)).acknowledged id = [] := if_neg different
    have nothing (silent : engine.acknowledges other = []) (id : Uuid) :
        (Occurrence.mk engine (.save now other)).acknowledged id = [] := by
      by_cases same : other = id
      · exact same ▸ mine.trans silent
      · exact theirs id same
    rcases engine.save_cases now other with
      ⟨idle, silent⟩ | ⟨job, errand, failures, outcome, store, found, phase, put, moved, saved⟩
    · have still : (Occurrence.mk engine (.save now other)).after = engine :=
        congrArg Prod.fst idle
      exact unchanged (by rw [still]; exact ⟨rfl, rfl⟩) (nothing silent)
    · have after : (Occurrence.mk engine (.save now other)).after.store = store :=
        (congrArg (fun result => result.1.store) moved).trans (advance_store _ now other _)
      rcases MemoryStore.put_cases (job.run.handed errand) engine.store with
        stored | ⟨error, kept, refused, records⟩
      · obtain ⟨rfl, rfl⟩ := Prod.mk.inj (put.symm.trans stored)
        have owner : (job.run.handed errand).owner = other :=
          (job.run.handed_owner errand).trans (owners other job found)
        have grown : acknowledged (past ++ [⟨engine, .save now other⟩]) = fun id =>
            if (job.run.handed errand).owner = id then
              acknowledged past id ++ [job.run.handed errand]
            else acknowledged past id := by
          funext id
          rw [acknowledged_concat, owner]
          split
          · next same =>
            rw [← same, mine, saved]
            simp only [Job.Occurrence.acknowledged, phase]
          · next different => rw [theirs id different, List.append_nil]
        rw [after, grown]
        exact mirrors.keep (job.run.handed errand)
      · obtain ⟨rfl, rfl⟩ := Prod.mk.inj (put.symm.trans refused)
        have silent : engine.acknowledges other = [] := by
          rw [saved]
          simp only [Job.Occurrence.acknowledged, phase]
        exact unchanged (by rw [after]; exact records) (nothing silent)
  · obtain ⟨records, silent⟩ := perform_records genuine fun now id same => saves ⟨now, id, same⟩
    exact unchanged records silent

end

section

variable {config : EngineConfig} {catalog : Catalog} {first : MemoryStore} {ids : IdSource}
  {past : List (Occurrence MemoryStore)} {engine : Engine MemoryStore}

/-- The store holds what it has acknowledged, and every execution has its chronicle. -/
theorem Course.chronicled (course : Course (create config catalog first ids) past engine)
    (genuine : ∀ occurrence ∈ past, occurrence.Genuine)
    (distinct : ((admitted past).map Prod.fst).Nodup) :
    first.Mirrors engine.store (acknowledged past) ∧ ∀ id, Chronicled past engine id := by
  induction course with
  | start => exact ⟨⟨fun _ => rfl, fun _ _ => rfl⟩, fun id => .unknown rfl rfl⟩
  | @next past engine course call inductionHypothesis =>
    have earlier := admitted_distinct distinct
    have before (occurrence : Occurrence MemoryStore) (member : occurrence ∈ past) :
        occurrence.Genuine :=
      genuine occurrence (List.mem_append_left _ member)
    obtain ⟨mirrors, chronicled⟩ := inductionHypothesis before earlier
    have this : (Occurrence.mk engine call).Genuine := genuine ⟨engine, call⟩ (by simp)
    constructor
    · exact mirrors_next mirrors this fun id job found => ((chronicled id).of_found found).owner
    · intro id
      have planned : WellPlanned engine := course.wellPlanned
      exact (chronicled id).next (course.balanced earlier) distinct (perform_fate this planned id)

end

end WorkflowEngine.Engine
