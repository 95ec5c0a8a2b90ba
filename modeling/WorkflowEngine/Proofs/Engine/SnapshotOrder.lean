/-
This file proves that the snapshots of an execution which an engine holds in memory only move
forward, whatever happens between two reads.
-/

import WorkflowEngine.Proofs.Engine.TerminalReads
import WorkflowEngine.Proofs.Execution.Advancement

namespace WorkflowEngine

/-- A reachable job has taken a course from a well-formed plan. -/
def Job.Reachable (job : Job) : Prop :=
  ∃ (executor : Executor) (plan : Plan) (infraRetry : RetryPolicy) (timeoutMs : Nat)
    (id tenantId : Uuid) (triggerInput : Json) (record : List Job.Occurrence), plan.WellFormed ∧
      Job.Course (.prepare executor plan infraRetry timeoutMs
        (.pending plan id tenantId triggerInput)) record job

theorem Job.Reachable.next {job : Job} (reachable : job.Reachable) (now : Moment)
    (input : Job.Input) : (job.advance now input).1.Reachable := by
  obtain ⟨executor, plan, infraRetry, timeoutMs, id, tenantId, triggerInput, record, wellFormed,
    course⟩ := reachable
  exact ⟨executor, plan, infraRetry, timeoutMs, id, tenantId, triggerInput, _, wellFormed,
    course.next now input⟩

theorem Job.Reachable.leads {job : Job} (reachable : job.Reachable) (now : Moment)
    (input : Job.Input) : job.snapshot.LeadsTo (job.advance now input).1.snapshot := by
  obtain ⟨_, _, _, _, _, _, _, _, wellFormed, course⟩ := reachable
  exact course.leads_next wellFormed now input

namespace Engine

variable {S : Type}

def snapshot? (engine : Engine S) (executorName : String) (id : Uuid) : Option Execution :=
  (engine.job? executorName id).map Job.snapshot

theorem snapshot_found {engine : Engine S} {executorName : String} {id : Uuid}
    {shown : Execution} (shows : engine.snapshot? executorName id = some shown) :
    ∃ job, engine.jobs.get? id = some job ∧ job.snapshot = shown := by
  obtain ⟨job, known, same⟩ := Option.map_eq_some_iff.mp shows
  exact ⟨job, (Option.filter_eq_some_iff.mp known).1, same⟩

/-- A start leaves reachable jobs reachable. -/
theorem Prepares.reachable {before after : Engine S} {answer : Option Uuid}
    (prepares : Prepares before answer after)
    (reachable : ∀ id job, before.jobs.get? id = some job → job.Reachable) (id : Uuid) (job : Job)
    (found : after.jobs.get? id = some job) : job.Reachable := by
  cases prepares with
  | refused jobs => exact reachable id job (jobs ▸ found)
  | admitted plan wellFormed tenantId input jobs =>
    rw [jobs] at found
    by_cases drawn : before.ids.draw.1 = id
    · rw [drawn, Table.getInsertSame, Option.some.injEq] at found
      rw [← found]
      exact ⟨_, plan, _, _, _, tenantId, input, [], wellFormed, .start⟩
    · rw [Table.getInsertOther _ _ drawn] at found
      exact reachable id job found

variable [ExecutionStore S]

/-- As long as an execution is in memory its status is its snapshot. -/
theorem status_of_snapshot {engine : Engine S} {id : Uuid} {shown : Execution}
    (shows : engine.snapshot? engine.executor.name id = some shown) :
    (engine.status id).1 = .ok shown := by
  obtain ⟨job, known, same⟩ := Option.map_eq_some_iff.mp shows
  rw [status, known, ← same]

/-- A call plans well if the plan that it hands in is well formed. -/
def Occurrence.PlansWell (occurrence : Occurrence S) : Prop :=
  match occurrence.call with
  | .startExecution plan _ _ | .admitAndLaunch _ plan _ => plan.WellFormed
  | _ => True

/-- A call that plans well prepares the job of an execution, or it admits none. -/
theorem Occurrence.prepares {occurrence : Occurrence S} (planned : WellPlanned occurrence.before)
    (plans : occurrence.PlansWell) :
    (∃ answer, Prepares occurrence.before answer occurrence.after) ∨
      occurrence.admission? = none := by
  obtain ⟨engine, call⟩ := occurrence
  cases call with
  | startExecution plan tenantId input =>
    exact .inl ⟨_, engine.startExecution_prepares plans tenantId input⟩
  | startWorkflow now workflowId tenantId input =>
    exact .inl ⟨_, startWorkflow_prepares planned now workflowId tenantId input⟩
  | admitAndLaunch webhook plan request =>
    exact .inl ⟨_, engine.admitAndLaunch_prepares webhook plans request⟩
  | triggerWebhook now webhookId request =>
    exact .inl ⟨_, triggerWebhook_prepares planned now webhookId request⟩
  | _ => exact .inr rfl

/-- A call leaves reachable jobs reachable. -/
theorem Occurrence.reachable (occurrence : Occurrence S) (planned : WellPlanned occurrence.before)
    (plans : occurrence.PlansWell)
    (reachable : ∀ id job, occurrence.before.jobs.get? id = some job → job.Reachable) (id : Uuid)
    (job : Job) (found : occurrence.after.jobs.get? id = some job) : job.Reachable := by
  rcases Occurrence.prepares planned plans with ⟨answer, prepares⟩ | unadmitted
  · exact prepares.reachable reachable id job found
  · cases perform_traffic occurrence with
    | quiet jobs => exact reachable id job (jobs ▸ found)
    | admits _ _ _ admission => simp [unadmitted] at admission
    | moves other moved now input moves =>
      rw [moves.jobs] at found
      by_cases same : other = id
      · rw [same, Table.getInsertSame, Option.some.injEq] at found
        rw [← found]
        exact (reachable other moved moves.found).next now input
      · rw [Table.getInsertOther _ _ same] at found
        exact reachable id job found
    | evicts other forgotten _ _ jobs =>
      rw [jobs] at found
      by_cases same : other = id
      · rw [same, Table.getEraseSame] at found
        cases found
      · rw [Table.getEraseOther _ same] at found
        exact reachable id job found

section

variable {config : EngineConfig} {catalog : Catalog} {store : S} {ids : IdSource}
  {past earlier later : List (Occurrence S)} {between engine : Engine S} {id : Uuid}

/-- All along a course the jobs in memory are reachable. -/
theorem Course.reachable (course : Course (create config catalog store ids) past engine)
    (plans : ∀ occurrence ∈ past, occurrence.PlansWell) (id : Uuid) (job : Job)
    (found : engine.jobs.get? id = some job) : job.Reachable := by
  induction course generalizing id job with
  | start => simp [create, Table.get?] at found
  | @next past engine course call inductionHypothesis =>
    have before := inductionHypothesis fun occurrence member =>
      plans occurrence (List.mem_append_left _ member)
    exact Occurrence.reachable ⟨engine, call⟩ course.wellPlanned
      (plans ⟨engine, call⟩ (by simp)) before id job found

/-- What was in memory before a call has moved forward. -/
theorem Occurrence.leads (occurrence : Occurrence S)
    (reachable : ∀ id job, occurrence.before.jobs.get? id = some job → job.Reachable)
    (unadmitted : id ∉ occurrence.admission?.toList.map Prod.fst) {after : Job}
    (found : occurrence.after.jobs.get? id = some after) :
    ∃ job, occurrence.before.jobs.get? id = some job ∧ job.snapshot.LeadsTo after.snapshot := by
  have still (kept : occurrence.after.jobs.get? id = occurrence.before.jobs.get? id) :
      ∃ job, occurrence.before.jobs.get? id = some job ∧ job.snapshot.LeadsTo after.snapshot :=
    ⟨after, kept.symm.trans found, .refl after.snapshot⟩
  cases perform_traffic occurrence with
  | quiet jobs => exact still (by rw [jobs])
  | admits tenantId started admits admission =>
    have different : occurrence.before.ids.draw.1 ≠ id := by
      rintro rfl
      simp [admission] at unadmitted
    exact still (by rw [admits.jobs, Table.getInsertOther _ _ different])
  | moves other moved now input moves =>
    by_cases same : other = id
    · subst same
      rw [moves.jobs, Table.getInsertSame, Option.some.injEq] at found
      rw [← found]
      exact ⟨moved, moves.found, (reachable other moved moves.found).leads now input⟩
    · exact still (by rw [moves.jobs, Table.getInsertOther _ _ same])
  | evicts other forgotten _ _ jobs =>
    by_cases same : other = id
    · rw [jobs, same, Table.getEraseSame] at found
      cases found
    · exact still (by rw [jobs, Table.getEraseOther _ same])

/-- As long as nobody admits an execution again, its snapshots in memory move forward. -/
theorem Course.leads (first : Course (create config catalog store ids) earlier between)
    (rest : Course between later engine)
    (plans : ∀ occurrence ∈ earlier ++ later, occurrence.PlansWell)
    (unadmitted : id ∉ (admitted later).map Prod.fst) {job after : Job}
    (held : between.jobs.get? id = some job) (found : engine.jobs.get? id = some after) :
    job.snapshot.LeadsTo after.snapshot := by
  induction rest generalizing after with
  | start =>
    rw [held, Option.some.injEq] at found
    rw [found]
  | @next later engine rest call inductionHypothesis =>
    rw [admitted_concat, List.map_append, List.mem_append, not_or] at unadmitted
    rw [← List.append_assoc] at plans
    have before (occurrence : Occurrence S) (member : occurrence ∈ earlier ++ later) :
        occurrence.PlansWell := plans occurrence (List.mem_append_left _ member)
    obtain ⟨last, known, leads⟩ := Occurrence.leads ⟨engine, call⟩
      ((first.append rest).reachable before) unadmitted.2 found
    exact (inductionHypothesis before unadmitted.1 known).trans leads

/-- Two snapshots are in order, whatever has happened between the reads of them. -/
theorem snapshots_forward (first : Course (create config catalog store ids) earlier between)
    (rest : Course between later engine)
    (plans : ∀ occurrence ∈ earlier ++ later, occurrence.PlansWell)
    (distinct : ((admitted (earlier ++ later)).map Prod.fst).Nodup) {executorName : String}
    {before after : Execution} (shown : between.snapshot? executorName id = some before)
    (shows : engine.snapshot? executorName id = some after) : before.LeadsTo after := by
  obtain ⟨job, held, rfl⟩ := snapshot_found shown
  obtain ⟨last, found, rfl⟩ := snapshot_found shows
  have billed := (first.balanced (admitted_distinct distinct)).accounted id job held
  have known : id ∈ (admitted earlier).map Prod.fst := List.mem_map.mpr ⟨_, billed.billed, rfl⟩
  refine first.leads rest plans (fun again => ?_) held found
  rw [admitted_append, List.map_append] at distinct
  exact List.disjoint_of_nodup_append distinct known again

end

/-- The pair is started and its first step runs. -/
def runningPair : List (Occurrence MemoryStore) × Engine MemoryStore :=
  replay [] bare (.startExecution .pair .nil .null ::
    scripted ((Job.pairScript (.failed (.fatal "broken"))).take 3))

/-- The first step fails, so that the second one is skipped and the execution ends. -/
def failedPair : List (Occurrence MemoryStore) × Engine MemoryStore :=
  replay [] runningPair.2 (scripted ((Job.pairScript (.failed (.fatal "broken"))).drop 3 ++
    Job.atOnce [.saved (.ok ())]))

theorem Occurrence.Genuine.plansWell {occurrence : Occurrence MemoryStore}
    (genuine : occurrence.Genuine) : occurrence.PlansWell := by
  obtain ⟨engine, call⟩ := occurrence
  cases call with
  | startExecution plan tenantId input => exact genuine
  | admitAndLaunch webhook plan request => exact genuine
  | _ => trivial

/-- The second status of the pair shows what has become of the first one. -/
theorem failedPair_snapshots_forward :
    (∀ occurrence ∈ runningPair.1 ++ failedPair.1, occurrence.PlansWell) ∧
    ((admitted (runningPair.1 ++ failedPair.1)).map Prod.fst).Nodup ∧
    ∃ before after, runningPair.2.snapshot? "engine" ⟨0⟩ = some before ∧
      failedPair.2.snapshot? "engine" ⟨0⟩ = some after ∧ before.LeadsTo after ∧
      (runningPair.2.status ⟨0⟩).1 = .ok before ∧ (failedPair.2.status ⟨0⟩).1 = .ok after ∧
      before.steps.map StepRecord.status = [.running, .pending] ∧ after.status = .failed ∧
      after.steps.map StepRecord.status = [.failed, .skipped] := by
  have first : Course bare runningPair.1 runningPair.2 := Course.start.replay _
  have rest : Course runningPair.2 failedPair.1 failedPair.2 := Course.start.replay _
  have plans : ∀ occurrence ∈ runningPair.1 ++ failedPair.1, occurrence.PlansWell := by
    intro occurrence member
    apply Occurrence.Genuine.plansWell
    rcases List.mem_append.mp member with earlier | later
    · exact started_genuine (Compiler.compile_wellFormed Plan.pair_compiled) bare _
        occurrence earlier
    · exact replay_genuine (List.forall_mem_nil _)
        (fun call listed engine => scripted_genuine listed engine) occurrence later
  have known : (admitted (runningPair.1 ++ failedPair.1)).map Prod.fst = [⟨0⟩] := by
    decide +kernel
  have distinct : ((admitted (runningPair.1 ++ failedPair.1)).map Prod.fst).Nodup := by
    rw [known]
    decide
  have runs : (runningPair.2.snapshot? "engine" ⟨0⟩).map
      (fun shown => shown.steps.map StepRecord.status) = some [.running, .pending] := by
    decide +kernel
  have fails : (failedPair.2.snapshot? "engine" ⟨0⟩).map
      (fun shown => (shown.status, shown.steps.map StepRecord.status)) =
        some (.failed, [.failed, .skipped]) := by
    decide +kernel
  obtain ⟨before, shown, running⟩ := Option.map_eq_some_iff.mp runs
  obtain ⟨after, shows, failed⟩ := Option.map_eq_some_iff.mp fails
  obtain ⟨status, settled⟩ := Prod.mk.inj failed
  exact ⟨plans, distinct, before, after, shown, shows,
    snapshots_forward first rest plans distinct shown shows, status_of_snapshot shown,
    status_of_snapshot shows, running, status, settled⟩

end Engine

end WorkflowEngine
