/-
This file proves what the store gives back of an execution that has ended. The header and each step
are those that were saved last, and they are the final ones if the final ones were saved at all.
-/

import WorkflowEngine.Proofs.Execution.Acknowledged
import WorkflowEngine.Proofs.Execution.Closing
import WorkflowEngine.Proofs.Execution.Progress
import WorkflowEngine.Proofs.Execution.TerminalStatus

namespace WorkflowEngine

namespace Saved

def header? : Saved → Option Execution
  | .header execution => some execution
  | .step _ _ => none

def record? (nodeId : String) : Saved → Option StepRecord
  | .header _ => none
  | .step _ record => if record.nodeId = nodeId then some record else none

def lastHeader (saved : List Saved) : Option Execution :=
  (saved.filterMap header?).getLast?

def lastRecord (saved : List Saved) (nodeId : String) : Option StepRecord :=
  (saved.filterMap (record? nodeId)).getLast?

/-- Header and records are those that were saved last. -/
def assembled (saved : List Saved) : Option Execution :=
  (lastHeader saved).map fun execution => { execution with
    steps := execution.steps.map fun step => (lastRecord saved step.nodeId).getD step }

section

variable {saved : List Saved} {execution : Execution} {id : Uuid} {record : StepRecord}
  {nodeId : String}

theorem lastHeader_concat (saved : List Saved) (last : Saved) :
    lastHeader (saved ++ [last]) = last.header?.or (lastHeader saved) := by
  unfold lastHeader
  cases header : last.header? <;> simp [header]

theorem lastRecord_concat (saved : List Saved) (last : Saved) (nodeId : String) :
    lastRecord (saved ++ [last]) nodeId = (last.record? nodeId).or (lastRecord saved nodeId) := by
  unfold lastRecord
  cases record : last.record? nodeId <;> simp [record]

theorem mem_of_lastHeader (last : lastHeader saved = some execution) :
    .header execution ∈ saved := by
  obtain ⟨item, member, shows⟩ := List.mem_filterMap.mp (List.mem_of_getLast? last)
  cases item with
  | header other =>
    cases shows
    exact member
  | step id record => cases shows

theorem mem_of_lastRecord (last : lastRecord saved nodeId = some record) :
    record.nodeId = nodeId ∧ ∃ id, .step id record ∈ saved := by
  obtain ⟨item, member, shows⟩ := List.mem_filterMap.mp (List.mem_of_getLast? last)
  cases item with
  | header other => cases shows
  | step id other =>
    simp only [record?, Option.ite_none_right_eq_some, Option.some.injEq] at shows
    obtain ⟨named, rfl⟩ := shows
    exact ⟨named, id, member⟩

/-- A step of which a record was saved has a last one. -/
theorem lastRecord_of_mem (member : .step id record ∈ saved) :
    ∃ last, lastRecord saved record.nodeId = some last := by
  have listed : record ∈ saved.filterMap (record? record.nodeId) :=
    List.mem_filterMap.mpr ⟨_, member, by simp [record?]⟩
  exact ⟨_, List.getLast?_eq_some_getLast (List.ne_nil_of_mem listed)⟩

end

end Saved

/-- The store has acknowledged the header and the records as they are shown. -/
structure SavedThrough (saved : List Saved) (shown : Execution) : Prop where
  header : .header shown ∈ saved
  steps : ∀ record ∈ shown.steps, ∀ earlier, .step shown.id earlier ∈ saved →
    earlier.nodeId = record.nodeId → .step shown.id record ∈ saved

namespace Run

/-- What the store has acknowledged is up to date if what is final in it was saved last. -/
structure Current (run : Run) (saved : List Saved) : Prop where
  owned : ∀ id record, .step id record ∈ saved → id = run.execution.id
  final : ∀ id record, .step id record ∈ saved → record.status.isSettled = true →
    record ∈ run.execution.steps
  latest : ∀ id record, .step id record ∈ saved → record.status.isSettled = true →
    Saved.lastRecord saved record.nodeId = some record
  closed : ∀ header, .header header ∈ saved → header.status.isTerminal = true →
    run.phase = .closed ∧ header = run.execution ∧ Saved.lastHeader saved = some header

section

variable {run before after : Run} {saved : List Saved}

/-- A settled record stays among the records. -/
theorem Lasts.mem (lasts : before.Lasts after) {record : StepRecord}
    (member : record ∈ before.execution.steps) (settled : record.status.isSettled = true) :
    record ∈ after.execution.steps := by
  obtain ⟨index, found⟩ := List.mem_iff_getElem?.mp member
  have shown : before.record index = record := by simp [Run.record, found]
  have settledBefore : before.Settled index := by rwa [Settled, shown]
  have inside := (lasts.settled settledBefore).inside
  have kept := lasts index settledBefore
  rw [shown] at kept
  simp only [Run.record, List.getElem?_eq_getElem inside, Option.getD_some] at kept
  exact kept ▸ List.getElem_mem inside

end

end Run

namespace Job

section

variable {start job : Job} {past : List Occurrence} {now : Moment} {input : Input}

/-- What an occurrence acknowledges is what the run hands over, or nothing. -/
theorem acknowledged_cases (job : Job) (now : Moment) (input : Input) :
    Occurrence.acknowledged ⟨job, now, input⟩ = [] ∨
    ∃ errand failures, job.run.phase = .saving errand failures ∧ input = .saved (.ok ()) ∧
      Occurrence.acknowledged ⟨job, now, input⟩ = [job.run.handed errand] := by
  unfold Occurrence.acknowledged
  split
  · next errand failures phase same => exact .inr ⟨errand, failures, phase, same, rfl⟩
  · exact .inl rfl

/-- The record that is saved for an errand is that of a step. -/
theorem Sound.target_inside (sound : Sound start past job) (marked : job.run.Marked)
    {errand : Errand} {failures : UInt32} (phase : job.run.phase = .saving errand failures)
    {index : Nat} (target : Run.target errand = some index) :
    index < job.run.execution.steps.length := by
  have valid := sound.valid
  simp only [Run.Valid, phase] at valid
  have own : job.run.errand? = some errand := by simp only [Run.errand?, phase]
  cases errand <;> simp only [Run.target, reduceCtorEq, Option.some.injEq] at target
  case dispatching other previous =>
    obtain ⟨live, _, inside, _⟩ := valid
    rw [live.recordCount, ← target]
    exact inside
  case settling other released halt =>
    obtain ⟨earlier, report, last, same, _⟩ := valid
    have reported : report ∈ reports past := by simp [last]
    have settled := sound.reported_settled reported
    rw [← target, ← same]
    exact settled.inside
  case skipping other rest halt => exact (marked index (by simp [Run.marked, own, target])).inside
  case sweeping ending other rest =>
    exact (marked index (by simp [Run.marked, own, target])).inside

/-- The header that is saved last is that of a run which closes. -/
theorem Standing.header_closes (standing : Standing past job) {errand : Errand}
    {failures : UInt32} (phase : job.run.phase = .saving errand failures)
    (target : Run.target errand = none) (ended : job.run.execution.status.isTerminal = true)
    (now : Moment) : (job.advance now (.saved (.ok ()))).1.run.phase = .closed ∧
      (job.advance now (.saved (.ok ()))).1.run.execution = job.run.execution := by
  cases errand <;> simp only [Run.target, reduceCtorEq] at target
  case opening =>
    cases standing with
    | closed closed => simp [phase] at closed
    | opened opened =>
      have running := opened.running phase (by simp)
      simp [running, ExecutionStatus.isTerminal] at ended
  case closing ending =>
    have last : job.run.advance now (.saved (.ok ())) =
        job.run.afterSave now (.ok ()) (.closing ending) := Run.advance_last phase now (by simp)
    rw [run_after]
    simp only [answer?, last]
    exact ⟨rfl, rfl⟩

/-- What is up to date stays so while nothing is acknowledged. -/
theorem Sound.current_still (wellFormed : start.run.plan.WellFormed)
    (sound : Sound start past job) (marked : job.run.Marked) {saved : List Saved}
    (current : job.run.Current saved) (now : Moment) (input : Input) :
    (job.advance now input).1.run.Current saved := by
  have lasts := (sound.faithful wellFormed marked now input).1
  refine ⟨?_, ?_, current.latest, ?_⟩
  · rw [id_after]
    exact current.owned
  · intro id record member settled
    exact lasts.mem (current.final id record member settled) settled
  · intro header member ended
    obtain ⟨closed, same, last⟩ := current.closed header member ended
    rw [run_after_closed closed]
    exact ⟨closed, same, last⟩

/-- What is up to date stays so when the store acknowledges what it is handed. -/
theorem Sound.current_saved (wellFormed : start.run.plan.WellFormed)
    (sound : Sound start past job) (standing : Standing past job) (marked : job.run.Marked)
    (distinct : (job.run.execution.steps.map StepRecord.nodeId).Nodup) {saved : List Saved}
    (current : job.run.Current saved) {errand : Errand} {failures : UInt32}
    (phase : job.run.phase = .saving errand failures) (now : Moment) :
    (job.advance now (.saved (.ok ()))).1.run.Current (saved ++ [job.run.handed errand]) := by
  have lasts := (sound.faithful wellFormed marked now (.saved (.ok ()))).1
  have unclosed {header : Execution} (member : .header header ∈ saved) :
      header.status.isTerminal = false := by
    by_contra ended
    obtain ⟨closed, _⟩ := current.closed header member (by simpa using ended)
    simp [phase] at closed
  cases target : Run.target errand with
  | none =>
    have handed : job.run.handed errand = .header job.run.execution := by
      simp only [Run.handed, target]
    have old {id : Uuid} {record : StepRecord}
        (member : .step id record ∈ saved ++ [.header job.run.execution]) :
        .step id record ∈ saved := by simpa using member
    rw [handed]
    refine ⟨?_, ?_, ?_, ?_⟩
    · rw [id_after]
      exact fun id record member => current.owned id record (old member)
    · intro id record member settled
      exact lasts.mem (current.final id record (old member) settled) settled
    · intro id record member settled
      rw [Saved.lastRecord_concat]
      exact current.latest id record (old member) settled
    · intro header member ended
      rw [Saved.lastHeader_concat]
      rcases List.mem_append.mp member with earlier | last
      · simp [unclosed earlier] at ended
      · cases List.mem_singleton.mp last
        obtain ⟨closed, same⟩ := standing.header_closes phase target ended now
        exact ⟨closed, same.symm, rfl⟩
  | some index =>
    have handed : job.run.handed errand =
        .step job.run.execution.id (job.run.record index) := by
      simp only [Run.handed, target]
    have inside := sound.target_inside marked phase target
    have listed : job.run.record index ∈ job.run.execution.steps := by
      simp only [Run.record, List.getElem?_eq_getElem inside, Option.getD_some]
      exact List.getElem_mem inside
    have cases {id : Uuid} {record : StepRecord} (member : .step id record ∈
        saved ++ [.step job.run.execution.id (job.run.record index)]) :
        .step id record ∈ saved ∨
          id = job.run.execution.id ∧ record = job.run.record index := by simpa using member
    rw [handed]
    refine ⟨?_, ?_, ?_, ?_⟩
    · rw [id_after]
      intro id record member
      rcases cases member with old | ⟨rfl, _⟩
      · exact current.owned id record old
      · rfl
    · intro id record member settled
      rcases cases member with old | ⟨_, rfl⟩
      · exact lasts.mem (current.final id record old settled) settled
      · exact lasts.mem listed settled
    · intro id record member settled
      rw [Saved.lastRecord_concat, Saved.record?]
      rcases cases member with old | ⟨_, rfl⟩
      · split
        · -- a final record is not followed by another one of its step
          next same =>
          have unique := List.inj_on_of_nodup_map distinct listed
            (current.final id record old settled) same
          rw [unique, Option.some_or]
        · exact current.latest id record old settled
      · rw [if_pos rfl, Option.some_or]
    · intro header member ended
      have old : .header header ∈ saved := by simpa using member
      simp [unclosed old] at ended

end

section

variable {plan : Plan} {executor : Executor} {infraRetry : RetryPolicy} {timeoutMs : Nat}
  {id tenantId : Uuid} {triggerInput : Json} {past : List Occurrence} {job : Job}

theorem Sound.names_distinct (wellFormed : plan.WellFormed)
    (sound : Sound (prepare executor plan infraRetry timeoutMs
      (.pending plan id tenantId triggerInput)) past job) :
    (job.run.execution.steps.map StepRecord.nodeId).Nodup := by
  rw [sound.names]
  simpa [prepare, Run.prepare, Execution.pending, StepRecord.pending, Function.comp_def] using
    wellFormed.namesDistinct

/-- All along a course the store is up to date with what it has acknowledged. -/
theorem Course.current (wellFormed : plan.WellFormed)
    (course : Course (prepare executor plan infraRetry timeoutMs
      (.pending plan id tenantId triggerInput)) past job) :
    job.run.Current (acknowledged past) := by
  induction course with
  | start => refine ⟨?_, ?_, ?_, ?_⟩ <;> simp [acknowledged]
  | @next past job course now input inductionHypothesis =>
    have sound := course.sound wellFormed
    have marked := course.marked (fun _ _ course => course.sound wellFormed) wellFormed rfl
    rw [acknowledged_concat]
    rcases acknowledged_cases job now input with silent | ⟨errand, failures, phase, rfl, saved⟩
    · rw [silent, List.append_nil]
      exact sound.current_still wellFormed marked inductionHypothesis now input
    · rw [saved]
      exact sound.current_saved wellFormed (course.standing wellFormed) marked
        (sound.names_distinct wellFormed) inductionHypothesis phase now

theorem Course.holds_or_done (course : Course (prepare executor plan infraRetry timeoutMs
    (.pending plan id tenantId triggerInput)) past job) : job.Holds ∨ job.Done := by
  induction course with
  | start => exact .inl (prepare_holds executor plan infraRetry timeoutMs id tenantId triggerInput)
  | next course now input inductionHypothesis =>
    rcases inductionHypothesis with holds | done
    · rcases holds.next now input with ⟨held, _⟩ | gives
      · exact .inl held
      · exact .inr gives.done
    · exact .inr (done.next now input).1

/-- A closed run shows its execution, in which all steps have settled. -/
theorem Course.shown_closed (wellFormed : plan.WellFormed)
    (course : Course (prepare executor plan infraRetry timeoutMs
      (.pending plan id tenantId triggerInput)) past job) (closed : job.run.phase = .closed) :
    job.snapshot = job.run.execution ∧
      ∀ record ∈ job.run.execution.steps, record.status.isSettled = true := by
  have valid := (course.sound wellFormed).valid
  constructor
  · cases course.standing wellFormed with
    | opened opened => simp [Run.Open, closed] at opened
    | closed _ same => exact same
  · intro record listed
    obtain ⟨index, found⟩ := List.mem_iff_getElem?.mp listed
    obtain ⟨_, _, _, coherent⟩ := valid.coherent
    have inside := (List.getElem?_eq_some_iff.mp found).1
    rw [coherent.recordCount] at inside
    have finalized : job.run.Finalized := .inl closed
    simpa [Run.record, found] using finalized.settled valid index inside

/-- What was saved makes up the end exactly if it was saved through. -/
theorem Course.assembled_iff (wellFormed : plan.WellFormed)
    (course : Course (prepare executor plan infraRetry timeoutMs
      (.pending plan id tenantId triggerInput)) past job) (closed : job.run.phase = .closed) :
    Saved.assembled (acknowledged past) = some job.snapshot ↔
      SavedThrough (acknowledged past) job.snapshot := by
  have current := course.current wellFormed
  obtain ⟨shown, settled⟩ := course.shown_closed wellFormed closed
  have ended : job.snapshot.status.isTerminal = true := by
    rcases course.holds_or_done with holds | done
    · have opened := holds.opened
      simp [Run.Open, closed] at opened
    · exact done.ended
  constructor
  · intro together
    obtain ⟨header, last, whole⟩ := Option.map_eq_some_iff.mp together
    have status : header.status = job.snapshot.status := by rw [← whole]
    have member := Saved.mem_of_lastHeader last
    have same : header = job.snapshot := by
      rw [shown]
      exact (current.closed header member (status ▸ ended)).2.1
    rw [same] at member whole
    refine ⟨member, fun record listed earlier known named => ?_⟩
    obtain ⟨newest, saved⟩ := Saved.lastRecord_of_mem known
    rw [named] at saved
    obtain ⟨_, owner, inside⟩ := Saved.mem_of_lastRecord saved
    have steps := congrArg Execution.steps whole
    have own : (Saved.lastRecord (acknowledged past) record.nodeId).getD record = record :=
      List.map_inj_left.mp (steps.trans (List.map_id _).symm) record listed
    rw [saved, Option.getD_some] at own
    rw [current.owned owner newest inside, own] at inside
    rwa [shown]
  · intro through
    obtain ⟨_, _, last⟩ := current.closed _ through.header ended
    have own : job.snapshot.steps.map (fun step =>
        (Saved.lastRecord (acknowledged past) step.nodeId).getD step) = job.snapshot.steps := by
      apply (List.map_congr_left fun record listed => ?_).trans (List.map_id _)
      cases saved : Saved.lastRecord (acknowledged past) record.nodeId with
      | none => rfl
      | some newest =>
        obtain ⟨named, owner, known⟩ := Saved.mem_of_lastRecord saved
        have sameOwner : owner = job.snapshot.id := shown ▸ current.owned owner newest known
        have final := through.steps record listed newest (sameOwner ▸ known) named
        rw [current.latest _ record final (settled record (shown ▸ listed)),
          Option.some.injEq] at saved
        rw [← saved]
        rfl
    simp only [Saved.assembled, last, Option.map_some, own]

end

end Job

end WorkflowEngine
