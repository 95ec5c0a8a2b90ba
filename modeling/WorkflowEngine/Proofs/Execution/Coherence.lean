/-
This file holds what follows at once from the coherence of a run, and when a change of its records
keeps it.
-/

import WorkflowEngine.Proofs.Execution.Ledger

namespace WorkflowEngine

namespace Plan

/-- A step that awaits nothing goes on to await nothing. -/
theorem awaited_mono (plan : Plan) {reports later : List StepReport} (step : PlanStep)
    (more : ∀ report ∈ reports, report ∈ later) (free : plan.awaited reports step = 0) :
    plan.awaited later step = 0 := by
  rw [awaited_eq_zero] at free ⊢
  intro predecessor member
  obtain ⟨report, inReports, facts⟩ := (released_iff ..).mp (free predecessor member)
  exact (released_iff ..).mpr ⟨report, more report inReports, facts⟩

theorem awaited_nil (plan : Plan) (step : PlanStep) :
    plan.awaited [] step = step.predecessors.length := by
  simp [awaited, released]

theorem cutOff_append (plan : Plan) (reports : List StepReport) (report : StepReport)
    (index : Nat) : plan.CutOff (reports ++ [report]) index ↔ plan.CutOff reports index ∨
      plan.blocks report = true ∧ Relation.TransGen plan.Edge report.index index := by
  simp [CutOff, or_and_right, exists_or]

end Plan

namespace Run

theorem record_modifyRecord {run : Run} {index : Nat} (inside : index < run.execution.steps.length)
    (change : StepRecord → StepRecord) (other : Nat) :
    (run.modifyRecord index change).record other =
      if other = index then change (run.record index) else run.record other := by
  by_cases same : other = index
  · subst same
    simp [record, modifyRecord, inside]
  · simp [record, modifyRecord, same, Ne.symm same]

@[simp] theorem modifyRecord_count (run : Run) (index : Nat) (change : StepRecord → StepRecord) :
    (run.modifyRecord index change).execution.steps.length = run.execution.steps.length := by
  simp [modifyRecord]

/-- Records of steps that have not reported may change as long as they show no result. -/
theorem Coherent.restatus {before after : Run} {old new : Ledger} (coherent : before.Coherent old)
    (plan : after.plan = before.plan)
    (count : after.execution.steps.length = before.execution.steps.length)
    (launched : new.launched = old.launched) (reports : new.reports = old.reports)
    (spread : ∀ report ∈ new.spread, report ∈ old.reports)
    (records : ∀ index, after.record index = before.record index ∨
      index ∉ old.reported ∧ (after.record index).Unresolved)
    (enabled : ∀ {index : Nat} {step : PlanStep}, before.plan.steps[index]? = some step →
      (after.record index).status = .ready ∨ (after.record index).status = .running ∨
        index ∈ old.launched → before.plan.awaited new.spread step = 0)
    (skippedIff : ∀ index, (after.record index).status = .skipped ↔
      before.plan.CutOff new.spread index) : after.Coherent new := by
  have reported : new.reported = old.reported := by simp only [Ledger.reported, reports]
  refine ⟨by rw [count, plan]; exact coherent.recordCount, launched ▸ coherent.launchedDistinct,
    by rw [launched, plan]; exact coherent.launchedInside, reported ▸ coherent.reportedDistinct,
    by rw [reported, launched]; exact coherent.reportedLaunched, by rwa [reports], ?_, ?_,
    by rwa [plan, launched], by rwa [plan]⟩
  · rw [reports]
    intro report member
    rcases records report.index with same | ⟨fresh, _⟩
    · rw [same]
      exact coherent.resolved report member
    · exact absurd (List.mem_map_of_mem member) fresh
  · rw [reported]
    intro index fresh
    rcases records index with same | ⟨_, unresolved⟩
    · rw [same]
      exact coherent.unresolved index fresh
    · exact unresolved

/-- The record of a step that has reported shows the result. -/
theorem Coherent.reported_status {run : Run} {ledger : Ledger} (coherent : run.Coherent ledger)
    {index : Nat} (reported : index ∈ ledger.reported) :
    (run.record index).status = .succeeded ∨ (run.record index).status = .failed ∨
      (run.record index).status = .cancelled := by
  obtain ⟨report, member, rfl⟩ := List.mem_map.mp reported
  have status := congrArg StepOutcome.status (coherent.resolved report member)
  simp only [StepRecord.outcome, StepReport.outcome] at status
  rw [status]
  cases report.result <;> simp

/-- A step that stands before its start has not reported. -/
theorem Coherent.unreported {run : Run} {ledger : Ledger} (coherent : run.Coherent ledger)
    {index : Nat} (early : (run.record index).status = .pending ∨
      (run.record index).status = .ready ∨ (run.record index).status = .running ∨
        (run.record index).status = .skipped) : index ∉ ledger.reported := by
  intro reported
  rcases coherent.reported_status reported with status | status | status <;> simp [status] at early

/-- A step that stands before its start has not been launched. -/
theorem Live.unlaunched {run : Run} {ledger : Ledger} (live : run.Live ledger) {index : Nat}
    (early : (run.record index).status = .pending ∨ (run.record index).status = .ready ∨
      (run.record index).status = .skipped) : index ∉ ledger.launched := by
  intro launched
  have fresh : index ∉ ledger.reported := live.unreported (by tauto)
  simp [live.launchedRunning index launched fresh] at early

/-- A report that is the last to come is new to those that have had their consequences. -/
theorem Coherent.last_unreleased {run : Run} {ledger : Ledger} (coherent : run.Coherent ledger)
    {report : StepReport} (last : ledger.reports = ledger.spread ++ [report]) :
    run.plan.released ledger.spread report.index = false := by
  have distinct := coherent.reportedDistinct
  rw [Ledger.reported, last, List.map_append, List.nodup_append] at distinct
  rw [Bool.eq_false_iff]
  intro released
  obtain ⟨earlier, member, same, _⟩ := (Plan.released_iff ..).mp released
  exact distinct.2.2 earlier.index (List.mem_map_of_mem member) report.index (by simp) same

theorem Coherent.last_launched {run : Run} {ledger : Ledger} (coherent : run.Coherent ledger)
    {report : StepReport} (last : ledger.reports = ledger.spread ++ [report]) :
    report.index ∈ ledger.launched := by
  apply coherent.reportedLaunched
  exact List.mem_map_of_mem (by simp [last])

end Run

end WorkflowEngine
