/-
This file proves which steps an ended execution shows as skipped: those that lie behind a failure
that releases nothing, and no others.
-/

import WorkflowEngine.Proofs.Execution.Standing

namespace WorkflowEngine.Job

section

variable {start job : Job} {past : List Occurrence}

/-- A job whose snapshot has ended stands closed, and its run has swept all steps. -/
theorem Standing.ended (standing : Standing past job)
    (sound : Sound start past job) (terminal : job.snapshot.status.isTerminal = true) :
    job.snapshot = job.run.execution ∧
      job.run.Ended ⟨launched past, reports past, reports past, none, none⟩ ∧
      job.run.Sweeps [] := by
  cases standing with
  | opened opened unended =>
    rw [unended] at terminal
    cases terminal
  | closed closed snapshot last =>
    have valid := sound.valid
    simp only [Run.Valid, closed] at valid
    exact ⟨snapshot, valid⟩

end

/-- In an ended execution exactly the steps behind an unreleased failure are skipped. -/
theorem skipped_iff_behind_failure {compiler : Compiler} {definition : Definition} {plan : Plan}
    (compiled : compiler.compile definition = .ok plan) {executor : Executor}
    {infraRetry : RetryPolicy} {timeoutMs : Nat} {id tenantId : Uuid} {triggerInput : Json}
    {past : List Occurrence} {job : Job}
    (course : Course (prepare executor plan infraRetry timeoutMs
      (.pending plan id tenantId triggerInput)) past job)
    (terminal : job.snapshot.status.isTerminal = true) :
    job.snapshot.steps.length = plan.steps.length ∧
      (∀ report ∈ reports past, ∃ record, job.snapshot.steps[report.index]? = some record ∧
        record.outcome = report.outcome) ∧
      ∀ index record, job.snapshot.steps[index]? = some record →
        (record.status = .skipped ↔ ∃ report ∈ reports past, plan.blocks report = true ∧
          Relation.TransGen plan.Edge report.index index) ∧
        (record.status ≠ .skipped → record.status ≠ .succeeded → record.status ≠ .failed →
          record.status = .cancelled) := by
  have wellFormed := Compiler.compile_wellFormed compiled
  have sound := course.sound wellFormed
  obtain ⟨same, ended, sweeps⟩ := (course.standing wellFormed).ended sound terminal
  have plan : job.run.plan = plan := sound.plan
  have counted := ended.recordCount
  rw [same]
  rw [plan] at counted
  refine ⟨counted, ?_, ?_⟩
  · intro report member
    have launched := ended.reportedLaunched _ (List.mem_map_of_mem member)
    have inside := ended.launchedInside _ launched
    rw [← ended.recordCount] at inside
    have found := List.getElem?_eq_getElem inside
    refine ⟨_, found, ?_⟩
    rw [← ended.resolved report member, Run.record, found]
    rfl
  · intro index record found
    have shown : job.run.record index = record := by simp [Run.record, found]
    have inside : index < job.run.plan.steps.length := by
      rw [plan, ← counted]
      exact (List.getElem?_eq_some_iff.mp found).1
    have settled := sweeps.settled index inside (by simp)
    rw [shown] at settled
    constructor
    · rw [← shown, ended.skippedIff, plan]
      rfl
    · intro unskipped unsucceeded unfailed
      cases status : record.status <;> simp_all [StepStatus.isSettled]

/-- The second step of the pair is skipped if the first one fails. -/
theorem pair_skipped_behind_failure :
    brokenPair.2.snapshot.status.isTerminal = true ∧
      ∃ report ∈ reports brokenPair.1, Plan.pair.blocks report = true ∧
        Relation.TransGen Plan.pair.Edge report.index 1 := by
  have terminal : brokenPair.2.snapshot.status.isTerminal = true := by decide +kernel
  obtain ⟨_, _, steps⟩ := skipped_iff_behind_failure Plan.pair_compiled
    (Course.start.replay _ : Course ofPair brokenPair.1 brokenPair.2) terminal
  have found : brokenPair.2.snapshot.steps[1]? =
      some ⟨"second", .skipped, 0, none, none, none, some ⟨0, 0⟩⟩ := by decide +kernel
  exact ⟨terminal, (steps 1 _ found).1.mp rfl⟩

end WorkflowEngine.Job
