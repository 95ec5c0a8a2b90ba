/-
This file proves that a run waits only for steps in flight, and that it sweeps only steps that it
has cancelled. A run that has not halted has no step left to sweep when it ends.
-/

import WorkflowEngine.Proofs.Execution.Validity
import WorkflowEngine.Proofs.Execution.Verdict

namespace WorkflowEngine.Run

/-- A waiting run has a step in flight, and a sweeping one has cancelled a step. -/
structure Poised (run : Run) : Prop where
  flying : run.phase = .waiting → run.inFlight ≠ []
  cancelled : ∀ ending index rest, run.errand? = some (.sweeping ending index rest) →
    (run.record index).status = .cancelled

section

variable {run : Run} {launched : List Nat} {reports : List StepReport}

/-- Outside of a sweep only a run that waits needs a step in flight. -/
theorem poised_of (flying : run.phase = .waiting → run.inFlight ≠ [])
    (unswept : ∀ ending index rest, run.errand? ≠ some (.sweeping ending index rest)) :
    run.Poised :=
  ⟨flying, fun ending index rest errand => absurd errand (unswept ending index rest)⟩

theorem save_poised (run : Run) {errand : Errand}
    (unswept : ∀ ending index rest, errand ≠ .sweeping ending index rest) :
    (run.save errand).Poised :=
  poised_of (by simp [save]) (by simpa [save, errand?] using unswept)

theorem sweep_poised {rest : List Nat} (inside : ∀ index ∈ rest, index < run.execution.steps.length)
    (ending : Ending) : (run.sweep ending rest).run.Poised := by
  cases rest with
  | nil => exact save_poised _ (by simp)
  | cons index rest =>
    have bound := inside index List.mem_cons_self
    refine ⟨by simp [sweep, save], ?_⟩
    intro _ other _ errand
    simp only [sweep, save, errand?, Option.some.injEq, Errand.sweeping.injEq] at errand
    obtain ⟨_, rfl, _⟩ := errand
    exact congrArg StepRecord.status ((record_modifyRecord bound _ index).trans (if_pos rfl))

theorem finish_poised (run : Run) (now : Moment) : (run.finish now).run.Poised := by
  apply sweep_poised
  intro index member
  exact List.mem_range.mp (List.mem_of_mem_filter member)

/-- A run goes on to wait only while a step is in flight. -/
theorem proceed_poised (run : Run) (now : Moment) : (run.proceed now).run.Poised := by
  have waits (filled : ¬run.inFlight.isEmpty = true) :
      ({ run with phase := .waiting } : Run).Poised :=
    poised_of (fun _ empty => filled (List.isEmpty_iff.mpr empty)) (by simp [errand?])
  unfold proceed
  split
  · split
    · exact save_poised _ (by simp)
    · split
      · exact finish_poised run now
      · next filled => exact waits filled
  · split
    · exact finish_poised run now
    · next filled => exact waits filled

theorem settled_poised (run : Run) (now : Moment) (halt : Option Halt) :
    (run.settled now halt).run.Poised := by
  cases halt <;> exact proceed_poised _ now

theorem tellSkipped_poised (run : Run) (now : Moment) (halt : Option Halt) (skipped : List Nat) :
    (run.tellSkipped now halt skipped).run.Poised := by
  cases skipped with
  | nil => exact settled_poised run now halt
  | cons index rest => exact save_poised run (by simp)

theorem afterSave_poised {errand : Errand} (valid : run.AtErrand launched reports errand)
    (now : Moment) (outcome : Except StoreError Unit) :
    (run.afterSave now outcome errand).run.Poised := by
  cases errand with
  | opening => exact proceed_poised _ now
  | dispatching index previous => cases outcome <;> exact proceed_poised _ now
  | settling index released halt =>
    simp only [afterSave, Turn.andThen]
    split
    · exact settled_poised _ now halt
    · split
      · exact tellSkipped_poised _ now halt _
      · exact settled_poised _ now halt
  | skipping index rest halt => exact tellSkipped_poised _ now halt rest
  | sweeping ending index rest =>
    refine sweep_poised (fun other member => ?_) ending
    rw [valid.1.recordCount]
    exact (valid.2.unsettled other member).1
  | closing ending =>
    refine poised_of ?_ ?_
    · simp [afterSave, closeDown]
    · simp [afterSave, closeDown, errand?]

/-- A pause between two attempts of a save changes nothing that counts here. -/
theorem Poised.retry (poised : run.Poised) {phase : Phase} (awake : phase ≠ .waiting)
    (errand : ({ run with phase := phase } : Run).errand? = run.errand?) :
    ({ run with phase := phase } : Run).Poised :=
  ⟨fun waits => absurd waits awake, fun ending index rest same =>
    poised.cancelled ending index rest (errand ▸ same)⟩

/-- Every answer keeps a run poised. -/
theorem advance_poised (valid : run.Valid launched reports) (poised : run.Poised) (now : Moment)
    (input : Input) : (run.advance now input).run.Poised := by
  have takes := run.advance_takes now input
  generalize run.advance now input = turn at takes ⊢
  cases takes with
  | opened phase => exact save_poised _ (by simp)
  | @saved errand failures outcome phase =>
    simp only [Valid, phase] at valid
    cases outcome with
    | ok => exact afterSave_poised valid now (.ok ())
    | error error =>
      unfold saved
      dsimp only
      split
      · exact afterSave_poised valid now (.error error)
      · exact poised.retry (by simp) (by simp [errand?, phase])
  | rested phase => exact poised.retry (by simp) (by simp [errand?, phase])
  | reported phase =>
    unfold settle
    split
    · exact poised
    · exact save_poised _ (by simp)
  | lost phase => exact proceed_poised _ now
  | cancelled phase => exact proceed_poised _ now
  | expired phase => exact proceed_poised _ now
  | idle => exact poised

/-- The report of a released step leaves a success or a failure in its record. -/
theorem Coherent.released_status {ledger : Ledger} (coherent : run.Coherent ledger) {index : Nat}
    (released : run.plan.released ledger.reports index = true) :
    (run.record index).status = .succeeded ∨ (run.record index).status = .failed := by
  obtain ⟨report, member, rfl, releases⟩ := (Plan.released_iff ..).mp released
  have status := congrArg StepOutcome.status (coherent.resolved report member)
  simp only [StepRecord.outcome] at status
  rw [status]
  unfold Plan.releases at releases
  unfold StepReport.outcome
  cases result : report.result <;> simp_all

/-- A run that has not halted does not sweep. -/
theorem Poised.unswept (poised : run.Poised) (valid : run.Valid launched reports)
    (unhalted : run.halted = none) (ending : Ending) (index : Nat) (rest : List Nat) :
    run.errand? ≠ some (.sweeping ending index rest) := by
  intro errand
  have cancelled := poised.cancelled ending index rest errand
  have atErrand : run.AtErrand launched reports (.sweeping ending index rest) := by
    unfold errand? at errand
    unfold Valid at valid
    split at errand <;> simp_all
  have ended := atErrand.1
  have bound : index < run.plan.steps.length := by
    rw [← ended.recordCount]
    by_contra outside
    simp [record, List.getElem?_eq_none (Nat.le_of_not_lt outside), StepRecord.pending] at cancelled
  have status := ended.released_status (ended.flawless unhalted index bound)
  simp [cancelled] at status

end

end WorkflowEngine.Run
