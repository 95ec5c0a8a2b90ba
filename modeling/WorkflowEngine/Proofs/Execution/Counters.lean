/-
This file proves that in every phase the counter of a step is the number of its dependencies that
are not released, and that no counter is zero before it goes down.
-/

import WorkflowEngine.Proofs.Execution.Steady
import WorkflowEngine.Proofs.Execution.Validity
import WorkflowEngine.Proofs.Execution.Verdict

namespace WorkflowEngine.Run

/-- The counters of a run agree with the reports that have had their consequences. -/
def Counts (run : Run) (spread : List StepReport) : Prop :=
  ∀ (index : Nat) (step : PlanStep), run.plan.steps[index]? = some step →
    run.waitingOn[index]? = some (run.plan.awaited spread step)

/-- The last report has its consequences only once the record of its step has been saved. -/
def spread (run : Run) (reports : List StepReport) : List StepReport :=
  match run.errand? with
  | some (.settling _ _ _) => reports.dropLast
  | _ => reports

theorem counts_steady (spread : List StepReport) : Steady fun run => run.Counts spread :=
  ⟨fun _ _ => rfl, fun _ _ _ _ _ => rfl, fun _ _ => rfl, fun _ _ => rfl, fun _ _ => rfl⟩

/-- A counter that is missing or zero fails. -/
def releaseStep? (run : Run) (index : Nat) : Option Run :=
  match run.waitingOn[index]? with
  | some (_ + 1) => some (run.releaseStep index)
  | _ => none

def releaseSuccessors? (run : Run) (index : Nat) : Option Run :=
  (run.successors index).foldlM releaseStep? run

section

variable {run : Run} {launched : List Nat} {reports : List StepReport}

theorem Live.counts {ledger : Ledger} (live : run.Live ledger) : run.Counts ledger.spread :=
  fun _ _ found => live.waiting found

theorem Fresh.counts (fresh : run.Fresh) : run.Counts [] := by
  intro index step found
  rw [fresh.waitingOn, List.getElem?_map, found, Plan.awaited_nil]
  rfl

theorem releaseStep_waitingOn (run : Run) (index : Nat) :
    (run.releaseStep index).waitingOn =
      run.waitingOn.set index ((run.waitingOn[index]?).getD 0 - 1) := by
  unfold releaseStep
  dsimp only
  split
  · exact waitingOn_steady.makeReady _ index
  · rfl

/-- Counters that are positive go down one after the other. -/
theorem foldl_release_checked {targets : List Nat} (distinct : targets.Nodup)
    (positive : ∀ target ∈ targets, ∃ left, run.waitingOn[target]? = some (left + 1)) :
    targets.foldlM releaseStep? run = some (targets.foldl releaseStep run) := by
  induction targets generalizing run with
  | nil => rfl
  | cons first rest inductionHypothesis =>
    obtain ⟨fresh, tail⟩ := List.nodup_cons.mp distinct
    obtain ⟨left, count⟩ := positive first List.mem_cons_self
    have released : run.releaseStep? first = some (run.releaseStep first) := by
      simp only [releaseStep?, count]
    rw [List.foldlM_cons, released, List.foldl_cons]
    apply inductionHypothesis tail
    intro target member
    have different : first ≠ target := by
      rintro rfl
      exact fresh member
    rw [releaseStep_waitingOn, List.getElem?_set_ne different]
    exact positive target (List.mem_cons_of_mem _ member)

/-- Every counter that a release reaches still counts the released step. -/
theorem Live.release_checked {ledger : Ledger} {report : StepReport}
    (wellFormed : run.plan.WellFormed) (live : run.Live ledger)
    (last : ledger.reports = ledger.spread ++ [report])
    (releases : run.plan.releases report = true) :
    run.releaseSuccessors? report.index = some (run.releaseSuccessors report.index) := by
  apply foldl_release_checked (successors_nodup wellFormed report.index)
  intro target member
  have bound := wellFormed.edge_inside ((mem_successors run report.index target).mp member)
  have found := List.getElem?_eq_getElem bound
  have reached := live.awaited_spread wellFormed last releases found
  rw [if_pos member] at reached
  exact ⟨_, (live.waiting found).trans (congrArg some reached)⟩

/-- When an errand is done its report, if there is one, has had its consequences. -/
theorem afterSave_counts (wellFormed : run.plan.WellFormed) {errand : Errand} {failures : UInt32}
    (phase : run.phase = .saving errand failures) (valid : run.AtErrand launched reports errand)
    (counts : run.Counts (run.spread reports)) (now : Moment) (outcome : Except StoreError Unit) :
    (run.afterSave now outcome errand).run.Counts reports := by
  have steady := counts_steady reports
  simp only [spread, errand?, phase] at counts
  cases errand with
  | opening =>
    exact (steady.proceed _ now).mpr ((steady.enter _).mpr ((steady.checkSave run _ _).mpr counts))
  | dispatching index previous =>
    cases outcome with
    | ok => exact (steady.proceed _ now).mpr counts
    | error error =>
      exact (steady.proceed _ now).mpr ((steady.halt _ _).mpr
        ((steady.modifyRecord run index _).mpr counts))
  | settling index released halt =>
    obtain ⟨earlier, report, last, rfl, rfl, rfl, live⟩ := valid
    have plan := checkSave_plan run "saving step" outcome
    have checked := live.checkSave "saving step" outcome
    have still := (steady.checkSave run "saving step" outcome).mpr
    simp only [afterSave, Turn.andThen]
    rw [← plan] at wellFormed ⊢
    split
    · next releases =>
      exact (steady.settled _ now _).mpr (checked.release wellFormed last releases).counts
    · next unreleased =>
      have unchanged : run.Counts reports := by
        intro index step found
        rw [plan] at unreleased
        rw [live.waiting found, last,
          Plan.awaited_append_of_not run.plan earlier step (Bool.eq_false_iff.mpr unreleased)]
      split
      · exact (steady.tellSkipped _ now _ _).mpr
          ((steady.skipFrom now _ _ _).mpr (still unchanged))
      · exact (steady.settled _ now _).mpr (still unchanged)
  | skipping index rest halt =>
    exact (steady.tellSkipped _ now _ rest).mpr ((steady.checkSave run _ _).mpr counts)
  | sweeping ending index rest => exact (steady.sweep run ending rest).mpr counts
  | closing ending => exact (steady.closeDown run ending outcome).mpr counts

/-- A step that flies while the run waits belongs to the plan. -/
theorem Valid.inside (valid : run.Valid launched reports) (phase : run.phase = .waiting)
    {index : Nat} (flies : index ∈ run.inFlight) : index < run.plan.steps.length := by
  simp only [Valid, phase] at valid
  exact valid.launchedInside index (valid.flightLaunched index flies)

theorem spread_unsettling
    (others : ∀ index released halt, run.errand? ≠ some (.settling index released halt)) :
    run.spread reports = reports := by
  unfold spread
  split
  · next index released halt errand => exact absurd errand (others index released halt)
  · rfl

/-- While a report awaits its consequences the run is live, so its counters are right. -/
theorem Valid.counts (valid : run.Valid launched reports)
    (later : (∀ index released halt, run.errand? ≠ some (.settling index released halt)) →
      run.Counts reports) : run.Counts (run.spread reports) := by
  by_cases settling : ∃ index released halt, run.errand? = some (.settling index released halt)
  · obtain ⟨index, released, halt, errand⟩ := settling
    have atErrand : run.AtErrand launched reports (.settling index released halt) := by
      unfold errand? at errand
      unfold Valid at valid
      split at errand <;> simp_all
    obtain ⟨earlier, report, last, _, _, _, live⟩ := atErrand
    simp only [spread, errand, last, List.dropLast_concat]
    exact live.counts
  · have others (index : Nat) (released : Bool) (halt : Option Halt) :
        run.errand? ≠ some (.settling index released halt) :=
      fun errand => settling ⟨index, released, halt, errand⟩
    rw [spread_unsettling others]
    exact later others

/-- Every answer leaves the counters right. -/
theorem advance_counts (wellFormed : run.plan.WellFormed) (valid : run.Valid launched reports)
    (counts : run.Counts (run.spread reports)) (now : Moment) {input : Input}
    (flies : ∀ report, input = .reported report →
      run.phase = .waiting ∧ report.index ∈ run.inFlight) :
    (run.advance now input).run.Counts
      ((run.advance now input).run.spread (reports ++ input.reports)) := by
  apply (advance_valid wellFormed valid now flies).counts
  have takes := run.advance_takes now input
  have steady := counts_steady reports
  -- a turn that leaves the run at its errand leaves the counters with their reports
  have kept (others : ∀ index released halt,
      run.errand? ≠ some (.settling index released halt)) : run.Counts reports := by
    rwa [spread_unsettling others] at counts
  have awake (phase : run.phase = .waiting) : run.Counts reports :=
    kept (by simp [errand?, phase])
  generalize run.advance now input = turn at takes ⊢
  intro others
  cases takes with
  | opened phase =>
    simp only [Input.reports, List.append_nil]
    exact kept (by simp [errand?, phase])
  | @saved errand failures outcome phase =>
    simp only [Valid, phase] at valid
    simp only [Input.reports, List.append_nil]
    cases outcome with
    | ok => exact afterSave_counts wellFormed phase valid counts now (.ok ())
    | error error =>
      unfold saved at others ⊢
      dsimp only at others ⊢
      split
      · exact afterSave_counts wellFormed phase valid counts now (.error error)
      · next more =>
        rw [if_neg more] at others
        refine kept fun index released halt same => others index released halt ?_
        rw [errand?, phase] at same
        exact same
  | rested phase =>
    simp only [Input.reports, List.append_nil]
    refine kept fun index released halt same => others index released halt ?_
    rw [errand?, phase] at same
    exact same
  | @reported report phase =>
    have found := List.getElem?_eq_getElem (valid.inside phase (flies report rfl).2)
    simp only [settle, found] at others
    exact absurd rfl (others _ _ _)
  | lost phase =>
    have lands : ({ run with inFlight := _ } : Run).Counts reports := awake phase
    simp only [Input.reports, List.append_nil]
    exact (steady.proceed _ now).mpr ((steady.halt _ _).mpr lands)
  | cancelled phase =>
    simp only [Input.reports, List.append_nil]
    exact (steady.proceed _ now).mpr ((steady.halt run _).mpr (awake phase))
  | expired phase =>
    simp only [Input.reports, List.append_nil]
    exact (steady.proceed _ now).mpr ((steady.halt run _).mpr (awake phase))
  | idle unsaved unreported unlost =>
    have silent : input.reports = [] := by
      cases input with
      | reported report => exact absurd rfl (unreported report (flies report rfl).1)
      | _ => rfl
    rw [silent, List.append_nil]
    exact kept others

end

end WorkflowEngine.Run
