/-
This file proves that every turn takes a valid run to a valid run. What is valid depends on the
phase: between two turns a step may be half started, half settled, or half swept.
-/

import WorkflowEngine.Proofs.Execution.Conduct
import WorkflowEngine.Proofs.Execution.Opening

namespace WorkflowEngine.Run

/-- The steps that are left to sweep are those that have not settled. -/
structure Sweeps (run : Run) (rest : List Nat) : Prop where
  distinct : rest.Nodup
  unsettled : ∀ index ∈ rest, index < run.plan.steps.length ∧
    (run.record index).status.isSettled = false
  settled : ∀ index < run.plan.steps.length, index ∉ rest →
    (run.record index).status.isSettled = true

/-- This is what holds of a run while the save of an errand is under way. -/
def AtErrand (run : Run) (launched : List Nat) (reports : List StepReport) : Errand → Prop
  | .opening => run.Fresh ∧ run.halted = none ∧ launched = [] ∧ reports = []
  | .dispatching index previous => run.Live ⟨launched, reports, reports, some index, none⟩ ∧
      run.halted = none ∧ index < run.plan.steps.length ∧ index ∉ launched ∧
      (run.record index).status = .running ∧ previous.nodeId = (run.record index).nodeId ∧
      previous.status = .ready ∧ previous.Blank
  | .settling index released halt => ∃ earlier report, reports = earlier ++ [report] ∧
      report.index = index ∧ released = run.plan.releases report ∧
      halt = run.plan.haltOf report ∧ run.Live ⟨launched, reports, earlier, none, halt⟩
  | .skipping _ _ halt => (∃ report ∈ reports, run.plan.blocks report = true ∧
      halt = run.plan.haltOf report) ∧ run.Live ⟨launched, reports, reports, none, halt⟩
  | .sweeping _ _ rest => run.Ended ⟨launched, reports, reports, none, none⟩ ∧ run.Sweeps rest
  | .closing _ => run.Ended ⟨launched, reports, reports, none, none⟩ ∧ run.Sweeps []

/-- A valid run agrees with what was launched and reported so far. -/
def Valid (run : Run) (launched : List Nat) (reports : List StepReport) : Prop :=
  match run.phase with
  | .unopened => run.Fresh ∧ run.halted = none ∧ launched = [] ∧ reports = []
  | .saving errand _ => run.AtErrand launched reports errand
  | .pausing errand _ => run.AtErrand launched reports errand
  | .waiting => run.Live ⟨launched, reports, reports, none, none⟩
  | .closed => run.Ended ⟨launched, reports, reports, none, none⟩ ∧ run.Sweeps []

/-- Only the end of an errand that starts a step launches one. -/
def launches : Errand → Except StoreError Unit → List Nat
  | .dispatching index _, .ok () => [index]
  | _, _ => []

def launching (run : Run) (input : Input) : List Nat :=
  match run.phase, input with
  | .saving errand _, .saved outcome => launches errand outcome
  | _, _ => []

theorem launching_unsaved {run : Run} {input : Input} (unsaved : ∀ errand failures outcome,
    run.phase = .saving errand failures → input ≠ .saved outcome) : run.launching input = [] := by
  unfold launching
  split
  · next errand failures outcome phase => exact absurd rfl (unsaved errand failures outcome phase)
  · rfl

def Input.reports : Input → List StepReport
  | .reported report => [report]
  | _ => []

section

variable {run : Run} {launched : List Nat} {reports : List StepReport}

theorem Live.rephase {ledger : Ledger} (live : run.Live ledger) (phase : Phase) :
    ({ run with phase := phase } : Run).Live ledger :=
  live.congr rfl rfl rfl (List.Sublist.refl _) (List.Sublist.refl _)
    fun unhalted => ⟨unhalted, rfl, rfl, rfl, rfl⟩

theorem Ended.congr {after : Run} {ledger : Ledger} (ended : run.Ended ledger)
    (plan : after.plan = run.plan) (steps : after.execution.steps = run.execution.steps)
    (halted : after.halted = run.halted) : after.Ended ledger :=
  ⟨ended.toCoherent.congr plan steps ledger.starting ledger.pending, by
    rw [halted, plan]
    exact ended.flawless⟩

theorem Sweeps.congr {after : Run} {rest : List Nat} (sweeps : run.Sweeps rest)
    (plan : after.plan = run.plan) (steps : after.execution.steps = run.execution.steps) :
    after.Sweeps rest := by
  have record (index : Nat) : after.record index = run.record index := by
    simp only [Run.record, steps]
  refine ⟨sweeps.distinct, ?_, ?_⟩
  · intro index member
    rw [plan, record]
    exact sweeps.unsettled index member
  · intro index bound absent
    rw [record]
    exact sweeps.settled index (plan ▸ bound) absent

theorem AtErrand.rephase {errand : Errand} (valid : run.AtErrand launched reports errand)
    (phase : Phase) : ({ run with phase := phase } : Run).AtErrand launched reports errand := by
  cases errand with
  | opening =>
    obtain ⟨fresh, facts⟩ := valid
    exact ⟨⟨fresh.steps, fresh.waitingOn, fresh.ready, fresh.inFlight⟩, facts⟩
  | dispatching index previous => exact ⟨valid.1.rephase phase, valid.2⟩
  | settling index released halt =>
    obtain ⟨earlier, report, last, same, releases, halts, live⟩ := valid
    exact ⟨earlier, report, last, same, releases, halts, live.rephase phase⟩
  | skipping index rest halt => exact ⟨valid.1, valid.2.rephase phase⟩
  | sweeping ending index rest => exact ⟨valid.1.congr rfl rfl rfl, valid.2.congr rfl rfl⟩
  | closing ending => exact ⟨valid.1.congr rfl rfl rfl, valid.2.congr rfl rfl⟩

/-- A run that begins to save for an errand is valid if the errand is. -/
theorem valid_save {errand : Errand} (valid : run.AtErrand launched reports errand) :
    (run.save errand).Valid launched reports :=
  valid.rephase (.saving errand 0)

/-- The next step of a sweep takes one step from those that are left. -/
theorem Sweeps.next {index : Nat} {rest : List Nat} {ledger : Ledger}
    (ended : run.Ended ledger) (sweeps : run.Sweeps (index :: rest)) (ending : Ending) :
    (run.modifyRecord index fun record =>
      { record with status := .cancelled, finishedAt := some ending.finishedAt }).Sweeps rest := by
  obtain ⟨bound, _⟩ := sweeps.unsettled index List.mem_cons_self
  obtain ⟨fresh, distinct⟩ := List.nodup_cons.mp sweeps.distinct
  have record := record_modifyRecord (ended.recordCount ▸ bound) fun record =>
    { record with status := .cancelled, finishedAt := some ending.finishedAt }
  refine ⟨distinct, ?_, ?_⟩
  · intro other member
    have different : other ≠ index := by
      rintro rfl
      exact fresh member
    rw [record, if_neg different]
    exact sweeps.unsettled other (List.mem_cons_of_mem _ member)
  · intro other inside absent
    rw [record]
    split
    · rfl
    · next different => exact sweeps.settled other inside (by simp [different, absent])

theorem sweep_valid {rest : List Nat} (ended : run.Ended ⟨launched, reports, reports, none, none⟩)
    (sweeps : run.Sweeps rest) (ending : Ending) :
    (run.sweep ending rest).run.Valid launched reports := by
  cases rest with
  | nil =>
    exact valid_save ⟨ended.congr rfl rfl rfl, sweeps.congr rfl rfl⟩
  | cons index rest =>
    obtain ⟨bound, unsettled⟩ := sweeps.unsettled index List.mem_cons_self
    exact valid_save ⟨ended.cancel bound unsettled ending, sweeps.next ended ending⟩

theorem sweeps_unsettled (counted : run.execution.steps.length = run.plan.steps.length) :
    run.Sweeps run.unsettled := by
  refine ⟨List.nodup_range.filter _, ?_, ?_⟩
  · intro index member
    simpa [unsettled, counted] using member
  · intro index bound absent
    simpa [unsettled, counted, bound] using absent

/-- A run that has nothing left to start or to wait for comes to its end. -/
theorem finish_valid (wellFormed : run.plan.WellFormed)
    (live : run.Live ⟨launched, reports, reports, none, none⟩) (landed : run.inFlight = [])
    (drained : run.halted = none → run.ready = []) (now : Moment) :
    (run.finish now).run.Valid launched reports := by
  have ended := live.ended wellFormed rfl rfl rfl landed drained
  exact sweep_valid ended (sweeps_unsettled ended.recordCount) _

theorem dispatch_valid (live : run.Live ⟨launched, reports, reports, none, none⟩)
    (unhalted : run.halted = none) {index : Nat} {rest : List Nat}
    (ready : run.ready = index :: rest) (now : Moment) :
    (run.dispatch now index rest).run.Valid launched reports := by
  have member : index ∈ run.ready := by simp [ready]
  have status := live.readyStatus index member
  have bound := live.readyInside index member
  have starts := live.dispatch now ready rfl
  have unresolved := live.unresolved index (live.unreported (Or.inr (Or.inl status)))
  have record := @record_modifyRecord { run with ready := rest } index (live.recordCount ▸ bound)
    (fun record => { record with status := .running, startedAt := some now.wall }) index
  rw [if_pos rfl] at record
  exact ⟨starts, unhalted, bound, live.unlaunched (Or.inr (Or.inl status)),
    congrArg StepRecord.status record, (congrArg StepRecord.nodeId record).symm, status,
    unresolved.1⟩

/-- A live run goes on validly. -/
theorem proceed_valid (wellFormed : run.plan.WellFormed)
    (live : run.Live ⟨launched, reports, reports, none, none⟩) (now : Moment) :
    (run.proceed now).run.Valid launched reports := by
  have waits : ({ run with phase := .waiting } : Run).Valid launched reports :=
    live.rephase .waiting
  unfold proceed
  split
  · next index rest unhalted ready =>
    split
    · exact dispatch_valid live unhalted ready now
    · next full =>
      split
      · next empty =>
        -- a run without steps in flight has room for one
        have room := wellFormed.room
        rw [List.isEmpty_iff.mp empty, List.length_nil] at full
        omega
      · exact waits
  · next other =>
    split
    · next empty =>
      apply finish_valid wellFormed live (List.isEmpty_iff.mp empty)
      intro unhalted
      cases ready : run.ready with
      | nil => rfl
      | cons index rest => exact absurd ready (other index rest unhalted)
    · exact waits

/-- The settlement of a step ends with the halt that it causes. -/
theorem settled_valid (wellFormed : run.plan.WellFormed) {halt : Option Halt}
    (live : run.Live ⟨launched, reports, reports, none, halt⟩) (now : Moment) :
    (run.settled now halt).run.Valid launched reports := by
  cases halt with
  | none => exact proceed_valid wellFormed live now
  | some halt => exact proceed_valid (by rwa [halt_plan]) (live.halt halt none) now

theorem tellSkipped_valid (wellFormed : run.plan.WellFormed) {halt : Option Halt}
    (live : run.Live ⟨launched, reports, reports, none, halt⟩)
    (cause : ∃ report ∈ reports, run.plan.blocks report = true ∧ halt = run.plan.haltOf report)
    (now : Moment) (skipped : List Nat) :
    (run.tellSkipped now halt skipped).run.Valid launched reports := by
  cases skipped with
  | nil => exact settled_valid wellFormed live now
  | cons index rest => exact valid_save ⟨cause, live⟩

/-- A failed save may halt the run, which stays live with what is pending. -/
theorem Live.checkSave {ledger : Ledger} (live : run.Live ledger) (activity : String)
    (outcome : Except StoreError Unit) : (run.checkSave activity outcome).run.Live ledger := by
  cases outcome with
  | ok => exact live
  | error error => exact live.halt _ ledger.pending

theorem checkSave_plan (run : Run) (activity : String) (outcome : Except StoreError Unit) :
    (run.checkSave activity outcome).run.plan = run.plan := by
  cases outcome with
  | ok => rfl
  | error error => exact halt_plan run _

/-- A run that has been opened goes on from its entry steps. -/
theorem opened_valid (wellFormed : run.plan.WellFormed) (fresh : run.Fresh) (now : Moment)
    (outcome : Except StoreError Unit) : (run.afterSave now outcome .opening).run.Valid [] [] := by
  have plan := checkSave_plan run "saving execution" outcome
  have checked : (run.checkSave "saving execution" outcome).run.Fresh := by
    cases outcome with
    | ok => exact fresh
    | error error =>
      refine ⟨?_, ?_, ?_, ?_⟩ <;> simp only [checkSave, haltOnStore, Run.halt] <;> split
      · exact fresh.steps
      · exact fresh.steps
      · exact fresh.waitingOn
      · exact fresh.waitingOn
      · exact fresh.ready
      · exact fresh.ready
      · exact fresh.inFlight
      · exact fresh.inFlight
  have entered := (enter_calm (run.checkSave "saving execution" outcome).run :
    Calm (fun _ => False) _ _).plan
  exact proceed_valid (by rw [entered, plan]; exact wellFormed)
    (checked.enter_live (plan ▸ wellFormed)) now

/-- A step whose start is saved is launched. If the save has failed it stays ready. -/
theorem dispatched_valid (wellFormed : run.plan.WellFormed) {index : Nat} {previous : StepRecord}
    (valid : run.AtErrand launched reports (.dispatching index previous)) (now : Moment) :
    (run.afterSave now (.ok ()) (.dispatching index previous)).run.Valid
        (launched ++ [index]) reports ∧
      ∀ error, (run.afterSave now (.error error) (.dispatching index previous)).run.Valid
        launched reports := by
  obtain ⟨live, unhalted, bound, fresh, running, _, ready, blank⟩ := valid
  constructor
  · have launch := live.launch rfl bound running fresh
    refine proceed_valid ?_ launch now
    exact wellFormed
  · intro error
    have back := live.rollback unhalted bound running fresh ready blank
      (.failed (.infrastructureError ("saving step: " ++ error.message)))
    exact proceed_valid (by rwa [halt_plan]) back now

/-- The consequences of a report are drawn once its record has been saved. -/
theorem settling_valid (wellFormed : run.plan.WellFormed) {index : Nat} {released : Bool}
    {halt : Option Halt} (valid : run.AtErrand launched reports (.settling index released halt))
    (now : Moment) (outcome : Except StoreError Unit) :
    (run.afterSave now outcome (.settling index released halt)).run.Valid launched reports := by
  obtain ⟨earlier, report, last, rfl, rfl, rfl, live⟩ := valid
  have plan := checkSave_plan run "saving step" outcome
  have checked := live.checkSave "saving step" outcome
  simp only [afterSave, Turn.andThen]
  rw [← plan] at wellFormed checked ⊢
  generalize (run.checkSave "saving step" outcome).run = after at *
  have resolved := congrArg StepOutcome.status (checked.resolved report (by simp [last]))
  split
  · next releases =>
    have kept : (after.releaseSuccessors report.index).plan = after.plan :=
      (releaseSuccessors_calm after report.index : Calm (fun _ => False) _ _).plan
    have release := checked.release wellFormed last releases
    exact settled_valid (by rwa [kept]) release now
  · next unreleased =>
    have blocksIff := after.plan.blocks_iff_failed (Bool.eq_false_iff.mpr unreleased)
    rw [← resolved] at blocksIff
    split
    · next failed =>
      have blocks := blocksIff.mpr failed
      have kept : (after.skipSuccessors now report.index).1.plan = after.plan :=
        (skipFrom_calm now _ after _ : Calm (fun _ => False) _ _).plan
      have skip := checked.skip wellFormed now last blocks
      exact tellSkipped_valid (by rwa [kept]) skip
        ⟨report, by simp [last], by rwa [kept], by rw [kept]⟩ now _
    · next unfailed =>
      have unblocked := Bool.eq_false_iff.mpr (mt blocksIff.mp unfailed)
      have pass := checked.pass last (Bool.eq_false_iff.mpr unreleased) unblocked
      exact settled_valid wellFormed pass now

/-- What is written of a report agrees with its outcome and its consequences. -/
theorem concluded_report {plan : Plan} {report : StepReport} {step : PlanStep}
    (found : plan.steps[report.index]? = some step) {record : StepRecord}
    (attempt : record.attempt = report.attempts) (output : record.output = none)
    (error : record.error = none) :
    (concluded step record report.result).1.outcome = report.outcome ∧
      (concluded step record report.result).2 = (plan.releases report, plan.haltOf report) := by
  have tolerates : plan.tolerates report.index = step.tolerant := by
    simp [Plan.tolerates, found]
  unfold concluded StepReport.outcome Plan.releases Plan.haltOf
  cases result : report.result with
  | succeeded output => exact ⟨by simp [StepRecord.outcome, attempt, error], rfl⟩
  | failed message =>
    simp only [tolerates, found, Option.map_some, Option.getD_some]
    split
    · next tolerant => exact ⟨by simp [StepRecord.outcome, attempt, output], by simp [tolerant]⟩
    · next strict => exact ⟨by simp [StepRecord.outcome, attempt, output], by simp [strict]⟩
  | unavailable message => exact ⟨by simp [StepRecord.outcome, attempt, output], rfl⟩
  | interrupted => exact ⟨by simp [StepRecord.outcome, attempt, output, error], rfl⟩

theorem settle_valid (live : run.Live ⟨launched, reports, reports, none, none⟩)
    {report : StepReport} (flies : report.index ∈ run.inFlight) (now : Moment) :
    (run.settle now report).run.Valid launched (reports ++ [report]) := by
  have bound := live.launchedInside _ (live.flightLaunched _ flies)
  have found := List.getElem?_eq_getElem bound
  obtain ⟨blank, _⟩ := live.unresolved _ (live.flightUnreported _ flies)
  simp only [settle, found]
  have written := @concluded_report run.plan report _ found
    { run.record report.index with attempt := report.attempts, finishedAt := some now.wall }
    rfl blank.2.1 blank.2.2
  generalize concluded run.plan.steps[report.index] { run.record report.index with
    attempt := report.attempts, finishedAt := some now.wall } report.result = conclusion at *
  have record := @record_modifyRecord { run with inFlight := run.inFlight.erase report.index }
    report.index (live.recordCount ▸ bound) (fun _ => conclusion.1)
  apply valid_save
  refine ⟨reports, report, rfl, rfl, congrArg Prod.fst written.2, congrArg Prod.snd written.2, ?_⟩
  rw [congrArg Prod.snd written.2]
  refine live.settle flies rfl rfl
    ⟨rfl, modifyRecord_count _ _ _, ?_, ?_, rfl, rfl, rfl, rfl⟩
  · rw [record, if_pos rfl]
    exact written.1
  · intro other different
    rw [record, if_neg different]
    rfl

theorem afterSave_valid (wellFormed : run.plan.WellFormed) {errand : Errand}
    (valid : run.AtErrand launched reports errand) (now : Moment)
    (outcome : Except StoreError Unit) :
    (run.afterSave now outcome errand).run.Valid (launched ++ launches errand outcome) reports := by
  cases errand with
  | opening =>
    obtain ⟨fresh, _, rfl, rfl⟩ := valid
    simp only [launches, List.append_nil]
    exact opened_valid wellFormed fresh now outcome
  | dispatching index previous =>
    cases outcome with
    | ok => exact (dispatched_valid wellFormed valid now).1
    | error error =>
      simp only [launches, List.append_nil]
      exact (dispatched_valid wellFormed valid now).2 error
  | settling index released halt =>
    simp only [launches, List.append_nil]
    exact settling_valid wellFormed valid now outcome
  | skipping index rest halt =>
    have plan := checkSave_plan run "saving step" outcome
    have checked := valid.2.checkSave "saving step" outcome
    simp only [launches, List.append_nil]
    exact tellSkipped_valid (plan ▸ wellFormed) checked (by rw [plan]; exact valid.1) now rest
  | sweeping ending index rest =>
    simp only [launches, List.append_nil]
    exact sweep_valid valid.1 valid.2 ending
  | closing ending =>
    simp only [launches, List.append_nil]
    cases outcome with
    | ok => exact ⟨valid.1.congr rfl rfl rfl, valid.2.congr rfl rfl⟩
    | error error => exact ⟨valid.1.congr rfl rfl rfl, valid.2.congr rfl rfl⟩

theorem saved_valid (wellFormed : run.plan.WellFormed) {errand : Errand} {failures : UInt32}
    (valid : run.AtErrand launched reports errand) (now : Moment)
    (outcome : Except StoreError Unit) :
    (run.saved now errand failures outcome).run.Valid
      (launched ++ launches errand outcome) reports := by
  cases outcome with
  | ok => exact afterSave_valid wellFormed valid now (.ok ())
  | error error =>
    unfold saved
    dsimp only
    split
    · exact afterSave_valid wellFormed valid now (.error error)
    · have quiet : launches errand (.error error) = [] := by cases errand <;> rfl
      rw [quiet, List.append_nil]
      exact valid.rephase _

/-- A step that is lost flies no more, and the run halts. -/
theorem lost_live (live : run.Live ⟨launched, reports, reports, none, none⟩) (index : Nat)
    (halt : Halt) : (({ run with inFlight := run.inFlight.erase index } : Run).halt halt).run.Live
      ⟨launched, reports, reports, none, none⟩ := by
  refine live.congr (halt_plan _ halt) ?_ ?_ ?_ ?_ (fun unhalted =>
    absurd unhalted (halt_halted _ halt)) <;> unfold Run.halt <;> split
  · rfl
  · rfl
  · rfl
  · rfl
  · exact List.Sublist.refl _
  · exact List.Sublist.refl _
  · exact List.erase_sublist
  · exact List.erase_sublist

/-- A report is taken only from a step in flight. -/
theorem advance_valid (wellFormed : run.plan.WellFormed) (valid : run.Valid launched reports)
    (now : Moment) {input : Input} (flies : ∀ report, input = .reported report →
      run.phase = .waiting ∧ report.index ∈ run.inFlight) :
    (run.advance now input).run.Valid (launched ++ run.launching input)
      (reports ++ input.reports) := by
  have takes := run.advance_takes now input
  generalize run.advance now input = turn at takes ⊢
  cases takes with
  | opened phase =>
    simp only [Valid, phase] at valid
    simp only [launching, phase, Input.reports, List.append_nil]
    obtain ⟨fresh, facts⟩ := valid
    exact valid_save ⟨⟨fresh.steps, fresh.waitingOn, fresh.ready, fresh.inFlight⟩, facts⟩
  | @saved errand failures outcome phase =>
    simp only [Valid, phase] at valid
    simp only [launching, phase, Input.reports, List.append_nil]
    exact saved_valid wellFormed valid now outcome
  | rested phase =>
    simp only [Valid, phase] at valid
    simp only [launching, phase, Input.reports, List.append_nil]
    exact valid.rephase _
  | @reported report phase =>
    simp only [Valid, phase] at valid
    simp only [launching, phase, Input.reports, List.append_nil]
    exact settle_valid valid (flies report rfl).2 now
  | @lost index detail phase =>
    simp only [Valid, phase] at valid
    have quiet : run.launching (.lost index detail) = [] := by simp only [launching, phase]
    have silent : (Input.lost index detail).reports = [] := rfl
    rw [quiet, silent, List.append_nil, List.append_nil]
    refine proceed_valid ?_ (lost_live valid index _) now
    rwa [halt_plan]
  | cancelled phase =>
    simp only [Valid, phase] at valid
    simp only [launching, phase, Input.reports, List.append_nil]
    exact proceed_valid (by rwa [halt_plan]) (valid.halt .cancelled none) now
  | expired phase =>
    simp only [Valid, phase] at valid
    simp only [launching, phase, Input.reports, List.append_nil]
    exact proceed_valid (by rwa [halt_plan]) (valid.halt (.failed .executionTimeout) none) now
  | idle unsaved unreported unlost =>
    have silent : input.reports = [] := by
      cases input with
      | reported report => exact absurd rfl (unreported report (flies report rfl).1)
      | _ => rfl
    rw [launching_unsaved unsaved, silent, List.append_nil, List.append_nil]
    exact valid

/-- A valid run is coherent in every phase. -/
theorem Valid.coherent (valid : run.Valid launched reports) :
    ∃ spread starting pending, run.Coherent ⟨launched, reports, spread, starting, pending⟩ := by
  have atErrand {errand : Errand} (valid : run.AtErrand launched reports errand) :
      ∃ spread starting pending, run.Coherent ⟨launched, reports, spread, starting, pending⟩ := by
    cases errand with
    | opening =>
      obtain ⟨fresh, _, rfl, rfl⟩ := valid
      exact ⟨_, _, _, fresh.coherent⟩
    | dispatching index previous => exact ⟨_, _, _, valid.1.toCoherent⟩
    | settling index released halt =>
      obtain ⟨earlier, report, _, _, _, _, live⟩ := valid
      exact ⟨_, _, _, live.toCoherent⟩
    | skipping index rest halt => exact ⟨_, _, _, valid.2.toCoherent⟩
    | sweeping ending index rest => exact ⟨_, _, _, valid.1.toCoherent⟩
    | closing ending => exact ⟨_, _, _, valid.1.toCoherent⟩
  unfold Valid at valid
  split at valid
  · obtain ⟨fresh, _, rfl, rfl⟩ := valid
    exact ⟨_, _, _, fresh.coherent⟩
  · exact atErrand valid
  · exact atErrand valid
  · exact ⟨_, _, _, valid.toCoherent⟩
  · exact ⟨_, _, _, valid.1.toCoherent⟩

end

end WorkflowEngine.Run
