/-
This file proves that the fields of a step record suit its status in all that a run publishes and in
all that it hands to the store. The record of a step that starts goes to the store before others see
it, so that what is handed over and what is seen are followed side by side.
-/

import WorkflowEngine.Proofs.Execution.Advancement
import WorkflowEngine.Proofs.Execution.AttemptCounts

namespace WorkflowEngine

open Time

/-- Error, output and times are present exactly where the status asks for them. -/
structure StepRecord.Suits (record : StepRecord) (step : PlanStep) : Prop where
  nodeId : record.nodeId = step.nodeId
  error : record.error.isSome = true ↔ record.status = .failed
  output : record.output.isSome = true ↔ record.status = .succeeded
  finishedAt : record.finishedAt.isSome = true ↔ record.status.isSettled = true
  running : record.status = .running → record.startedAt.isSome = true
  unbegun : record.status = .pending ∨ record.status = .ready ∨ record.status = .skipped →
    record.attempt = 0 ∧ record.startedAt = none
  bounded : record.attempt.toNat ≤ step.retry.limit
  succeeded : record.status = .succeeded → 1 ≤ record.attempt

/-- There is one record for each step, in the order of the plan. -/
def Execution.Suits (execution : Execution) (plan : Plan) : Prop :=
  List.Forall₂ StepRecord.Suits execution.steps plan.steps

/-- What is handed to the store suits a plan if all records do that it shows. -/
def Saved.Suits (saved : Saved) (plan : Plan) : Prop :=
  match saved with
  | .header execution => execution.Suits plan
  | .step _ record => ∃ step ∈ plan.steps, record.Suits step

namespace StepRecord

section

variable {record : StepRecord} {step : PlanStep}

theorem pending_suits (step : PlanStep) : (pending step.nodeId).Suits step := by
  constructor <;> simp [pending, StepStatus.isSettled]

/-- A record that shows no result has neither an error nor an output. -/
theorem Suits.unsettled (suits : record.Suits step) (unsettled : record.status.isSettled = false) :
    record.error = none ∧ record.output = none ∧ record.finishedAt = none := by
  refine ⟨?_, ?_, ?_⟩
  · rw [← Option.not_isSome_iff_eq_none, suits.error]
    intro failed
    simp [failed, StepStatus.isSettled] at unsettled
  · rw [← Option.not_isSome_iff_eq_none, suits.output]
    intro succeeded
    simp [succeeded, StepStatus.isSettled] at unsettled
  · rw [← Option.not_isSome_iff_eq_none, suits.finishedAt, unsettled]
    decide

theorem Suits.readied (suits : record.Suits step)
    (unbegun : record.status = .pending ∨ record.status = .ready) :
    ({ record with status := .ready } : StepRecord).Suits step := by
  obtain ⟨attempt, startedAt⟩ := suits.unbegun (by tauto)
  obtain ⟨error, output, finishedAt⟩ := suits.unsettled (by
    rcases unbegun with status | status <;> rw [status] <;> rfl)
  constructor <;> simp [suits.nodeId, error, output, finishedAt, attempt, startedAt,
    StepStatus.isSettled]

theorem Suits.begun (suits : record.Suits step) (ready : record.status = .ready) (now : Timestamp) :
    ({ record with status := .running, startedAt := some now } : StepRecord).Suits step := by
  obtain ⟨error, output, finishedAt⟩ := suits.unsettled (by rw [ready]; rfl)
  constructor <;> simp [suits.nodeId, suits.bounded, error, output, finishedAt,
    StepStatus.isSettled]

theorem Suits.skipped (suits : record.Suits step)
    (unbegun : record.status = .pending ∨ record.status = .ready) (now : Timestamp) :
    ({ record with status := .skipped, finishedAt := some now } : StepRecord).Suits step := by
  obtain ⟨attempt, startedAt⟩ := suits.unbegun (by tauto)
  obtain ⟨error, output, _⟩ := suits.unsettled (by
    rcases unbegun with status | status <;> rw [status] <;> rfl)
  constructor <;> simp [suits.nodeId, error, output, attempt, startedAt, StepStatus.isSettled]

theorem Suits.cancelled (suits : record.Suits step) (unsettled : record.status.isSettled = false)
    (now : Timestamp) :
    ({ record with status := .cancelled, finishedAt := some now } : StepRecord).Suits step := by
  obtain ⟨error, output, _⟩ := suits.unsettled unsettled
  constructor <;> simp [suits.nodeId, suits.bounded, error, output, StepStatus.isSettled]

/-- A report within the policy of the step settles the record of a step that runs. -/
theorem Suits.concluded (suits : record.Suits step) (running : record.status = .running)
    {report : StepReport} (within : report.Within step.retry) (now : Timestamp) :
    (Run.concluded step { record with attempt := report.attempts, finishedAt := some now }
      report.result).1.Suits step := by
  obtain ⟨error, output, _⟩ := suits.unsettled (by rw [running]; rfl)
  unfold Run.concluded
  split
  · next value succeeded =>
    constructor <;> simp [suits.nodeId, within.bounded, within.succeeded value succeeded, error,
      StepStatus.isSettled]
  · dsimp only
    split <;> constructor <;>
      simp [suits.nodeId, within.bounded, output, StepStatus.isSettled]
  · constructor <;> simp [suits.nodeId, within.bounded, output, StepStatus.isSettled]
  · constructor <;> simp [suits.nodeId, within.bounded, error, output, StepStatus.isSettled]

end

/-- If the record of one step still suits after a change, all still suit. -/
theorem modify_suits {records : List StepRecord} {steps : List PlanStep}
    (suits : List.Forall₂ Suits records steps) {index : Nat} {change : StepRecord → StepRecord}
    (keeps : ∀ record step, records[index]? = some record → steps[index]? = some step →
      record.Suits step → (change record).Suits step) :
    List.Forall₂ Suits (records.modify index change) steps := by
  induction suits generalizing index with
  | nil => cases index <;> exact .nil
  | @cons first step records steps head rest inductionHypothesis =>
    cases index with
    | zero => exact .cons (keeps first step rfl rfl head) rest
    | succ index => exact .cons head (inductionHypothesis keeps)

/-- Each of the records that suit belongs to one of the steps. -/
theorem suits_of_mem {records : List StepRecord} {steps : List PlanStep}
    (suits : List.Forall₂ Suits records steps) {record : StepRecord} (member : record ∈ records) :
    ∃ step ∈ steps, record.Suits step := by
  induction suits with
  | nil => cases member
  | @cons first step records steps head rest inductionHypothesis =>
    rcases List.mem_cons.mp member with rfl | later
    · exact ⟨step, List.mem_cons_self, head⟩
    · obtain ⟨other, listed, suit⟩ := inductionHypothesis later
      exact ⟨other, List.mem_cons_of_mem step listed, suit⟩

end StepRecord

theorem Execution.pending_suits (plan : Plan) (id tenantId : Uuid) (triggerInput : Json) :
    (pending plan id tenantId triggerInput).Suits plan := by
  unfold Suits pending
  dsimp only
  rw [List.forall₂_map_left_iff]
  exact List.forall₂_same.mpr fun step _ => StepRecord.pending_suits step

namespace Run

/-- The step whose start is being saved differs from what is seen by its start only. -/
structure Suits (run : Run) (plan : Plan) : Prop where
  visible : run.visible.Suits plan
  begun : ∀ index previous, run.errand? = some (.dispatching index previous) → ∃ now,
    run.execution.steps = run.visible.steps.modify index fun record =>
      { record with status := .running, startedAt := some now }

/-- A run is plain unless it saves the start of a step. -/
def Plain (run : Run) : Prop :=
  ∀ index previous, run.errand? ≠ some (.dispatching index previous)

section

variable {run : Run} {plan : Plan} {launched : List Nat} {reports : List StepReport}

theorem Plain.visible_steps (plain : run.Plain) : run.visible.steps = run.execution.steps := by
  unfold visible
  split
  · next index previous own => exact absurd own (plain index previous)
  · rfl
  · rfl

theorem Plain.suits (plain : run.Plain) (suits : run.execution.Suits plan) : run.Suits plan := by
  refine ⟨?_, fun index previous own => absurd own (plain index previous)⟩
  unfold Execution.Suits
  rw [plain.visible_steps]
  exact suits

/-- What others may see depends on the records and on what is being saved only. -/
theorem Suits.same_errand (suits : run.Suits plan) {other : Run}
    (execution : other.execution = run.execution) (errand : other.errand? = run.errand?) :
    other.Suits plan := by
  have visible : other.visible = run.visible := by
    simp only [Run.visible, execution, errand]
  constructor
  · rw [visible]
    exact suits.visible
  · rw [visible, execution, errand]
    exact suits.begun

/-- A step whose start is saved was ready before. -/
theorem AtErrand.ready {index : Nat} {previous : StepRecord}
    (valid : run.AtErrand launched reports (.dispatching index previous)) :
    previous.status = .ready := by
  obtain ⟨_, _, _, _, _, _, ready, _⟩ := valid
  exact ready

/-- The step whose start is saved suits as it starts. -/
theorem Suits.started (suits : run.Suits plan) {index : Nat} {previous : StepRecord}
    (own : run.errand? = some (.dispatching index previous)) (ready : previous.status = .ready) :
    run.execution.Suits plan := by
  obtain ⟨now, steps⟩ := suits.begun index previous own
  have visible : run.visible.steps = run.execution.steps.set index previous := by
    simp only [Run.visible, own]
  unfold Execution.Suits
  rw [steps]
  apply StepRecord.modify_suits suits.visible
  intro record step found _ suit
  apply suit.begun _ now
  rw [visible, List.getElem?_set_self'] at found
  obtain ⟨_, _, same⟩ := Option.map_eq_some_iff.mp found
  rw [← same]
  exact ready

/-- The record of a step that is being started suits as well. -/
theorem Suits.execution (suits : run.Suits plan) (valid : run.Valid launched reports) :
    run.execution.Suits plan := by
  by_cases plain : run.Plain
  · have visible := suits.visible
    unfold Execution.Suits at visible
    rwa [plain.visible_steps] at visible
  · simp only [Plain, ne_eq, not_forall, not_not] at plain
    obtain ⟨index, previous, own⟩ := plain
    apply suits.started own
    unfold errand? at own
    unfold Valid at valid
    split at own
    · next errand failures phase =>
      cases Option.some.inj own
      rw [phase] at valid
      exact AtErrand.ready valid
    · next errand failures phase =>
      cases Option.some.inj own
      rw [phase] at valid
      exact AtErrand.ready valid
    · cases own

theorem modifyRecord_suits (suits : run.execution.Suits plan) {index : Nat}
    {change : StepRecord → StepRecord}
    (keeps : ∀ step, plan.steps[index]? = some step → (run.record index).Suits step →
      (change (run.record index)).Suits step) :
    (run.modifyRecord index change).execution.Suits plan := by
  apply StepRecord.modify_suits suits
  intro record step found listed suit
  have kept := keeps step listed
  rw [record_of_found found] at kept
  exact kept suit

theorem makeReady_suits (suits : run.execution.Suits plan) {index : Nat}
    (unbegun : run.Unbegun index) : (run.makeReady index).execution.Suits plan :=
  modifyRecord_suits suits fun _ _ suit => suit.readied unbegun

theorem enter_suits (suits : run.execution.Suits plan) (unbegun : ∀ index, run.Unbegun index) :
    run.enter.execution.Suits plan := by
  unfold enter
  induction run.plan.steps.filter (fun step => step.predecessors.isEmpty) generalizing run with
  | nil => exact suits
  | cons first rest inductionHypothesis =>
    exact inductionHypothesis (makeReady_suits suits (unbegun first.index))
      (makeReady_unbegun unbegun first.index)

theorem releaseStep_suits (suits : run.execution.Suits plan) (index : Nat) :
    (run.releaseStep index).execution.Suits plan := by
  unfold releaseStep
  dsimp only
  split
  · next wakes =>
    simp only [Bool.and_eq_true, beq_iff_eq] at wakes
    exact makeReady_suits suits (.inl wakes.1.2)
  · exact suits

theorem releaseSuccessors_suits (suits : run.execution.Suits plan) (index : Nat) :
    (run.releaseSuccessors index).execution.Suits plan :=
  foldl_related (fun before after => before.execution.Suits plan → after.execution.Suits plan)
    (fun _ => id) (fun one two suits => two (one suits))
    (fun _ other suits => releaseStep_suits suits other) _ run suits

theorem markSkipped_suits (suits : run.execution.Suits plan) {index : Nat} (now : Moment)
    (skippable : run.isSkippable index = true) :
    (run.markSkipped now index).execution.Suits plan :=
  modifyRecord_suits suits fun _ _ suit =>
    suit.skipped ((isSkippable_iff run index).mp skippable) now.wall

theorem skipFrom_suits (now : Moment) (count : Nat) (suits : run.execution.Suits plan)
    (queue : List Nat) : (skipFrom now count run queue).1.execution.Suits plan := by
  induction count generalizing run queue with
  | zero => exact suits
  | succ count inductionHypothesis =>
    cases queue with
    | nil => exact suits
    | cons index rest =>
      unfold skipFrom
      split
      · next skippable => exact inductionHypothesis (markSkipped_suits suits now skippable) _
      · exact inductionHypothesis suits rest

end

end Run

/-- A turn suits a plan if the run after it does and all that it publishes. -/
structure Turn.Suits (turn : Turn) (plan : Plan) : Prop where
  run : turn.run.Suits plan
  shown : ∀ snapshot, .publish snapshot ∈ turn.effects → snapshot.Suits plan

section

variable {plan : Plan} {turn : Turn} {next : Run → Turn}

theorem Turn.Unseen.suits (unseen : turn.Unseen) (run : turn.run.Suits plan) : turn.Suits plan :=
  ⟨run, fun snapshot told => absurd told (unseen snapshot)⟩

theorem Turn.andThen_suits
    (shown : ∀ snapshot, .publish snapshot ∈ turn.effects → snapshot.Suits plan)
    (later : (next turn.run).Suits plan) : (turn.andThen next).Suits plan := by
  refine ⟨later.run, fun snapshot told => ?_⟩
  rcases List.mem_append.mp told with early | late
  · exact shown snapshot early
  · exact later.shown snapshot late

/-- A turn may show one execution only, which suits. -/
theorem Turn.told_suits {execution : Execution} (suits : execution.Suits plan)
    (only : ∀ snapshot, .publish snapshot ∈ turn.effects → snapshot = execution)
    (later : (next turn.run).Suits plan) : (turn.andThen next).Suits plan := by
  apply Turn.andThen_suits _ later
  intro snapshot told
  rw [only snapshot told]
  exact suits

theorem Turn.Unseen.andThen_suits (unseen : turn.Unseen) (later : (next turn.run).Suits plan) :
    (turn.andThen next).Suits plan :=
  Turn.andThen_suits (fun snapshot told => absurd told (unseen snapshot)) later

end

namespace Run

section

variable {run : Run} {plan : Plan} {launched : List Nat} {reports : List StepReport}

theorem sweep_suits (suits : run.execution.Suits plan) {rest : List Nat}
    (unsettled : ∀ index ∈ rest, (run.record index).status.isSettled = false) (ending : Ending) :
    (run.sweep ending rest).Suits plan := by
  cases rest with
  | nil =>
    have plain : (run.sweep ending []).run.Plain := by
      simp [Plain, errand?, sweep, close, save]
    exact (quiet_unseen _).suits (plain.suits suits)
  | cons index rest =>
    have plain : (run.sweep ending (index :: rest)).run.Plain := by
      simp [Plain, errand?, sweep, save]
    have still := unsettled index List.mem_cons_self
    exact (stepSettled_unseen _ _ index).suits (plain.suits
      (modifyRecord_suits suits fun _ _ suit => suit.cancelled still ending.finishedAt))

/-- Before its start has been saved a step is seen as it was. -/
theorem dispatch_suits (suits : run.execution.Suits plan) (now : Moment) (index : Nat)
    (rest : List Nat) : (run.dispatch now index rest).Suits plan := by
  have restored : (run.dispatch now index rest).run.visible.steps = run.execution.steps :=
    modifyRecord_restored { run with ready := rest } index _
  have starts : (run.dispatch now index rest).run.Suits plan := by
    constructor
    · unfold Execution.Suits
      rw [restored]
      exact suits
    · intro other previous own
      obtain ⟨rfl, _⟩ : index = other ∧ run.record index = previous := by
        simpa [errand?, dispatch, save] using own
      refine ⟨now.wall, ?_⟩
      rw [restored]
      rfl
  exact (quiet_unseen _).suits starts

theorem proceed_suits (suits : run.execution.Suits plan) (now : Moment) :
    (run.proceed now).Suits plan := by
  have waits : Turn.Suits ⟨{ run with phase := .waiting }, []⟩ plan := by
    have plain : ({ run with phase := .waiting } : Run).Plain := by simp [Plain, errand?]
    exact (quiet_unseen _).suits (plain.suits suits)
  have finishes : (run.finish now).Suits plan := by
    apply sweep_suits suits
    intro index member
    simpa using (List.mem_filter.mp member).2
  unfold proceed
  split
  · next index rest _ _ =>
    split
    · exact dispatch_suits suits now index rest
    · split
      · exact finishes
      · exact waits
  · split
    · exact finishes
    · exact waits

theorem halted_suits (suits : run.execution.Suits plan) (halt : Halt) (now : Moment) :
    ((run.halt halt).andThen fun run => run.proceed now).Suits plan := by
  apply (halt_unseen run halt).andThen_suits
  apply proceed_suits
  rwa [halt_execution]

theorem settled_suits (suits : run.execution.Suits plan) (now : Moment) (halt : Option Halt) :
    (run.settled now halt).Suits plan := by
  have shows {run : Run} (suits : run.execution.Suits plan) :
      ((Turn.mk run [run.snapshot]).andThen fun run => run.proceed now).Suits plan :=
    Turn.told_suits suits (by simp [Run.snapshot]) (proceed_suits suits now)
  unfold settled
  cases halt with
  | none => exact (quiet_unseen run).andThen_suits (shows suits)
  | some halt =>
    apply (halt_unseen run halt).andThen_suits
    apply shows
    rwa [halt_execution]

theorem tellSkipped_suits (suits : run.execution.Suits plan) (now : Moment) (halt : Option Halt)
    (skipped : List Nat) : (run.tellSkipped now halt skipped).Suits plan := by
  cases skipped with
  | nil => exact settled_suits suits now halt
  | cons index rest =>
    have plain : (run.tellSkipped now halt (index :: rest)).run.Plain := by
      simp [Plain, errand?, tellSkipped, save]
    exact (stepSettled_unseen _ run index).suits (plain.suits suits)

theorem opened_suits (suits : run.execution.Suits plan) (fresh : run.Fresh) (now : Moment)
    (outcome : Except StoreError Unit) : (run.afterSave now outcome .opening).Suits plan := by
  have same := run.checkSave_execution "saving execution" outcome
  simp only [afterSave]
  apply (run.checkSave_unseen "saving execution" outcome).andThen_suits
  rw [← same] at suits
  generalize (run.checkSave "saving execution" outcome).run = checked at same suits ⊢
  have unbegun (index : Nat) : checked.Unbegun index := by
    rw [Unbegun, Run.record, same]
    exact .inl (fresh.record index).1
  apply Turn.told_suits suits (by simp [announceExecution, Run.snapshot])
  exact proceed_suits (enter_suits suits unbegun) now

/-- A step is seen as it starts once its start was saved. -/
theorem dispatched_suits (suits : run.Suits plan) {index : Nat} {previous : StepRecord}
    (own : run.errand? = some (.dispatching index previous)) (ready : previous.status = .ready)
    (now : Moment) (outcome : Except StoreError Unit) :
    (run.afterSave now outcome (.dispatching index previous)).Suits plan := by
  have started := suits.started own ready
  simp only [afterSave]
  cases outcome with
  | ok =>
    have launched : ({ run with inFlight := run.inFlight ++ [index] } : Run).execution.Suits plan :=
      started
    apply Turn.told_suits launched (by simp [announceStep, Run.snapshot])
    exact proceed_suits launched now
  | error error =>
    have visible : run.visible.steps =
        (run.modifyRecord index fun _ => previous).execution.steps := by
      simp only [Run.visible, own, modifyRecord, List.set_eq_modify]
    have undone := suits.visible
    unfold Execution.Suits at undone
    rw [visible] at undone
    exact halted_suits undone _ now

theorem settling_suits (suits : run.execution.Suits plan) (now : Moment)
    (outcome : Except StoreError Unit) (index : Nat) (released : Bool) (halt : Option Halt) :
    (run.afterSave now outcome (.settling index released halt)).Suits plan := by
  have same := run.checkSave_execution "saving step" outcome
  simp only [afterSave]
  apply (run.checkSave_unseen "saving step" outcome).andThen_suits
  rw [← same] at suits
  generalize (run.checkSave "saving step" outcome).run = checked at suits ⊢
  split
  · exact settled_suits (releaseSuccessors_suits suits index) now halt
  · split
    · exact tellSkipped_suits (skipFrom_suits now _ suits _) now halt _
    · exact settled_suits suits now halt

theorem closeDown_suits (suits : run.execution.Suits plan) (ending : Ending)
    (outcome : Except StoreError Unit) : (run.closeDown ending outcome).Suits plan := by
  have after : (run.closeDown ending outcome).run.execution.Suits plan := by
    cases outcome <;> exact suits
  have plain : (run.closeDown ending outcome).run.Plain := by
    simp [Plain, errand?, closeDown]
  refine ⟨plain.suits after, fun snapshot told => ?_⟩
  have last : snapshot = (run.closeDown ending outcome).run.execution := by
    simpa [closeDown, Run.snapshot, announceExecution] using told
  rwa [last]

/-- What follows a save suits. -/
theorem afterSave_suits {errand : Errand} {failures : UInt32} (suits : run.Suits plan)
    (phase : run.phase = .saving errand failures) (valid : run.AtErrand launched reports errand)
    (now : Moment) (outcome : Except StoreError Unit) :
    (run.afterSave now outcome errand).Suits plan := by
  have own : run.errand? = some errand := by simp only [errand?, phase]
  have all : run.execution.Suits plan := suits.execution (by simp only [Valid, phase]; exact valid)
  cases errand with
  | opening => exact opened_suits all valid.1 now outcome
  | dispatching index previous => exact dispatched_suits suits own valid.ready now outcome
  | settling index released halt => exact settling_suits all now outcome index released halt
  | skipping index rest halt =>
    simp only [afterSave]
    apply (run.checkSave_unseen "saving step" outcome).andThen_suits
    apply tellSkipped_suits
    rwa [run.checkSave_execution "saving step" outcome]
  | sweeping ending index rest =>
    exact sweep_suits all (fun other member => (valid.2.unsettled other member).2) ending
  | closing ending => exact closeDown_suits all ending outcome

theorem settle_suits (suits : run.execution.Suits plan) (same : run.plan = plan)
    (live : run.Live ⟨launched, reports, reports, none, none⟩) {report : StepReport}
    (flies : report.index ∈ run.inFlight)
    (within : ∀ step, plan.steps[report.index]? = some step → report.Within step.retry)
    (now : Moment) : (run.settle now report).Suits plan := by
  have running := live.launchedRunning _ (live.flightLaunched _ flies)
    (live.flightUnreported _ flies)
  obtain ⟨own, found⟩ : ∃ own, run.plan.steps[report.index]? = some own :=
    ⟨_, List.getElem?_eq_getElem (live.launchedInside _ (live.flightLaunched _ flies))⟩
  have written : (({ run with inFlight := run.inFlight.erase report.index } : Run).modifyRecord
      report.index fun _ => (concluded own { run.record report.index with
        attempt := report.attempts, finishedAt := some now.wall } report.result).1).execution.Suits
      plan := by
    apply modifyRecord_suits suits
    intro step listed suit
    rw [same, listed] at found
    cases found
    exact StepRecord.Suits.concluded suit running (within own listed) now.wall
  have plain : (run.settle now report).run.Plain := by
    simp [Plain, errand?, settle, found, save]
  simp only [settle, found] at plain ⊢
  exact (stepSettled_unseen _ _ _).suits (plain.suits written)

/-- Every answer keeps a run that suits so, with all that it publishes. -/
theorem advance_suits (suits : run.Suits plan) (same : run.plan = plan)
    (valid : run.Valid launched reports) (now : Moment) {input : Input}
    (flies : ∀ report, input = .reported report →
      run.phase = .waiting ∧ report.index ∈ run.inFlight)
    (within : ∀ report step, input = .reported report →
      plan.steps[report.index]? = some step → report.Within step.retry) :
    (run.advance now input).Suits plan := by
  have takes := run.advance_takes now input
  have all := suits.execution valid
  generalize run.advance now input = turn at takes ⊢
  cases takes with
  | opened phase =>
    have plain : (run.start now).run.Plain := by simp [Plain, errand?, start, save]
    exact Turn.Unseen.suits (by simp [Turn.Unseen, start]) (plain.suits all)
  | @saved errand failures outcome phase =>
    simp only [Valid, phase] at valid
    cases outcome with
    | ok => exact afterSave_suits suits phase valid now (.ok ())
    | error error =>
      unfold saved
      dsimp only
      split
      · exact afterSave_suits suits phase valid now (.error error)
      · apply (quiet_unseen _).suits
        exact suits.same_errand rfl (by simp only [errand?, phase])
  | @rested errand failures phase =>
    apply (quiet_unseen _).suits
    exact suits.same_errand rfl (by simp only [errand?, phase])
  | @reported report phase =>
    simp only [Valid, phase] at valid
    exact settle_suits all same valid (flies report rfl).2 (fun step => within report step rfl) now
  | @lost index detail phase =>
    have lands : ({ run with inFlight := run.inFlight.erase index } : Run).execution.Suits plan :=
      all
    exact halted_suits lands _ now
  | cancelled phase => exact halted_suits all _ now
  | expired phase => exact halted_suits all _ now
  | idle => exact (quiet_unseen run).suits suits

end

end Run

namespace Job

section

variable {executor : Executor} {plan : Plan} {infraRetry : RetryPolicy} {timeoutMs : Nat}
  {id tenantId : Uuid} {triggerInput : Json} {past : List Occurrence} {job : Job}

/-- Every input keeps a run that suits so, with all that it publishes. -/
theorem Course.advance_suits (wellFormed : plan.WellFormed)
    (course : Course (prepare executor plan infraRetry timeoutMs
      (.pending plan id tenantId triggerInput)) past job) (suits : job.run.Suits plan)
    (now : Moment) (input : Input) : (job.advance now input).1.run.Suits plan ∧
      (∀ snapshot, .publish snapshot ∈ (job.advance now input).2 → snapshot.Suits plan) ∧
      (job.snapshot.Suits plan → (job.advance now input).1.snapshot.Suits plan) := by
  have sound := course.sound wellFormed
  cases answered : job.answer? now input with
  | none =>
    rw [advance_unanswered answered]
    exact ⟨suits, by simp, fun seen => seen⟩
  | some answer =>
    have turn := Run.advance_suits suits sound.plan sound.valid now (sound.flies answered) (by
      rintro report step rfl found
      exact course.report_within wellFormed answered found)
    rw [advance_answered answered, (takeTurn_rest ..).1]
    refine ⟨turn.run, turn.shown, fun seen => ?_⟩
    rcases takeTurn_snapshot (job.relieved input) (job.run.advance now answer) with same | told
    · rw [same, (relieved_rest job input).1]
      exact seen
    · exact turn.shown _ told

/-- All along a course the run suits, and so does all that was published. -/
theorem Course.suits (wellFormed : plan.WellFormed)
    (course : Course (prepare executor plan infraRetry timeoutMs
      (.pending plan id tenantId triggerInput)) past job) :
    job.run.Suits plan ∧ job.snapshot.Suits plan ∧
      ∀ occurrence ∈ past, ∀ snapshot, .publish snapshot ∈ occurrence.effects →
        snapshot.Suits plan := by
  induction course with
  | start =>
    have pending := Execution.pending_suits plan id tenantId triggerInput
    have plain : (Run.prepare plan infraRetry (.pending plan id tenantId triggerInput)).Plain := by
      simp [Run.Plain, Run.errand?, Run.prepare]
    exact ⟨plain.suits pending, pending, by simp⟩
  | @next past job course now input inductionHypothesis =>
    obtain ⟨suits, seen, published⟩ := inductionHypothesis
    obtain ⟨after, shown, shows⟩ := course.advance_suits wellFormed suits now input
    refine ⟨after, shows seen, fun occurrence member => ?_⟩
    rcases List.mem_append.mp member with earlier | last
    · exact published occurrence earlier
    · rw [List.mem_singleton.mp last]
      exact shown

/-- The records suit their steps in all that is published, shown and saved. -/
theorem records_suit (wellFormed : plan.WellFormed)
    (course : Course (prepare executor plan infraRetry timeoutMs
      (.pending plan id tenantId triggerInput)) past job) :
    (∀ occurrence ∈ past, ∀ snapshot, .publish snapshot ∈ occurrence.effects →
      snapshot.Suits plan) ∧
    job.snapshot.Suits plan ∧
    ∀ errand failures, job.run.phase = .saving errand failures →
      (job.run.handed errand).Suits plan := by
  obtain ⟨suits, seen, published⟩ := course.suits wellFormed
  have sound := course.sound wellFormed
  have marked := course.marked (fun _ _ course => course.sound wellFormed) wellFormed rfl
  refine ⟨published, seen, fun errand failures phase => ?_⟩
  have all := suits.execution sound.valid
  unfold Run.handed
  cases target : Run.target errand with
  | none => exact all
  | some index =>
    have inside := sound.target_inside marked phase target
    have member : job.run.record index ∈ job.run.execution.steps := by
      rw [Run.record, List.getElem?_eq_getElem inside, Option.getD_some]
      exact List.getElem_mem inside
    exact StepRecord.suits_of_mem all member

end

/-- The first step of the pair has failed, and its record is handed to the store. -/
def failingPair : List Occurrence × Job :=
  replay [] ofPair ((pairScript (.failed (.fatal "broken"))).take 5)

theorem failingPair_records_suit :
    failingPair.2.run.phase = .saving (.settling 0 false
      (some (.failed (.stepFailed "first" "fatal node error: broken")))) 0 ∧
    failingPair.2.run.handed (.settling 0 false
        (some (.failed (.stepFailed "first" "fatal node error: broken")))) =
      .step .nil ⟨"first", .failed, 1, none, some "fatal node error: broken", some ⟨0, 0⟩,
        some ⟨0, 0⟩⟩ ∧
    (failingPair.2.run.handed (.settling 0 false
      (some (.failed (.stepFailed "first" "fatal node error: broken"))))).Suits .pair ∧
    failingPair.2.snapshot.steps.map StepRecord.status = [.running, .pending] ∧
    failingPair.2.snapshot.Suits .pair := by
  have phase : failingPair.2.run.phase = .saving (.settling 0 false
      (some (.failed (.stepFailed "first" "fatal node error: broken")))) 0 := by
    decide +kernel
  obtain ⟨_, seen, handed⟩ := records_suit (Compiler.compile_wellFormed Plan.pair_compiled)
    (Course.start.replay _ : Course ofPair failingPair.1 failingPair.2)
  exact ⟨phase, by decide +kernel, handed _ _ phase, by decide +kernel, seen⟩

end Job

end WorkflowEngine
