/-
This file proves that the record of a step is final once the step has settled. The records that are
saved one after the other, behind a failure or at the end, are final ones.
-/

import WorkflowEngine.Proofs.Execution.Soundness

namespace WorkflowEngine

namespace Run

def Settled (run : Run) (index : Nat) : Prop :=
  (run.record index).status.isSettled = true

/-- What has settled before lasts. -/
def Lasts (before after : Run) : Prop :=
  ∀ index, before.Settled index → after.record index = before.record index

/-- What is ready has not settled. -/
def Primed (run : Run) : Prop :=
  ∀ index ∈ run.ready, ¬run.Settled index

/-- A change spares the settled steps if it neither writes to them nor makes them ready. -/
structure Spares (before after : Run) : Prop where
  lasts : before.Lasts after
  primed : before.Primed → after.Primed

section

variable {run first second third : Run}

theorem Lasts.of_same (steps : second.execution.steps = first.execution.steps) :
    first.Lasts second := by
  intro index _
  simp only [record, steps]

theorem Lasts.trans (one : first.Lasts second) (two : second.Lasts third) :
    first.Lasts third := by
  intro index settled
  have kept := one index settled
  have still : second.Settled index := by rwa [Settled, kept]
  exact (two index still).trans kept

theorem Lasts.settled (lasts : first.Lasts second) {index : Nat} (settled : first.Settled index) :
    second.Settled index := by
  rwa [Settled, lasts index settled]

theorem Spares.refl (run : Run) : Spares run run :=
  ⟨fun _ _ => rfl, id⟩

theorem Spares.trans (one : Spares first second) (two : Spares second third) :
    Spares first third :=
  ⟨one.lasts.trans two.lasts, fun primed => two.primed (one.primed primed)⟩

theorem Spares.of_same (steps : second.execution.steps = first.execution.steps)
    (ready : second.ready = first.ready) : Spares first second := by
  refine ⟨.of_same steps, fun primed index member => ?_⟩
  simp only [Settled, record, steps]
  exact primed index (ready ▸ member)

/-- A settled step is one of the plan. -/
theorem Settled.inside {index : Nat} (settled : run.Settled index) :
    index < run.execution.steps.length := by
  by_contra outside
  have missing : run.execution.steps[index]? = none :=
    List.getElem?_eq_none (Nat.le_of_not_lt outside)
  simp [Settled, record, missing, StepRecord.pending, StepStatus.isSettled] at settled

/-- A change reaches the record of its step at most. -/
theorem modifyRecord_cases (run : Run) (index : Nat) (change : StepRecord → StepRecord)
    (other : Nat) : (run.modifyRecord index change).record other = run.record other ∨
      other = index ∧ (run.modifyRecord index change).record other = change (run.record index) := by
  by_cases inside : index < run.execution.steps.length
  · by_cases same : other = index
    · right
      rw [record_modifyRecord inside, if_pos same]
      exact ⟨same, rfl⟩
    · left
      rw [record_modifyRecord inside, if_neg same]
  · left
    simp only [record, modifyRecord, List.modify_eq_self (Nat.le_of_not_lt inside)]

theorem modifyRecord_lasts {index : Nat} (unsettled : ¬run.Settled index)
    (change : StepRecord → StepRecord) : run.Lasts (run.modifyRecord index change) := by
  intro other settled
  rcases run.modifyRecord_cases index change other with same | ⟨rfl, _⟩
  · exact same
  · exact absurd settled unsettled

/-- A record that has not settled may change to one that has not settled either. -/
theorem modifyRecord_spares {index : Nat} (unsettled : ¬run.Settled index)
    {change : StepRecord → StepRecord}
    (still : (change (run.record index)).status.isSettled = false) :
    Spares run (run.modifyRecord index change) := by
  refine ⟨modifyRecord_lasts unsettled change, fun primed other member => ?_⟩
  rcases run.modifyRecord_cases index change other with same | ⟨_, written⟩
  · rw [Settled, same]
    exact primed other member
  · simp [Settled, written, still]

theorem makeReady_spares {index : Nat} (unsettled : ¬run.Settled index) :
    Spares run (run.makeReady index) := by
  have changed : Spares run
      (run.modifyRecord index fun record => { record with status := .ready }) :=
    modifyRecord_spares unsettled rfl
  refine ⟨changed.lasts, fun primed other member => ?_⟩
  rcases (mem_enlist index other run.ready).mp member with rfl | old
  · show ¬(run.modifyRecord other fun record => { record with status := .ready }).Settled other
    rcases run.modifyRecord_cases other (fun record => { record with status := .ready }) other
      with same | ⟨_, written⟩
    · rwa [Settled, same]
    · simp [Settled, written, StepStatus.isSettled]
  · exact changed.primed primed other old

theorem halt_spares (run : Run) (halt : Halt) : Spares run (run.halt halt).run := by
  unfold Run.halt
  split
  · exact .refl run
  · exact .of_same rfl rfl

theorem checkSave_spares (run : Run) (activity : String) (outcome : Except StoreError Unit) :
    Spares run (run.checkSave activity outcome).run := by
  cases outcome with
  | ok => exact .refl run
  | error error => exact halt_spares run _

theorem releaseStep_spares (run : Run) (index : Nat) : Spares run (run.releaseStep index) := by
  have counted : Spares run
      { run with waitingOn := run.waitingOn.set index ((run.waitingOn[index]?).getD 0 - 1) } :=
    .of_same rfl rfl
  unfold releaseStep
  dsimp only
  split
  · next wakes =>
    simp only [Bool.and_eq_true, beq_iff_eq] at wakes
    refine counted.trans (makeReady_spares ?_)
    have pending := wakes.1.2
    intro settled
    simp [Settled, pending, StepStatus.isSettled] at settled
  · exact counted

theorem releaseSuccessors_spares (run : Run) (index : Nat) :
    Spares run (run.releaseSuccessors index) :=
  foldl_related Spares Spares.refl Spares.trans releaseStep_spares _ run

theorem markSkipped_spares {index : Nat} (now : Moment) (skippable : run.isSkippable index = true) :
    Spares run (run.markSkipped now index) := by
  have unsettled : ¬run.Settled index := by
    rcases (isSkippable_iff run index).mp skippable with status | status <;>
      simp [Settled, status, StepStatus.isSettled]
  refine ⟨modifyRecord_lasts unsettled _, fun primed other member => ?_⟩
  simp only [markSkipped, List.mem_filter, bne_iff_ne] at member
  show ¬(run.modifyRecord index _).Settled other
  rcases run.modifyRecord_cases index _ other with same | ⟨own, _⟩
  · rw [Settled, same]
    exact primed other member.1
  · exact absurd own member.2

theorem skipFrom_spares (now : Moment) (count : Nat) (run : Run) (queue : List Nat) :
    Spares run (skipFrom now count run queue).1 := by
  induction count generalizing run queue with
  | zero => exact .refl run
  | succ count inductionHypothesis =>
    cases queue with
    | nil => exact .refl run
    | cons index rest =>
      unfold skipFrom
      split
      · next skippable =>
        exact (markSkipped_spares now skippable).trans (inductionHypothesis _ _)
      · exact inductionHypothesis run rest

end

/-- These steps are saved one after the other once they have settled. -/
def marked (run : Run) : List Nat :=
  match run.errand? with
  | some (.skipping index rest _) => index :: rest
  | some (.sweeping _ index _) => [index]
  | _ => []

def Marked (run : Run) : Prop :=
  ∀ index ∈ run.marked, run.Settled index

end Run

/-- What has settled lasts, and what is skipped or swept has settled. -/
structure Turn.Faithful (before : Run) (turn : Turn) : Prop where
  lasts : before.Lasts turn.run
  marked : turn.run.Marked

theorem Turn.Faithful.after {before between : Run} {turn : Turn}
    (faithful : turn.Faithful between) (lasts : before.Lasts between) : turn.Faithful before :=
  ⟨lasts.trans faithful.lasts, faithful.marked⟩

namespace Run

section

variable {run : Run} {launched : List Nat} {reports : List StepReport}

theorem sweep_faithful {rest : List Nat}
    (unsettled : ∀ index ∈ rest, index < run.execution.steps.length ∧ ¬run.Settled index)
    (ending : Ending) : (run.sweep ending rest).Faithful run := by
  cases rest with
  | nil => exact ⟨.of_same rfl, by simp [Marked, marked, errand?, sweep, close, save]⟩
  | cons index rest =>
    obtain ⟨inside, still⟩ := unsettled index List.mem_cons_self
    refine ⟨modifyRecord_lasts still _, ?_⟩
    intro other member
    have swept := record_modifyRecord inside
      (fun record => { record with status := .cancelled, finishedAt := some ending.finishedAt })
      index
    rw [if_pos rfl] at swept
    rw [List.mem_singleton.mp member]
    exact congrArg (fun record => record.status.isSettled) swept

theorem proceed_faithful (primed : run.Primed) (now : Moment) :
    (run.proceed now).Faithful run := by
  have waits : Turn.Faithful run ⟨{ run with phase := .waiting }, []⟩ :=
    ⟨.of_same rfl, by simp [Marked, marked, errand?]⟩
  have finishes : (run.finish now).Faithful run := by
    refine sweep_faithful (fun index member => ?_) _
    simpa [unsettled, Settled] using member
  unfold proceed
  split
  · next index rest _ ready =>
    split
    · have still := primed index (by simp [ready])
      have lasts : run.Lasts (run.dispatch now index rest).run :=
        Run.modifyRecord_lasts (still : ¬Settled { run with ready := rest } index) _
      exact ⟨lasts, by simp [Marked, marked, errand?, dispatch, save]⟩
    · split
      · exact finishes
      · exact waits
  · split
    · exact finishes
    · exact waits

/-- A change that spares the settled steps goes on faithfully. -/
theorem Spares.proceed {before after : Run} (spares : Spares before after) (primed : before.Primed)
    (now : Moment) : (after.proceed now).Faithful before :=
  (proceed_faithful (spares.primed primed) now).after spares.lasts

theorem Spares.settled {before after : Run} (spares : Spares before after)
    (primed : before.Primed) (now : Moment) (halt : Option Halt) :
    (after.settled now halt).Faithful before := by
  cases halt with
  | none =>
    obtain ⟨lasts, marked⟩ := spares.proceed primed now
    exact ⟨lasts, marked⟩
  | some halt =>
    obtain ⟨lasts, marked⟩ := (spares.trans (halt_spares after halt)).proceed primed now
    exact ⟨lasts, marked⟩

theorem Spares.tellSkipped {before after : Run} (spares : Spares before after)
    (primed : before.Primed) (now : Moment) (halt : Option Halt) {skipped : List Nat}
    (told : ∀ index ∈ skipped, after.Settled index) :
    (after.tellSkipped now halt skipped).Faithful before := by
  cases skipped with
  | nil => exact spares.settled primed now halt
  | cons index rest => exact ⟨spares.lasts, told⟩

theorem Live.primed {ledger : Ledger} (live : run.Live ledger) : run.Primed := by
  intro index member settled
  simp [Settled, live.readyStatus index member, StepStatus.isSettled] at settled

theorem Fresh.unsettled (fresh : run.Fresh) (index : Nat) : ¬run.Settled index := by
  simp [Settled, (fresh.record index).1, StepStatus.isSettled]

/-- A run without settled steps has none after it has made its entry steps ready. -/
theorem enter_unsettled (unsettled : ∀ index, ¬run.Settled index) (index : Nat) :
    ¬run.enter.Settled index := by
  unfold enter
  induction run.plan.steps.filter (fun step => step.predecessors.isEmpty) generalizing run with
  | nil => exact unsettled index
  | cons first rest inductionHypothesis =>
    apply inductionHypothesis
    intro other
    show ¬(run.modifyRecord first.index _).Settled other
    rcases run.modifyRecord_cases first.index _ other with same | ⟨_, written⟩
    · rw [Settled, same]
      exact unsettled other
    · simp [Settled, written, StepStatus.isSettled]

theorem opened_faithful (fresh : run.Fresh) (now : Moment) (outcome : Except StoreError Unit) :
    (run.afterSave now outcome .opening).Faithful run := by
  have checked (index : Nat) : ¬(run.checkSave "saving execution" outcome).run.Settled index := by
    have same : (run.checkSave "saving execution" outcome).run.execution = run.execution := by
      cases outcome with
      | ok => rfl
      | error error =>
        simp only [checkSave, haltOnStore, Run.halt]
        split <;> rfl
    simp only [Settled, record, same]
    exact fresh.unsettled index
  have primed : (run.checkSave "saving execution" outcome).run.enter.Primed :=
    fun index _ => enter_unsettled checked index
  obtain ⟨_, marked⟩ := proceed_faithful primed now
  exact ⟨fun index settled => absurd settled (fresh.unsettled index), marked⟩

theorem settling_faithful (wellFormed : run.plan.WellFormed) {index : Nat} {released : Bool}
    {halt : Option Halt} (valid : run.AtErrand launched reports (.settling index released halt))
    (now : Moment) (outcome : Except StoreError Unit) :
    (run.afterSave now outcome (.settling index released halt)).Faithful run := by
  obtain ⟨earlier, report, _, _, _, _, live⟩ := valid
  have plan := checkSave_plan run "saving step" outcome
  have checked := live.checkSave "saving step" outcome
  have spares := run.checkSave_spares "saving step" outcome
  have primed := live.primed
  simp only [afterSave, Turn.andThen]
  rw [← plan] at wellFormed
  generalize (run.checkSave "saving step" outcome).run = after at *
  split
  · obtain ⟨lasts, marked⟩ :=
      (spares.trans (after.releaseSuccessors_spares index)).settled primed now halt
    exact ⟨lasts, marked⟩
  · split
    · obtain ⟨skips, _⟩ := checked.skips wellFormed now index
      have told : ∀ other ∈ (after.skipSuccessors now index).2,
          (after.skipSuccessors now index).1.Settled other := by
        intro other member
        rw [Settled, skips.hit other member]
        rfl
      obtain ⟨lasts, marked⟩ :=
        (spares.trans (skipFrom_spares now _ after _)).tellSkipped primed now halt told
      exact ⟨lasts, marked⟩
    · obtain ⟨lasts, marked⟩ := spares.settled primed now halt
      exact ⟨lasts, marked⟩

theorem Sweeps.faithful {rest : List Nat} {ledger : Ledger} (ended : run.Ended ledger)
    (sweeps : run.Sweeps rest) (ending : Ending) : (run.sweep ending rest).Faithful run := by
  refine sweep_faithful (fun index member => ?_) ending
  obtain ⟨inside, unsettled⟩ := sweeps.unsettled index member
  rw [← ended.recordCount] at inside
  exact ⟨inside, by simp [Settled, unsettled]⟩

theorem afterSave_faithful (wellFormed : run.plan.WellFormed) {errand : Errand}
    (own : run.errand? = some errand) (valid : run.AtErrand launched reports errand)
    (marked : run.Marked) (now : Moment) (outcome : Except StoreError Unit) :
    (run.afterSave now outcome errand).Faithful run := by
  cases errand with
  | opening => exact opened_faithful valid.1 now outcome
  | dispatching index previous =>
    obtain ⟨live, _, _, _, running, _, ready, _⟩ := valid
    have primed := live.primed
    cases outcome with
    | ok =>
      have launches : Spares run { run with inFlight := run.inFlight ++ [index] } :=
        .of_same rfl rfl
      obtain ⟨lasts, marked⟩ := launches.proceed primed now
      exact ⟨lasts, marked⟩
    | error error =>
      have unsettled : ¬run.Settled index := by simp [Settled, running, StepStatus.isSettled]
      have back : Spares run (run.modifyRecord index fun _ => previous) :=
        modifyRecord_spares unsettled (by rw [ready]; rfl)
      obtain ⟨lasts, marked⟩ := (back.trans (halt_spares _ _)).proceed primed now
      exact ⟨lasts, marked⟩
  | settling index released halt => exact settling_faithful wellFormed valid now outcome
  | skipping index rest halt =>
    have spares := run.checkSave_spares "saving step" outcome
    have told : ∀ other ∈ rest, (run.checkSave "saving step" outcome).run.Settled other := by
      intro other member
      apply spares.lasts.settled
      apply marked
      simp [Run.marked, own, member]
    obtain ⟨lasts, marked⟩ := spares.tellSkipped valid.2.primed now halt told
    exact ⟨lasts, marked⟩
  | sweeping ending index rest => exact valid.2.faithful valid.1 ending
  | closing ending =>
    refine ⟨.of_same ?_, by simp [Marked, Run.marked, errand?, afterSave, closeDown]⟩
    cases outcome <;> rfl

theorem settle_faithful (live : run.Live ⟨launched, reports, reports, none, none⟩)
    {report : StepReport} (flies : report.index ∈ run.inFlight) (now : Moment) :
    (run.settle now report).Faithful run := by
  have running := live.launchedRunning _ (live.flightLaunched _ flies)
    (live.flightUnreported _ flies)
  have found := List.getElem?_eq_getElem (live.launchedInside _ (live.flightLaunched _ flies))
  have unsettled : ¬({ run with inFlight := run.inFlight.erase report.index } : Run).Settled
      report.index := by
    show ¬(run.record report.index).status.isSettled = true
    rw [running]
    decide
  simp only [settle, found]
  exact ⟨modifyRecord_lasts unsettled _, by simp [Marked, marked, errand?, save]⟩

/-- Every answer to a valid run is taken faithfully. -/
theorem advance_faithful (wellFormed : run.plan.WellFormed) (valid : run.Valid launched reports)
    (marked : run.Marked) (now : Moment) {input : Input}
    (flies : ∀ report, input = .reported report →
      run.phase = .waiting ∧ report.index ∈ run.inFlight) :
    (run.advance now input).Faithful run := by
  have takes := run.advance_takes now input
  generalize run.advance now input = turn at takes ⊢
  have halts {before : Run} (spares : Spares run before) (primed : run.Primed) (halt : Halt) :
      ((before.halt halt).andThen fun run => run.proceed now).Faithful run := by
    obtain ⟨lasts, marked⟩ := (spares.trans (halt_spares before halt)).proceed primed now
    exact ⟨lasts, marked⟩
  cases takes with
  | opened phase => exact ⟨.of_same rfl, by simp [Marked, Run.marked, errand?, start, save]⟩
  | @saved errand failures outcome phase =>
    simp only [Valid, phase] at valid
    have own : run.errand? = some errand := by simp only [errand?, phase]
    cases outcome with
    | ok => exact afterSave_faithful wellFormed own valid marked now (.ok ())
    | error error =>
      unfold saved
      dsimp only
      split
      · exact afterSave_faithful wellFormed own valid marked now (.error error)
      · refine ⟨.of_same rfl, ?_⟩
        have same : ({ run with phase := .pausing errand (failures + 1) } : Run).marked =
            run.marked := by simp only [Run.marked, errand?, phase]
        intro index member
        exact marked index (same ▸ member)
  | @rested errand failures phase =>
    refine ⟨.of_same rfl, ?_⟩
    have same : ({ run with phase := .saving errand failures } : Run).marked = run.marked := by
      simp only [Run.marked, errand?, phase]
    intro index member
    exact marked index (same ▸ member)
  | @reported report phase =>
    simp only [Valid, phase] at valid
    exact settle_faithful valid (flies report rfl).2 now
  | @lost index detail phase =>
    simp only [Valid, phase] at valid
    have lands : Spares run { run with inFlight := run.inFlight.erase index } := .of_same rfl rfl
    exact halts lands valid.primed _
  | cancelled phase =>
    simp only [Valid, phase] at valid
    exact halts (.refl run) valid.primed _
  | expired phase =>
    simp only [Valid, phase] at valid
    exact halts (.refl run) valid.primed _
  | idle => exact ⟨.of_same rfl, marked⟩

end

end Run

namespace Job

section

variable {start job : Job} {past : List Occurrence}

/-- Whatever happens to a job, what has settled lasts. -/
theorem Sound.faithful (wellFormed : start.run.plan.WellFormed) (sound : Sound start past job)
    (marked : job.run.Marked) (now : Moment) (input : Input) :
    job.run.Lasts (job.advance now input).1.run ∧ (job.advance now input).1.run.Marked := by
  rw [run_after]
  split
  · next answer answered =>
    obtain ⟨lasts, marks⟩ := Run.advance_faithful (sound.plan ▸ wellFormed) sound.valid marked now
      (sound.flies answered)
    exact ⟨lasts, marks⟩
  · exact ⟨.of_same rfl, marked⟩

theorem Course.marked (course : Course start past job)
    (sound : ∀ past job, Course start past job → Sound start past job)
    (wellFormed : start.run.plan.WellFormed) (unmarked : start.run.marked = []) :
    job.run.Marked := by
  induction course with
  | start => simp [Run.Marked, unmarked]
  | next course now input inductionHypothesis =>
    exact ((sound _ _ course).faithful wellFormed inductionHypothesis now input).2

/-- What has settled in the middle of a course lasts to its end. -/
theorem Course.lasts (course : Course start past job)
    (sound : ∀ past job, Course start past job → Sound start past job)
    (wellFormed : start.run.plan.WellFormed) (unmarked : start.run.marked = [])
    {earlier later : List Occurrence} {occurrence : Occurrence}
    (listed : past = earlier ++ occurrence :: later) :
    occurrence.before.run.Lasts job.run := by
  induction course generalizing later with
  | start => simp at listed
  | @next past job course now input inductionHypothesis =>
    have marked := course.marked sound wellFormed unmarked
    have last := ((sound _ _ course).faithful wellFormed marked now input).1
    rcases List.eq_nil_or_concat later with rfl | ⟨front, other, rfl⟩
    · obtain ⟨rfl, same⟩ := List.append_inj' listed rfl
      cases same
      exact last
    · rw [List.concat_eq_append, ← List.cons_append, ← List.append_assoc] at listed
      exact (inductionHypothesis (List.append_inj' listed rfl).1).trans last

end

end Job

end WorkflowEngine
