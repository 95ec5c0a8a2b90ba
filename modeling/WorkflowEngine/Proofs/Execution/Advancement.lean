/-
This file proves that what others see of an execution only moves forward. A step that is to be
started is not seen as running before its start has been saved, since it goes back if the save fails
for good.
-/

import Mathlib.Data.List.Forall2
import WorkflowEngine.Proofs.Execution.Finality
import WorkflowEngine.Proofs.Execution.Routes
import WorkflowEngine.Proofs.Execution.StoredEnd

namespace WorkflowEngine

/-- An execution is opened, and then it ends. -/
inductive ExecutionStatus.Next : ExecutionStatus → ExecutionStatus → Prop where
  | opens : Next .pending .running
  | ends {status : ExecutionStatus} (terminal : status.isTerminal = true) : Next .running status

/-- A step becomes ready, runs and settles, or is skipped or cancelled before that. -/
inductive StepStatus.Next : StepStatus → StepStatus → Prop where
  | readies : Next .pending .ready
  | begins : Next .ready .running
  | succeeds : Next .running .succeeded
  | fails : Next .running .failed
  | skips {first : StepStatus} (unbegun : first = .pending ∨ first = .ready) : Next first .skipped
  | cancels {first : StepStatus} (unsettled : first.isSettled = false) : Next first .cancelled

/-- The states of an execution that come later are reached one after the other. -/
def ExecutionStatus.Leads : ExecutionStatus → ExecutionStatus → Prop :=
  Relation.ReflTransGen ExecutionStatus.Next

/-- The states of a step that come later are reached one after the other. -/
def StepStatus.Leads : StepStatus → StepStatus → Prop :=
  Relation.ReflTransGen StepStatus.Next

/-- Once the step has settled the record stays. -/
structure StepRecord.Leads (first second : StepRecord) : Prop where
  nodeId : second.nodeId = first.nodeId
  status : first.status.Leads second.status
  final : first.status.isSettled = true → second = first

/-- One state precedes another if its status and its records lead there. -/
structure Execution.Precedes (first second : Execution) : Prop where
  status : first.status.Leads second.status
  steps : List.Forall₂ StepRecord.Leads first.steps second.steps

/-- A snapshot leads to a later one. Once the execution has ended the snapshot stays. -/
structure Execution.LeadsTo (first second : Execution) : Prop extends
    Execution.Precedes first second where
  final : first.status.isTerminal = true → second = first

namespace StepRecord

@[refl] theorem Leads.refl (record : StepRecord) : record.Leads record :=
  ⟨rfl, .refl, fun _ => rfl⟩

theorem Leads.trans {first second third : StepRecord} (one : first.Leads second)
    (two : second.Leads third) : first.Leads third := by
  refine ⟨two.nodeId.trans one.nodeId, Relation.ReflTransGen.trans one.status two.status, ?_⟩
  intro settled
  have same := one.final settled
  subst same
  exact two.final settled

/-- Any later state may follow as long as the step has not settled. -/
theorem Leads.of_unsettled {first second : StepRecord} (nodeId : second.nodeId = first.nodeId)
    (status : first.status.Leads second.status) (unsettled : first.status.isSettled = false) :
    first.Leads second :=
  ⟨nodeId, status, fun settled => by simp [unsettled] at settled⟩

/-- If the record of one step leads on and the others stay, all lead on. -/
theorem modify_leads {steps : List StepRecord} {index : Nat} {change : StepRecord → StepRecord}
    (leads : ∀ record, steps[index]? = some record → record.Leads (change record)) :
    List.Forall₂ Leads steps (steps.modify index change) := by
  induction steps generalizing index with
  | nil => cases index <;> exact .nil
  | cons first rest inductionHypothesis =>
    cases index with
    | zero => exact .cons (leads first rfl) (List.forall₂_same.mpr fun record _ => .refl record)
    | succ index => exact .cons (.refl first) (inductionHypothesis leads)

theorem forall_leads_trans {first second third : List StepRecord}
    (one : List.Forall₂ Leads first second) (two : List.Forall₂ Leads second third) :
    List.Forall₂ Leads first third := by
  induction one generalizing third with
  | nil => exact two
  | cons head _ inductionHypothesis =>
    cases two with
    | cons next rest => exact .cons (head.trans next) (inductionHypothesis rest)

end StepRecord

namespace Execution

@[refl] theorem Precedes.refl (execution : Execution) : execution.Precedes execution :=
  ⟨.refl, List.forall₂_same.mpr fun record _ => .refl record⟩

theorem Precedes.trans {first second third : Execution} (one : first.Precedes second)
    (two : second.Precedes third) : first.Precedes third :=
  ⟨Relation.ReflTransGen.trans one.status two.status,
    StepRecord.forall_leads_trans one.steps two.steps⟩

theorem Precedes.of_same {first second : Execution} (status : second.status = first.status)
    (steps : second.steps = first.steps) : first.Precedes second := by
  refine ⟨?_, ?_⟩
  · rw [status]
    exact .refl
  · rw [steps]
    exact (Precedes.refl first).steps

@[refl] theorem LeadsTo.refl (execution : Execution) : execution.LeadsTo execution :=
  ⟨.refl execution, fun _ => rfl⟩

theorem LeadsTo.trans {first second third : Execution} (one : first.LeadsTo second)
    (two : second.LeadsTo third) : first.LeadsTo third := by
  refine ⟨one.toPrecedes.trans two.toPrecedes, fun ended => ?_⟩
  have same := one.final ended
  subst same
  exact two.final ended

end Execution

namespace Run

section

variable {run : Run}

theorem record_of_found {index : Nat} {record : StepRecord}
    (found : run.execution.steps[index]? = some record) : run.record index = record := by
  simp [Run.record, found]

theorem modifyRecord_precedes {index : Nat} {change : StepRecord → StepRecord}
    (leads : (run.record index).Leads (change (run.record index))) :
    run.execution.Precedes (run.modifyRecord index change).execution := by
  refine ⟨.refl, StepRecord.modify_leads fun record found => ?_⟩
  rwa [record_of_found found] at leads

/-- A step that has not begun is still pending or ready. -/
def Unbegun (run : Run) (index : Nat) : Prop :=
  (run.record index).status = .pending ∨ (run.record index).status = .ready

theorem Unbegun.unsettled {index : Nat} (unbegun : run.Unbegun index) :
    (run.record index).status.isSettled = false := by
  rcases unbegun with status | status <;> rw [status] <;> rfl

theorem makeReady_precedes {index : Nat} (unbegun : run.Unbegun index) :
    run.execution.Precedes (run.makeReady index).execution := by
  refine modifyRecord_precedes (.of_unsettled rfl ?_ unbegun.unsettled)
  rcases unbegun with status | status <;> rw [status]
  · exact .single .readies
  · exact .refl

theorem makeReady_unbegun (unbegun : ∀ index, run.Unbegun index) (index other : Nat) :
    (run.makeReady index).Unbegun other := by
  show (run.modifyRecord index _).Unbegun other
  rcases run.modifyRecord_cases index _ other with same | ⟨_, written⟩
  · rw [Unbegun, same]
    exact unbegun other
  · exact .inr (by rw [written])

/-- A run in which no step has begun moves forward as it makes its entry steps ready. -/
theorem enter_precedes (unbegun : ∀ index, run.Unbegun index) :
    run.execution.Precedes run.enter.execution := by
  unfold enter
  induction run.plan.steps.filter (fun step => step.predecessors.isEmpty) generalizing run with
  | nil => exact .refl run.execution
  | cons first rest inductionHypothesis =>
    exact (makeReady_precedes (unbegun first.index)).trans
      (inductionHypothesis (makeReady_unbegun unbegun first.index))

theorem releaseStep_precedes (run : Run) (index : Nat) :
    run.execution.Precedes (run.releaseStep index).execution := by
  unfold releaseStep
  dsimp only
  split
  · next wakes =>
    simp only [Bool.and_eq_true, beq_iff_eq] at wakes
    exact makeReady_precedes (.inl wakes.1.2)
  · exact .refl run.execution

theorem releaseSuccessors_precedes (run : Run) (index : Nat) :
    run.execution.Precedes (run.releaseSuccessors index).execution :=
  foldl_related (fun before after => before.execution.Precedes after.execution)
    (fun run => .refl run.execution) (fun one two => one.trans two) releaseStep_precedes _ run

theorem markSkipped_precedes {index : Nat} (now : Moment)
    (skippable : run.isSkippable index = true) :
    run.execution.Precedes (run.markSkipped now index).execution := by
  have unbegun : run.Unbegun index := (isSkippable_iff run index).mp skippable
  exact modifyRecord_precedes (.of_unsettled rfl (.single (.skips unbegun)) unbegun.unsettled)

theorem skipFrom_precedes (now : Moment) (count : Nat) (run : Run) (queue : List Nat) :
    run.execution.Precedes (skipFrom now count run queue).1.execution := by
  induction count generalizing run queue with
  | zero => exact .refl run.execution
  | succ count inductionHypothesis =>
    cases queue with
    | nil => exact .refl run.execution
    | cons index rest =>
      unfold skipFrom
      split
      · next skippable =>
        exact (markSkipped_precedes now skippable).trans (inductionHypothesis _ _)
      · exact inductionHypothesis run rest

/-- No start of a step and no end is told before it has been saved. -/
def visible (run : Run) : Execution :=
  match run.errand? with
  | some (.dispatching index previous) =>
    { run.execution with steps := run.execution.steps.set index previous }
  | some (.closing _) => { run.execution with status := .running }
  | _ => run.execution

end

end Run

/-- What a turn publishes comes later than what could be told before. -/
structure Turn.Forward (before : Execution) (turn : Turn) : Prop where
  leads : before.Precedes turn.run.visible
  shown : ∀ snapshot, .publish snapshot ∈ turn.effects →
    before.Precedes snapshot ∧ snapshot.Precedes turn.run.visible

/-- An unseen turn publishes nothing. -/
def Turn.Unseen (turn : Turn) : Prop :=
  ∀ snapshot, .publish snapshot ∉ turn.effects

section

variable {before : Execution} {turn : Turn} {next : Run → Turn}

theorem Turn.Unseen.forward (unseen : turn.Unseen) (leads : before.Precedes turn.run.visible) :
    turn.Forward before :=
  ⟨leads, fun snapshot told => absurd told (unseen snapshot)⟩

theorem Turn.Forward.after {between : Execution} (forward : turn.Forward between)
    (leads : before.Precedes between) : turn.Forward before :=
  ⟨leads.trans forward.leads, fun snapshot told =>
    ⟨leads.trans (forward.shown snapshot told).1, (forward.shown snapshot told).2⟩⟩

theorem Turn.Forward.andThen (leads : before.Precedes turn.run.execution)
    (shown : ∀ snapshot, .publish snapshot ∈ turn.effects →
      before.Precedes snapshot ∧ snapshot.Precedes turn.run.execution)
    (later : (next turn.run).Forward turn.run.execution) : (turn.andThen next).Forward before := by
  refine ⟨leads.trans later.leads, fun snapshot told => ?_⟩
  rcases List.mem_append.mp told with early | late
  · obtain ⟨first, second⟩ := shown snapshot early
    exact ⟨first, second.trans later.leads⟩
  · obtain ⟨first, second⟩ := later.shown snapshot late
    exact ⟨leads.trans first, second⟩

theorem Turn.Unseen.andThen (unseen : turn.Unseen) (leads : before.Precedes turn.run.execution)
    (later : (next turn.run).Forward turn.run.execution) : (turn.andThen next).Forward before :=
  .andThen leads (fun snapshot told => absurd told (unseen snapshot)) later

end

namespace Run

section

variable {run : Run} {launched : List Nat} {reports : List StepReport}

theorem quiet_unseen (run : Run) : (Turn.mk run []).Unseen :=
  fun _ => List.not_mem_nil

theorem halt_unseen (run : Run) (halt : Halt) : (run.halt halt).Unseen := by
  unfold Run.halt
  split <;> simp [Turn.Unseen]

theorem checkSave_unseen (run : Run) (activity : String) (outcome : Except StoreError Unit) :
    (run.checkSave activity outcome).Unseen := by
  cases outcome with
  | ok => exact quiet_unseen run
  | error error => exact halt_unseen run _

theorem stepSettled_unseen (run before : Run) (index : Nat) :
    (Turn.mk run (before.stepSettled index)).Unseen := by
  simp [Turn.Unseen, stepSettled, announceStep]

theorem sweep_forward (running : run.execution.status = .running) {rest : List Nat}
    (unsettled : ∀ index ∈ rest, (run.record index).status.isSettled = false) (ending : Ending) :
    (run.sweep ending rest).Forward run.execution := by
  cases rest with
  | nil => exact (quiet_unseen _).forward (.of_same running.symm rfl)
  | cons index rest =>
    have still := unsettled index List.mem_cons_self
    exact (stepSettled_unseen _ _ index).forward
      (modifyRecord_precedes (.of_unsettled rfl (.single (.cancels still)) still))

/-- A record that is written back undoes its change. -/
theorem modifyRecord_restored (run : Run) (index : Nat) (change : StepRecord → StepRecord) :
    (run.modifyRecord index change).execution.steps.set index (run.record index) =
      run.execution.steps := by
  apply List.ext_getElem?
  intro other
  simp only [modifyRecord, List.getElem?_set, List.getElem?_modify, List.length_modify]
  by_cases same : index = other
  · subst same
    simp only [if_true, Run.record]
    split
    · next inside => simp [List.getElem?_eq_getElem inside]
    · next outside => rw [List.getElem?_eq_none (Nat.le_of_not_lt outside)]
  · simp [same]

/-- Nothing is seen of a start before it has been saved. -/
theorem dispatch_forward (run : Run) (now : Moment) (index : Nat) (rest : List Nat) :
    (run.dispatch now index rest).Forward run.execution :=
  (quiet_unseen _).forward
    (.of_same rfl (modifyRecord_restored { run with ready := rest } index _))

theorem proceed_forward (running : run.execution.status = .running) (now : Moment) :
    (run.proceed now).Forward run.execution := by
  have waits : Turn.Forward run.execution ⟨{ run with phase := .waiting }, []⟩ :=
    (quiet_unseen _).forward (.refl run.execution)
  have finishes : (run.finish now).Forward run.execution := by
    refine sweep_forward running (fun index member => ?_) _
    simpa using (List.mem_filter.mp member).2
  unfold proceed
  split
  · next index rest _ _ =>
    split
    · exact dispatch_forward run now index rest
    · split
      · exact finishes
      · exact waits
  · split
    · exact finishes
    · exact waits

theorem halted_forward (running : run.execution.status = .running) (halt : Halt) (now : Moment) :
    ((run.halt halt).andThen fun run => run.proceed now).Forward run.execution := by
  refine (halt_unseen run halt).andThen ?_ (proceed_forward ?_ now)
  · rw [halt_execution]
  · rwa [halt_execution]

theorem settled_forward (running : run.execution.status = .running) (now : Moment)
    (halt : Option Halt) : (run.settled now halt).Forward run.execution := by
  have shows {run : Run} (running : run.execution.status = .running) :
      ((Turn.mk run [run.snapshot]).andThen fun run => run.proceed now).Forward run.execution := by
    refine .andThen (.refl run.execution) (fun snapshot told => ?_) (proceed_forward running now)
    simp only [Run.snapshot, List.mem_singleton, Effect.publish.injEq] at told
    rw [told]
    exact ⟨.refl run.execution, .refl run.execution⟩
  unfold settled
  cases halt with
  | none => exact (quiet_unseen run).andThen (.refl run.execution) (shows running)
  | some halt =>
    refine (halt_unseen run halt).andThen ?_ (shows ?_)
    · rw [halt_execution]
    · rwa [halt_execution]

theorem tellSkipped_forward (running : run.execution.status = .running) (now : Moment)
    (halt : Option Halt) (skipped : List Nat) :
    (run.tellSkipped now halt skipped).Forward run.execution := by
  cases skipped with
  | nil => exact settled_forward running now halt
  | cons index rest => exact (stepSettled_unseen _ run index).forward (.refl run.execution)

theorem opened_forward (running : run.execution.status = .running) (fresh : run.Fresh)
    (now : Moment) (outcome : Except StoreError Unit) :
    (run.afterSave now outcome .opening).Forward run.execution := by
  have same := run.checkSave_execution "saving execution" outcome
  have unseen := run.checkSave_unseen "saving execution" outcome
  simp only [afterSave]
  refine unseen.andThen (.of_same (by rw [same]) (by rw [same])) ?_
  generalize (run.checkSave "saving execution" outcome).run = checked at same ⊢
  have unbegun (index : Nat) : checked.Unbegun index := by
    rw [Unbegun, Run.record, same]
    exact .inl (fresh.record index).1
  have entered := enter_precedes unbegun
  have opened := @enter_calm (fun _ => True) checked
  refine .andThen entered (fun snapshot told => ?_)
    (proceed_forward (opened.status.trans (same ▸ running)) now)
  simp only [announceExecution, Run.snapshot, List.mem_cons, List.not_mem_nil, or_false,
    reduceCtorEq, Effect.publish.injEq, false_or] at told
  rw [told]
  exact ⟨.refl checked.execution, entered⟩

/-- A start whose save has failed for good goes back unseen. -/
theorem dispatched_forward (running : run.execution.status = .running) {index : Nat}
    {previous : StepRecord} (own : run.errand? = some (.dispatching index previous))
    (valid : run.AtErrand launched reports (.dispatching index previous)) (now : Moment)
    (outcome : Except StoreError Unit) :
    (run.afterSave now outcome (.dispatching index previous)).Forward run.visible := by
  obtain ⟨live, _, bound, _, begun, named, ready, _⟩ := valid
  have visible : run.visible = (run.modifyRecord index fun _ => previous).execution := by
    simp only [Run.visible, own, modifyRecord, List.set_eq_modify]
  simp only [afterSave]
  cases outcome with
  | ok =>
    have before := @record_modifyRecord run index (live.recordCount ▸ bound)
      (fun _ => previous) index
    rw [if_pos rfl] at before
    have starts : previous.Leads (run.record index) := by
      refine .of_unsettled named.symm ?_ ?_
      · rw [ready, begun]
        exact .single .begins
      · rw [ready]
        rfl
    have leads : run.visible.Precedes run.execution := by
      have restored := run.modifyRecord_restored index fun _ => previous
      rw [List.set_eq_modify] at restored
      rw [visible]
      have again : (run.modifyRecord index fun _ => previous).execution.Precedes
          ((run.modifyRecord index fun _ => previous).modifyRecord index
            fun _ => run.record index).execution := by
        apply modifyRecord_precedes
        rwa [before]
      exact again.trans (.of_same rfl restored.symm)
    refine .andThen leads (fun snapshot told => ?_) (proceed_forward ?_ now)
    · simp only [announceStep, Run.snapshot, List.mem_cons, List.not_mem_nil, or_false,
        reduceCtorEq, Effect.publish.injEq, false_or] at told
      rw [told]
      exact ⟨leads, .refl run.execution⟩
    · exact running
  | error error =>
    have undone : (run.modifyRecord index fun _ => previous).execution.status = .running := running
    rw [visible]
    exact halted_forward undone _ now

theorem settling_forward (running : run.execution.status = .running) (now : Moment)
    (outcome : Except StoreError Unit) (index : Nat) (released : Bool) (halt : Option Halt) :
    (run.afterSave now outcome (.settling index released halt)).Forward run.execution := by
  have same := run.checkSave_execution "saving step" outcome
  have unseen := run.checkSave_unseen "saving step" outcome
  simp only [afterSave]
  refine unseen.andThen (.of_same (by rw [same]) (by rw [same])) ?_
  rw [← same] at running
  generalize (run.checkSave "saving step" outcome).run = checked at running ⊢
  split
  · have calm := @releaseSuccessors_calm (fun _ => True) checked index
    exact (settled_forward (calm.status.trans running) now halt).after
      (checked.releaseSuccessors_precedes index)
  · split
    · have calm := @skipFrom_calm (fun _ => True) now checked.plan.edgeCount checked
        (checked.successors index)
      exact (tellSkipped_forward (calm.status.trans running) now halt _).after
        (skipFrom_precedes now _ checked _)
    · exact settled_forward running now halt

theorem closeDown_forward (ending : Ending) (outcome : Except StoreError Unit)
    (verdict : run.shown = Run.verdict run.halted) (errand : run.errand? = some (.closing ending)) :
    (run.closeDown ending outcome).Forward run.visible := by
  have ended := closeDown_terminal verdict ending outcome
  have leads : run.visible.Precedes (run.closeDown ending outcome).run.execution := by
    simp only [visible, errand]
    refine ⟨.single (.ends ended), ?_⟩
    have steps : (run.closeDown ending outcome).run.execution.steps = run.execution.steps := by
      cases outcome <;> rfl
    rw [steps]
    exact (Execution.Precedes.refl run.execution).steps
  refine ⟨leads, fun snapshot told => ?_⟩
  have last : snapshot = (run.closeDown ending outcome).run.execution := by
    simpa [closeDown, Run.snapshot, announceExecution] using told
  rw [last]
  exact ⟨leads, .refl _⟩

/-- What follows a save moves forward. -/
theorem afterSave_forward {errand : Errand} {failures : UInt32} (opened : run.Open)
    (phase : run.phase = .saving errand failures) (valid : run.AtErrand launched reports errand)
    (now : Moment) (outcome : Except StoreError Unit) :
    (run.afterSave now outcome errand).Forward run.visible := by
  have own : run.errand? = some errand := by simp only [errand?, phase]
  have running := opened.running phase
  cases errand with
  | opening =>
    simp only [visible, own]
    exact opened_forward (running (by simp)) valid.1 now outcome
  | dispatching index previous => exact dispatched_forward (running (by simp)) own valid now outcome
  | settling index released halt =>
    simp only [visible, own]
    exact settling_forward (running (by simp)) now outcome index released halt
  | skipping index rest halt =>
    have same := run.checkSave_execution "saving step" outcome
    simp only [visible, own, afterSave]
    refine (run.checkSave_unseen "saving step" outcome).andThen
      (.of_same (by rw [same]) (by rw [same])) (tellSkipped_forward ?_ now halt rest)
    rw [same]
    exact running (by simp)
  | sweeping ending index rest =>
    simp only [visible, own]
    exact sweep_forward (running (by simp))
      (fun other member => (valid.2.unsettled other member).2) ending
  | closing ending =>
    simp only [Open, phase] at opened
    exact closeDown_forward ending outcome opened own

/-- The result of a step that runs settles it. -/
theorem concluded_next (step : PlanStep) (record : StepRecord) (result : StepResult) :
    StepStatus.Next .running (concluded step record result).1.status := by
  unfold concluded
  split
  · exact .succeeds
  · dsimp only
    split <;> exact .fails
  · exact .fails
  · exact .cancels rfl

theorem settle_forward (live : run.Live ⟨launched, reports, reports, none, none⟩)
    {report : StepReport} (flies : report.index ∈ run.inFlight) (now : Moment) :
    (run.settle now report).Forward run.execution := by
  have running := live.launchedRunning _ (live.flightLaunched _ flies)
    (live.flightUnreported _ flies)
  have found := List.getElem?_eq_getElem (live.launchedInside _ (live.flightLaunched _ flies))
  simp only [settle, found]
  refine (stepSettled_unseen _ _ _).forward (modifyRecord_precedes ?_)
  refine .of_unsettled (concluded_calm _ _ report.result).1 ?_ ?_
  · rw [running]
    exact .single (concluded_next _ _ report.result)
  · show (run.record report.index).status.isSettled = false
    rw [running]
    rfl

/-- Every answer to a valid run takes it forward. -/
theorem advance_forward (opened : run.Open) (valid : run.Valid launched reports) (now : Moment)
    {input : Input} (flies : ∀ report, input = .reported report →
      run.phase = .waiting ∧ report.index ∈ run.inFlight) :
    (run.advance now input).Forward run.visible := by
  have takes := run.advance_takes now input
  generalize run.advance now input = turn at takes ⊢
  have waits (phase : run.phase = .waiting) :
      run.visible = run.execution ∧ run.execution.status = .running := by
    simp only [Open, phase] at opened
    exact ⟨by simp only [visible, errand?, phase], opened⟩
  cases takes with
  | opened phase =>
    simp only [Open, phase] at opened
    refine Turn.Unseen.forward (by simp [Turn.Unseen, start]) ⟨?_, ?_⟩
    · simp only [visible, errand?, phase, start, save, opened]
      exact .single .opens
    · simp only [visible, errand?, phase, start, save]
      exact (Execution.Precedes.refl run.execution).steps
  | @saved errand failures outcome phase =>
    simp only [Valid, phase] at valid
    cases outcome with
    | ok => exact afterSave_forward opened phase valid now (.ok ())
    | error error =>
      unfold saved
      dsimp only
      split
      · exact afterSave_forward opened phase valid now (.error error)
      · refine (quiet_unseen _).forward (.of_same ?_ ?_) <;> simp only [visible, errand?, phase]
  | @rested errand failures phase =>
    refine (quiet_unseen _).forward (.of_same ?_ ?_) <;> simp only [visible, errand?, phase]
  | @reported report phase =>
    simp only [Valid, phase] at valid
    rw [(waits phase).1]
    exact settle_forward valid (flies report rfl).2 now
  | @lost index detail phase =>
    rw [(waits phase).1]
    have running : ({ run with inFlight := run.inFlight.erase index } : Run).execution.status =
        .running := (waits phase).2
    exact halted_forward running _ now
  | cancelled phase =>
    rw [(waits phase).1]
    exact halted_forward (waits phase).2 _ now
  | expired phase =>
    rw [(waits phase).1]
    exact halted_forward (waits phase).2 _ now
  | idle => exact (quiet_unseen run).forward (.refl run.visible)

end

end Run

namespace Job

section

variable {executor : Executor} {plan : Plan} {infraRetry : RetryPolicy} {timeoutMs : Nat}
  {id tenantId : Uuid} {triggerInput : Json} {past : List Occurrence} {job : Job}

/-- A job shows what it has shown before or what the turn has published. -/
theorem takeTurn_snapshot (job : Job) (turn : Turn) :
    (job.takeTurn turn).1.snapshot = job.snapshot ∨
      .publish (job.takeTurn turn).1.snapshot ∈ turn.effects := by
  have last : (job.takeTurn turn).1.snapshot =
      (turn.effects.filterMap Effect.snapshot?).getLast?.getD job.snapshot :=
    foldl_absorb_snapshot _ turn.effects
  cases told : (turn.effects.filterMap Effect.snapshot?).getLast? with
  | none =>
    rw [told, Option.getD_none] at last
    exact .inl last
  | some snapshot =>
    rw [told, Option.getD_some] at last
    obtain ⟨effect, member, shows⟩ := List.mem_filterMap.mp (List.mem_of_getLast? told)
    cases effect with
    | publish other =>
      cases shows
      exact .inr (last ▸ member)
    | _ => cases shows

/-- What a job shows moves forward, and stays behind what may be told next. -/
theorem Sound.forward {start : Job} (sound : Sound start past job) (opened : job.run.Open)
    (seen : job.snapshot.Precedes job.run.visible) (now : Moment) (input : Input) :
    job.snapshot.Precedes (job.advance now input).1.snapshot ∧
      (job.advance now input).1.snapshot.Precedes (job.advance now input).1.run.visible := by
  cases answered : job.answer? now input with
  | none =>
    rw [advance_unanswered answered]
    exact ⟨.refl job.snapshot, seen⟩
  | some answer =>
    have forward := Run.advance_forward opened sound.valid now (sound.flies answered)
    rw [advance_answered answered, (takeTurn_rest ..).1]
    rcases takeTurn_snapshot (job.relieved input) (job.run.advance now answer) with same | told
    · rw [same, (relieved_rest job input).1]
      exact ⟨.refl job.snapshot, seen.trans forward.leads⟩
    · obtain ⟨before, after⟩ := forward.shown _ told
      exact ⟨seen.trans before, after⟩

/-- All along a course others see nothing that the run has not come to. -/
theorem Course.seen (wellFormed : plan.WellFormed)
    (course : Course (prepare executor plan infraRetry timeoutMs
      (.pending plan id tenantId triggerInput)) past job) :
    job.snapshot.Precedes job.run.visible := by
  induction course with
  | start => exact .refl _
  | @next past job course now input inductionHypothesis =>
    rcases course.holds_or_done with holds | done
    · exact ((course.sound wellFormed).forward holds.opened inductionHypothesis now input).2
    · rw [(done.next now input).2.1, run_after_closed done.closed]
      exact inductionHypothesis

/-- Whatever happens to a job, what it shows before leads to what it shows after. -/
theorem Course.leads_next (wellFormed : plan.WellFormed)
    (course : Course (prepare executor plan infraRetry timeoutMs
      (.pending plan id tenantId triggerInput)) past job) (now : Moment) (input : Input) :
    job.snapshot.LeadsTo (job.advance now input).1.snapshot := by
  rcases course.holds_or_done with holds | done
  · have forward := (course.sound wellFormed).forward holds.opened (course.seen wellFormed)
    refine ⟨(forward now input).1, fun ended => ?_⟩
    simp [holds.unended] at ended
  · rw [(done.next now input).2.1]

end

end Job

end WorkflowEngine
