/-
This file proves what the observers are told in a turn of a run: that the execution runs, that a step
is launched or has settled, or how the execution has ended. The settled steps that a turn tells of
are those of which nobody has been told before.
-/

import WorkflowEngine.Proofs.Execution.Routes

namespace WorkflowEngine

def Effect.event? : Effect → Option Event
  | .announce event => some event
  | _ => none

def Effect.metric? : Effect → Option Metric
  | .measure metric => some metric
  | _ => none

/-- Only notices announce events. -/
theorem filterMap_event (effects : List Effect) :
    effects.filterMap Effect.event? = (effects.filter Effect.isNotice).filterMap Effect.event? := by
  rw [List.filterMap_filter]
  congr 1
  funext effect
  cases effect <;> rfl

/-- Only notices report measurements. -/
theorem filterMap_metric (effects : List Effect) :
    effects.filterMap Effect.metric? =
      (effects.filter Effect.isNotice).filterMap Effect.metric? := by
  rw [List.filterMap_filter]
  congr 1
  funext effect
  cases effect <;> rfl

def settledEvents (steps : List StepEvent) : List StepEvent :=
  steps.filter fun event => event.status.isSettled

def eventsOf (steps : List StepEvent) (nodeId : String) : List StepEvent :=
  steps.filter fun event => event.nodeId == nodeId

namespace Run

def stepEvent (run : Run) (index : Nat) : StepEvent :=
  ⟨run.execution.id, run.execution.tenantId, (run.record index).nodeId, (run.record index).status,
    (run.record index).attempt⟩

def executionEvent (run : Run) (status : ExecutionStatus) : Event :=
  .execution ⟨run.execution.id, run.execution.tenantId, run.execution.workflowId, status⟩

/-- A heralded run has been opened, and others have been told so. -/
def Heralded (run : Run) : Prop :=
  run.phase ≠ .unopened ∧ run.errand? ≠ some .opening

instance (run : Run) : Decidable run.Heralded :=
  inferInstanceAs (Decidable (_ ∧ _))

/-- The given steps have settled in a turn, and others are told of them. -/
structure Reveals (run after : Run) (settled : List Nat) : Prop where
  distinct : settled.Nodup
  fresh : ∀ index ∈ settled, ¬run.Told index
  told : ∀ index, after.Told index ↔ run.Told index ∨ index ∈ settled

/-- The notices tell of the opening, of launched and settled steps, or of the end. -/
inductive Notifies (run : Run) (now : Moment) (input : Input) (turn : Turn) : Prop where
  | stays {phase : Phase} (quiet : run.launching input = []) (stays : run.Stays phase)
    (turned : turn = ⟨{ run with phase := phase }, []⟩)
  | opens (quiet : run.launching input = []) (phase : run.phase = .unopened)
    (turned : turn = run.start now)
  | tells (settled : List Nat) (opened : run.phase ≠ .unopened ∧ run.phase ≠ .closed)
    (heralded : turn.run.Heralded) (unclosed : turn.run.phase ≠ .closed)
    (notices : turn.effects.filter Effect.isNotice =
      run.heralds input ++ settled.flatMap turn.run.stepSettled)
    (reveals : run.Reveals turn.run settled)
  | closes {ending : Ending} {outcome : Except StoreError Unit} (quiet : run.launching input = [])
    (errand : run.errand? = some (.closing ending)) (turned : turn = run.closeDown ending outcome)

section

variable {run : Run} {launched : List Nat} {reports : List StepReport}

/-- A turn that leaves what others have been told of settles none. -/
theorem reveals_none {after : Run} (same : ∀ index, after.Told index ↔ run.Told index) :
    run.Reveals after [] := by
  refine ⟨List.nodup_nil, by simp, fun index => ?_⟩
  simp [same]

/-- A record that is written as settled is the only one that settles. -/
theorem reveals_one {after : Run} {index : Nat} (fresh : ¬run.Told index)
    (written : after.Settled index) (others : ∀ other, other ≠ index →
      (after.Settled other ↔ run.Told other)) (untold : after.untold = []) :
    run.Reveals after [index] := by
  refine ⟨List.nodup_singleton index, by simpa using fresh, fun other => ?_⟩
  rw [told_iff untold, List.mem_singleton]
  by_cases same : other = index
  · subst same
    exact iff_of_true written (.inr rfl)
  · rw [others other same]
    simp [same]

/-- A sweep tells of the next step that it cancels. -/
theorem sweep_reveals {mid : Run} {ending : Ending} {rest : List Nat}
    (told : ∀ index, mid.Settled index ↔ run.Told index)
    (unsettled : ∀ index ∈ rest, index < mid.execution.steps.length ∧ ¬mid.Settled index) :
    ∃ settled,
      (mid.sweep ending rest).effects = settled.flatMap (mid.sweep ending rest).run.stepSettled ∧
        run.Reveals (mid.sweep ending rest).run settled := by
  cases rest with
  | nil => exact ⟨[], rfl, reveals_none fun index => (told_iff rfl index).trans (told index)⟩
  | cons index rest =>
    obtain ⟨inside, fresh⟩ := unsettled index List.mem_cons_self
    have record := record_modifyRecord inside fun record =>
      { record with status := .cancelled, finishedAt := some ending.finishedAt }
    have swept (other : Nat) : ((mid.sweep ending (index :: rest)).run.record other).status =
        if other = index then .cancelled else (mid.record other).status := by
      refine (congrArg StepRecord.status (record other)).trans ?_
      split <;> rfl
    refine ⟨[index], (List.append_nil _).symm, reveals_one (mt (told index).mpr fresh) ?_ ?_ rfl⟩
    · simp [Settled, swept, StepStatus.isSettled]
    · intro other different
      rw [← told]
      simp [Settled, swept, different]

theorem sweep_heralded (run : Run) (ending : Ending) (rest : List Nat) :
    (run.sweep ending rest).run.Heralded ∧ (run.sweep ending rest).run.phase ≠ .closed := by
  cases rest <;> simp [Heralded, sweep, close, save, errand?]

/-- What a report leaves in the record of its step is settled. -/
theorem concluded_settled (step : PlanStep) (record : StepRecord) (result : StepResult) :
    (concluded step record result).1.status.isSettled = true := by
  unfold concluded
  split
  · rfl
  · dsimp only
    split <;> rfl
  · rfl
  · rfl

/-- A run that goes on tells of at most one step on its way: the first one of a sweep. -/
theorem Proceeds.reveals {mid : Run} {now : Moment} {turn : Turn} (goes : mid.Proceeds now turn)
    (live : mid.Live ⟨launched, reports, reports, none, none⟩)
    (told : ∀ index, mid.Settled index ↔ run.Told index) :
    ∃ settled, turn.effects = settled.flatMap turn.run.stepSettled ∧
      run.Reveals turn.run settled ∧ turn.run.Heralded ∧ turn.run.phase ≠ .closed := by
  cases goes with
  | @dispatch index rest unhalted ready =>
    have status := live.readyStatus index (by simp [ready])
    have bound := live.readyInside index (by simp [ready])
    have record := @record_modifyRecord { mid with ready := rest } index (live.recordCount ▸ bound)
      fun record => { record with status := .running, startedAt := some now.wall }
    have begun (other : Nat) : ((mid.dispatch now index rest).run.record other).status =
        if other = index then .running else (mid.record other).status := by
      refine (congrArg StepRecord.status (record other)).trans ?_
      split <;> rfl
    refine ⟨[], rfl, reveals_none fun other => (told_iff rfl other).trans ?_, ?_, ?_⟩
    · rw [← told, Settled, Settled, begun]
      split
      · next same => simp [same, status, StepStatus.isSettled]
      · rfl
    · simp [Heralded, Run.dispatch, save, errand?]
    · simp [Run.dispatch, save]
  | finish =>
    obtain ⟨heralded, unclosed⟩ :=
      sweep_heralded mid ⟨now.wall, now.ticks - mid.openedAt⟩ mid.unsettled
    have unsettled : ∀ index ∈ mid.unsettled, index < mid.execution.steps.length ∧
        ¬mid.Settled index := by
      intro index member
      simpa [Run.unsettled, Settled] using member
    obtain ⟨settled, effects, reveals⟩ := sweep_reveals told unsettled
    exact ⟨settled, effects, reveals, heralded, unclosed⟩
  | wait =>
    refine ⟨[], rfl, reveals_none fun other => (told_iff rfl other).trans (told other), ?_, ?_⟩
    · simp [Heralded, errand?]
    · simp

/-- What a turn leaves told and untold is said by its notices. -/
theorem Route.notifies {now : Moment} {input : Input} {turn : Turn}
    (room : 1 ≤ run.plan.maxConcurrency) (route : run.Route now launched reports input turn) :
    run.Notifies now input turn := by
  cases route with
  | start phase => exact .opens (by simp [launching, phase]) phase rfl
  | stay quiet stays => exact .stays quiet stays rfl
  | @settle report phase live flies =>
    have bound := live.launchedInside _ (live.flightLaunched _ flies)
    have found := List.getElem?_eq_getElem bound
    have errand : run.errand? = none := by simp [errand?, phase]
    have told (index : Nat) : run.Told index ↔ run.Settled index :=
      told_iff (by simp [untold, errand]) index
    have running := live.launchedRunning _ (live.flightLaunched _ flies)
      (live.flightUnreported _ flies)
    have final := concluded_settled run.plan.steps[report.index]
      { run.record report.index with attempt := report.attempts, finishedAt := some now.wall }
      report.result
    simp only [Run.settle, found]
    generalize concluded run.plan.steps[report.index] { run.record report.index with
      attempt := report.attempts, finishedAt := some now.wall } report.result = conclusion at *
    have record := @record_modifyRecord { run with inFlight := run.inFlight.erase report.index }
      report.index (live.recordCount ▸ bound) (fun _ => conclusion.1)
    refine .tells [report.index] (by simp [phase]) ?_ (by simp [save]) ?_ (reveals_one ?_ ?_ ?_ rfl)
    · simp [Heralded, save, errand?]
    · simp only [heralds, errand, reduceCtorEq, if_false, launching, phase, List.map_nil,
        List.nil_append]
      rfl
    · simp [told, Settled, running, StepStatus.isSettled]
    · refine (congrArg (fun record => record.status.isSettled) (record report.index)).trans ?_
      rw [if_pos rfl]
      exact final
    · intro other different
      rw [told]
      have same := congrArg (fun record => record.status.isSettled) (record other)
      rw [if_neg different] at same
      exact iff_of_eq (congrArg (fun settled => settled = true) same)
  | @skip _ between index rest halt amid passes silent tells =>
    refine .tells [index] ⟨amid.opened, amid.unclosed⟩ ?_ ?_ ?_ ⟨List.nodup_singleton index, ?_, ?_⟩
    · simp [Heralded, Turn.andThen, save, errand?]
    · simp [Turn.andThen, save]
    · simp only [Turn.andThen, List.filter_append, silent, heralds, amid.entered, if_false,
        amid.quiet, List.map_nil]
      rfl
    · simpa using tells.fresh
    · intro other
      rw [List.mem_singleton]
      exact tells.told other
  | @sweep _ ending index rest quiet errand ended sweeps =>
    have told (index : Nat) : run.Told index ↔ run.Settled index :=
      told_iff (by simp [untold, errand]) index
    obtain ⟨settled, effects, reveals⟩ := @sweep_reveals run run ending rest
      (fun index => (told index).symm) fun index member => by
        obtain ⟨inside, unsettled⟩ := sweeps.unsettled index member
        exact ⟨ended.recordCount ▸ inside, by simp [Settled, unsettled]⟩
    obtain ⟨heralded, unclosed⟩ := sweep_heralded run ending rest
    refine .tells settled ?_ heralded unclosed ?_ reveals
    · unfold errand? at errand
      split at errand <;> simp_all
    · simp only [heralds, errand, quiet, Option.some.injEq, reduceCtorEq, if_false, List.map_nil,
        List.nil_append]
      rw [effects, List.filter_flatMap]
      rfl
  | close quiet errand => exact .closes quiet errand rfl
  | @proceed _ between passes heralds live settled _ opened =>
    have room : 1 ≤ between.run.plan.maxConcurrency := by rwa [passes.calm.plan]
    obtain ⟨revealed, effects, reveals, heralded, unclosed⟩ :=
      (proceed_proceeds room now).reveals live settled
    refine .tells revealed opened heralded unclosed ?_ reveals
    simp only [Turn.andThen, List.filter_append, heralds]
    congr 1
    rw [effects, List.filter_flatMap]
    rfl

end

theorem executionEvent_fixed : Fixed executionEvent :=
  { records := fun _ _ => rfl
    outcome := fun _ _ _ _ _ => rfl
    ready := fun _ _ => rfl
    halted := fun _ _ => rfl
    phase := fun _ _ => rfl
    inFlight := fun _ _ => rfl
    waitingOn := fun _ _ => rfl
    openedAt := fun _ _ => rfl }

/-- The events of the steps stand between those of the execution. -/
def story (run : Run) (steps : List StepEvent) : List Event :=
  (if run.Heralded then [run.executionEvent .running] else []) ++ steps.map Event.step ++
    if run.phase = .closed then [run.executionEvent run.execution.status] else []

/-- The measurements go with the events of a story. -/
def tally (run : Run) (steps : List StepEvent) (elapsedMs : Nat) : List Metric :=
  (if run.phase = .unopened then [] else [.executionStarted run.execution.tenantId]) ++
    (settledEvents steps).map (fun event => .stepCompleted run.execution.tenantId event.status) ++
    if run.phase = .closed then
      [.executionCompleted run.execution.tenantId run.execution.status,
        .executionDuration run.execution.tenantId elapsedMs]
    else []

/-- A turn goes on with a story if its notices are what the story says next. -/
structure Continues (run : Run) (turn : Turn) (steps next : List StepEvent) : Prop where
  unheralded : ¬turn.run.Heralded → next = []
  events : turn.run.story next = run.story steps ++ turn.effects.filterMap Effect.event?
  metrics : ∀ elapsedMs, ∃ later,
    turn.run.tally next later = run.tally steps elapsedMs ++ turn.effects.filterMap Effect.metric?

section

variable {run : Run} {now : Moment} {input : Input} {turn : Turn} {settled : List Nat}
  {steps : List StepEvent}

/-- Of the events of a turn those of the steps that it settles are final. -/
theorem Reveals.settledEvents {after : Run} (reveals : run.Reveals after settled)
    {launches : List Nat} (running : ∀ index ∈ launches, ¬run.Settled index)
    (steps : List StepEvent) :
    settledEvents (steps ++ launches.map run.stepEvent ++ settled.map after.stepEvent) =
      settledEvents steps ++ settled.map after.stepEvent := by
  have begun : WorkflowEngine.settledEvents (launches.map run.stepEvent) = [] := by
    rw [WorkflowEngine.settledEvents, List.filter_eq_nil_iff]
    intro event member
    obtain ⟨index, launched, rfl⟩ := List.mem_map.mp member
    exact running index launched
  have ended : WorkflowEngine.settledEvents (settled.map after.stepEvent) =
      settled.map after.stepEvent := by
    rw [WorkflowEngine.settledEvents, List.filter_eq_self]
    intro event member
    obtain ⟨index, final, rfl⟩ := List.mem_map.mp member
    exact ((reveals.told index).mpr (.inr final)).1
  rw [WorkflowEngine.settledEvents, List.filter_append, List.filter_append]
  exact congrArg₂ _ ((congrArg _ begun).trans (List.append_nil _)) ended

/-- A turn that changes the phase alone says nothing. -/
theorem Stays.continues {phase : Phase} (stays : run.Stays phase)
    (silent : ¬run.Heralded → steps = []) :
    run.Continues ⟨{ run with phase := phase }, []⟩ steps steps := by
  have heralded : ({ run with phase := phase } : Run).Heralded ↔ run.Heralded := by
    simp only [Heralded, stays.errand, ne_eq, stays.unopened]
  refine ⟨fun unheralded => silent (mt heralded.mpr unheralded), ?_, fun elapsedMs => ?_⟩
  · simp [story, heralded, stays.closed, executionEvent]
  · refine ⟨elapsedMs, ?_⟩
    simp [tally, stays.closed, stays.unopened]

/-- The opening of a run is measured before it is heralded. -/
theorem start_continues (phase : run.phase = .unopened) (now : Moment) :
    run.Continues (run.start now) [] [] := by
  have before : ¬run.Heralded := fun heralded => heralded.1 phase
  have after : ¬(run.start now).run.Heralded := fun heralded => heralded.2 rfl
  have saving : (run.start now).run.phase = .saving .opening 0 := rfl
  refine ⟨fun _ => rfl, ?_, fun elapsedMs => ⟨elapsedMs, ?_⟩⟩
  · simp only [story, before, after, phase, saving, if_false, reduceCtorEq]
    rfl
  · simp only [tally, phase, saving, if_true, if_false, reduceCtorEq]
    rfl

/-- The end of a run is told of last. -/
theorem closeDown_continues {ending : Ending} {outcome : Except StoreError Unit}
    (errand : run.errand? = some (.closing ending)) :
    run.Continues (run.closeDown ending outcome) steps steps := by
  have fixed := executionEvent_fixed.closeDown run ending outcome
  have tenantId := tenantId_fixed.closeDown run ending outcome
  have opened : run.phase ≠ .unopened ∧ run.phase ≠ .closed := by
    unfold errand? at errand
    split at errand <;> simp_all
  have before : run.Heralded := ⟨opened.1, by simp [errand]⟩
  have closed : (run.closeDown ending outcome).run.phase = .closed := rfl
  have after : (run.closeDown ending outcome).run.Heralded :=
    ⟨by simp [closed], by simp [errand?, closed]⟩
  refine ⟨fun unheralded => absurd after unheralded, ?_, fun _ => ⟨ending.elapsedMs, ?_⟩⟩
  · simp only [story, before, after, closed, opened.2, fixed, if_true, if_false, List.append_nil]
    rw [← fixed]
    rfl
  · simp only [tally, closed, opened, tenantId, if_true, if_false, List.append_nil, reduceCtorEq]
    rw [← tenantId]
    rfl

theorem stepSettled_events (run : Run) (settled : List Nat) :
    (settled.flatMap run.stepSettled).filterMap Effect.event? =
      (settled.map run.stepEvent).map Event.step := by
  induction settled with
  | nil => rfl
  | cons index rest inductionHypothesis =>
    rw [List.flatMap_cons, List.filterMap_append, inductionHypothesis]
    rfl

theorem stepSettled_metrics (run : Run) (settled : List Nat) :
    (settled.flatMap run.stepSettled).filterMap Effect.metric? = (settled.map run.stepEvent).map
      fun event => .stepCompleted run.execution.tenantId event.status := by
  induction settled with
  | nil => rfl
  | cons index rest inductionHypothesis =>
    rw [List.flatMap_cons, List.filterMap_append, inductionHypothesis]
    rfl

/-- What is heralded is the execution itself, or the launched steps. -/
theorem heralds_events (run : Run) (input : Input)
    (opening : run.errand? = some .opening → run.execution.status = .running) :
    (run.heralds input).filterMap Effect.event? =
      (if run.errand? = some .opening then [run.executionEvent .running] else []) ++
        ((run.launching input).map run.stepEvent).map Event.step := by
  unfold heralds
  split
  · next entering =>
    have quiet : run.launching input = [] := by
      rcases run.launching_cases input with quiet | ⟨_, one⟩
      · exact quiet
      · simp [starting, entering] at one
    rw [quiet, executionEvent, ← opening entering]
    rfl
  · rw [List.filterMap_map, List.map_map, List.nil_append, ← List.filterMap_eq_map]
    rfl

theorem heralds_unmeasured (run : Run) (input : Input) :
    (run.heralds input).filterMap Effect.metric? = [] := by
  unfold heralds
  split
  · rfl
  · simp [announceStep, Effect.metric?]

/-- Launched steps are told of before settled ones. -/
theorem heralds_continues
    (opened : run.phase ≠ .unopened ∧ run.phase ≠ .closed) (heralded : turn.run.Heralded)
    (unclosed : turn.run.phase ≠ .closed)
    (notices : turn.effects.filter Effect.isNotice =
      run.heralds input ++ settled.flatMap turn.run.stepSettled)
    (reveals : run.Reveals turn.run settled)
    (opening : run.errand? = some .opening → run.execution.status = .running)
    (fixed : turn.run.executionEvent = run.executionEvent)
    (tenantId : turn.run.execution.tenantId = run.execution.tenantId)
    (running : ∀ index ∈ run.launching input, ¬run.Settled index)
    (silent : ¬run.Heralded → steps = []) :
    run.Continues turn steps
      (steps ++ (run.launching input).map run.stepEvent ++ settled.map turn.run.stepEvent) := by
  have shown : turn.effects.filterMap Effect.event? = (run.heralds input).filterMap Effect.event? ++
      (settled.map turn.run.stepEvent).map Event.step := by
    rw [filterMap_event, notices, List.filterMap_append, stepSettled_events]
  have measured : turn.effects.filterMap Effect.metric? = (settled.map turn.run.stepEvent).map
      fun event => .stepCompleted run.execution.tenantId event.status := by
    rw [filterMap_metric, notices, List.filterMap_append, heralds_unmeasured, stepSettled_metrics,
      tenantId]
    rfl
  refine ⟨fun unheralded => absurd heralded unheralded, ?_, fun elapsedMs => ⟨elapsedMs, ?_⟩⟩
  · simp only [story, heralded, unclosed, opened.2, fixed, shown, heralds_events run input opening,
      if_true, if_false, List.append_nil, List.map_append, List.append_assoc]
    by_cases before : run.Heralded
    · simp [before, before.2]
    · have entering : run.errand? = some .opening := by
        by_contra entered
        exact before ⟨opened.1, entered⟩
      simp [before, entering, silent before]
  · have started : turn.run.phase ≠ .unopened := heralded.1
    rw [measured, tally, reveals.settledEvents running]
    simp only [tally, started, opened, unclosed, if_false, tenantId, List.map_append,
      List.append_nil, List.append_assoc]

/-- Every turn tells of the steps that it launches, then of those that it settles. -/
theorem Notifies.continues (notifies : run.Notifies now input turn)
    (opening : run.errand? = some .opening → run.execution.status = .running)
    (fixed : turn.run.executionEvent = run.executionEvent)
    (tenantId : turn.run.execution.tenantId = run.execution.tenantId)
    (running : ∀ index ∈ run.launching input, ¬run.Settled index)
    (silent : ¬run.Heralded → steps = []) :
    ∃ settled, run.Reveals turn.run settled ∧ run.Continues turn steps
      (steps ++ (run.launching input).map run.stepEvent ++ settled.map turn.run.stepEvent) := by
  cases notifies with
  | stays quiet stays turned =>
    subst turned
    refine ⟨[], reveals_none fun index => ?_, ?_⟩
    · simp only [Told, Settled, record, untold, stays.errand]
    · simpa [quiet] using stays.continues silent
  | opens quiet phase turned =>
    subst turned
    have empty : steps = [] := silent fun heralded => heralded.1 phase
    subst empty
    refine ⟨[], reveals_none fun index => ?_, ?_⟩
    · have errand : run.errand? = none := by simp [errand?, phase]
      have after : (run.start now).run.errand? = some .opening := rfl
      simp only [Told, untold, errand, after]
      exact Iff.rfl
    · simpa [quiet] using start_continues phase now
  | tells settled opened heralded unclosed notices reveals =>
    exact ⟨settled, reveals, heralds_continues opened heralded unclosed notices reveals opening
      fixed tenantId running silent⟩
  | @closes ending outcome quiet errand turned =>
    subst turned
    refine ⟨[], reveals_none fun index => ?_, ?_⟩
    · have after : (run.closeDown ending outcome).run.errand? = none := rfl
      have record : (run.closeDown ending outcome).run.record index = run.record index := by
        cases outcome <;> rfl
      simp only [Told, Settled, record, untold, errand, after]
    · simpa [quiet] using closeDown_continues errand

end

end Run

end WorkflowEngine
