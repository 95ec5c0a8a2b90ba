/-
This file proves that the moves of a run keep it live: it opens, halts, starts a step, takes over
what a step reports, and comes to its end.
-/

import WorkflowEngine.Proofs.Execution.Skip

namespace WorkflowEngine

namespace Plan

def haltOf (plan : Plan) (report : StepReport) : Option Halt :=
  match report.result with
  | .succeeded _ => none
  | .failed message =>
    if plan.tolerates report.index then none
    else some (.failed (.stepFailed
      (((plan.steps[report.index]?).map PlanStep.nodeId).getD "") message))
  | .unavailable message => some (.failed (.infrastructureError message))
  | .interrupted => some .cancelled

/-- A report causes no halt exactly if it releases. -/
theorem haltOf_eq_none (plan : Plan) (report : StepReport) :
    plan.haltOf report = none ↔ plan.releases report = true := by
  unfold haltOf Plan.releases
  cases report.result <;> simp

end Plan

namespace Run

/-- A run that differs in nothing that the records and the plan show stays coherent. -/
theorem Coherent.congr {before after : Run} {ledger : Ledger} (coherent : before.Coherent ledger)
    (plan : after.plan = before.plan) (steps : after.execution.steps = before.execution.steps)
    (starting : Option Nat) (pending : Option Halt) :
    after.Coherent { ledger with starting := starting, pending := pending } := by
  have record (index : Nat) : after.record index = before.record index := by
    simp only [Run.record, steps]
  refine coherent.restatus plan (by rw [steps]) rfl rfl coherent.spreadReported
    (fun index => Or.inl (record index)) ?_ ?_
  · intro index step found started
    exact coherent.enabled found (record index ▸ started)
  · intro index
    rw [record]
    exact coherent.skippedIff index

/-- A live run forgets ready steps and steps in flight only when it halts. -/
theorem Live.congr {before after : Run} {ledger : Ledger} (live : before.Live ledger)
    {starting : Option Nat} {pending : Option Halt} (plan : after.plan = before.plan)
    (steps : after.execution.steps = before.execution.steps)
    (waitingOn : after.waitingOn = before.waitingOn)
    (ready : after.ready.Sublist before.ready) (inFlight : after.inFlight.Sublist before.inFlight)
    (calm : after.halted = none → before.halted = none ∧ after.ready = before.ready ∧
      after.inFlight = before.inFlight ∧ starting = ledger.starting ∧ pending = ledger.pending) :
    after.Live { ledger with starting := starting, pending := pending } := by
  have record (index : Nat) : after.record index = before.record index := by
    simp only [Run.record, steps]
  refine { live.toCoherent.congr plan steps starting pending with
    waiting := by rw [plan, waitingOn]; exact live.waiting
    flightDistinct := live.flightDistinct.sublist inFlight
    flightLaunched := fun index member => live.flightLaunched index (inFlight.subset member)
    flightUnreported := fun index member => live.flightUnreported index (inFlight.subset member)
    launchedRunning := ?_
    cancelledReported := ?_
    readyInside := by
      rw [plan]
      exact fun index member => live.readyInside index (ready.subset member)
    readyStatus := ?_
    readySorted := live.readySorted.sublist ready
    readyListed := ?_
    runningFlies := ?_
    pendingAwaits := ?_
    undisturbed := ?_ }
  · intro index launched fresh
    rw [record]
    exact live.launchedRunning index launched fresh
  · intro index
    rw [record]
    exact live.cancelledReported index
  · intro index member
    rw [record]
    exact live.readyStatus index (ready.subset member)
  · intro unhalted index
    obtain ⟨earlier, sameReady, _⟩ := calm unhalted
    rw [record, sameReady]
    exact live.readyListed earlier index
  · intro unhalted index
    obtain ⟨earlier, _, sameFlight, sameStart, _⟩ := calm unhalted
    rw [record, sameFlight, sameStart]
    exact live.runningFlies earlier index
  · intro unhalted index step
    rw [record, plan]
    exact live.pendingAwaits (calm unhalted).1
  · intro unhalted
    obtain ⟨earlier, _, _, _, samePending⟩ := calm unhalted
    rw [plan, samePending]
    exact live.undisturbed earlier

/-- Once the run has halted it does not matter which halt is pending. -/
theorem Live.halt {run : Run} {ledger : Ledger} (live : run.Live ledger) (halt : Halt)
    (pending : Option Halt) : (run.halt halt).run.Live { ledger with pending := pending } := by
  unfold Run.halt
  split
  · next earlier halted =>
    exact live.congr rfl rfl rfl (List.Sublist.refl _) (List.Sublist.refl _)
      (fun unhalted => by simp [halted] at unhalted)
  · exact live.congr rfl rfl rfl (List.Sublist.refl _) (List.Sublist.refl _)
      (fun unhalted => by cases unhalted)

theorem halt_unhalted {run : Run} (unhalted : run.halted = none) (halt : Halt) :
    run.halt halt = ⟨{ run with halted := some halt }, [.interrupt]⟩ := by
  simp only [Run.halt, unhalted]

theorem halt_halted (run : Run) (halt : Halt) : (run.halt halt).run.halted ≠ none := by
  unfold Run.halt
  split
  · next halted => simp [halted]
  · simp

@[simp] theorem halt_plan (run : Run) (halt : Halt) : (run.halt halt).run.plan = run.plan := by
  unfold Run.halt
  split <;> rfl

/-- A record may change as long as it shows no result and is not skipped. -/
theorem Coherent.redraw {before after : Run} {ledger : Ledger} (coherent : before.Coherent ledger)
    {index : Nat} {starting : Option Nat} {pending : Option Halt}
    (plan : after.plan = before.plan)
    (count : after.execution.steps.length = before.execution.steps.length)
    (others : ∀ other, other ≠ index → after.record other = before.record other)
    (begun : (before.record index).status = .ready ∨ (before.record index).status = .running)
    (unresolved : (after.record index).Unresolved)
    (unskipped : (after.record index).status ≠ .skipped) :
    after.Coherent { ledger with starting := starting, pending := pending } := by
  have unreported : index ∉ ledger.reported := coherent.unreported (by tauto)
  refine coherent.restatus plan count rfl rfl coherent.spreadReported ?_ ?_ ?_
  · intro other
    by_cases same : other = index
    · subst same
      exact Or.inr ⟨unreported, unresolved⟩
    · exact Or.inl (others other same)
  · intro other step found started
    by_cases same : other = index
    · subst same
      exact coherent.enabled found (by tauto)
    · rw [others other same] at started
      exact coherent.enabled found started
  · intro other
    rw [← coherent.skippedIff]
    by_cases same : other = index
    · subst same
      have earlier : (before.record other).status ≠ .skipped := by
        rcases begun with ready | running <;> simp [*]
      exact iff_of_false unskipped earlier
    · rw [others other same]

/-- The least of the ready steps starts, and runs before it is in flight. -/
theorem Live.dispatch {run : Run} {ledger : Ledger} (live : run.Live ledger) (now : Moment)
    {index : Nat} {rest : List Nat} (ready : run.ready = index :: rest)
    (idle : ledger.starting = none) :
    (run.dispatch now index rest).run.Live { ledger with starting := some index } := by
  have member : index ∈ run.ready := by simp [ready]
  have bound := live.readyInside index member
  have status := live.readyStatus index member
  have fresh := live.unreported (Or.inr (Or.inl status))
  have unlaunched := live.unlaunched (Or.inr (Or.inl status))
  have sorted := live.readySorted
  rw [ready] at sorted
  obtain ⟨least, tail⟩ := List.pairwise_cons.mp sorted
  have record (other : Nat) : (run.dispatch now index rest).run.record other =
      if other = index then
        { run.record index with status := .running, startedAt := some now.wall }
      else run.record other :=
    @record_modifyRecord { run with ready := rest } index
      (live.recordCount ▸ bound)
      (fun record => { record with status := .running, startedAt := some now.wall }) other
  have started : ((run.dispatch now index rest).run.record index).status = .running := by
    simp [record]
  have others {other : Nat} (different : other ≠ index) :
      (run.dispatch now index rest).run.record other = run.record other := by
    rw [record, if_neg different]
  have blank := (live.unresolved index fresh).1
  have unresolved : ((run.dispatch now index rest).run.record index).Unresolved := by
    rw [record, if_pos rfl]
    exact ⟨blank, by simp, by simp⟩
  have coherent : (run.dispatch now index rest).run.Coherent
      { ledger with starting := some index } :=
    live.toCoherent.redraw rfl (modifyRecord_count _ _ _) (fun _ => others) (Or.inl status)
      unresolved (by simp [started])
  refine { coherent with
    waiting := live.waiting
    flightDistinct := live.flightDistinct
    flightLaunched := live.flightLaunched
    flightUnreported := live.flightUnreported
    launchedRunning := ?_
    cancelledReported := ?_
    readyInside := ?_
    readyStatus := ?_
    readySorted := tail
    readyListed := ?_
    runningFlies := ?_
    pendingAwaits := ?_
    undisturbed := live.undisturbed }
  · intro other launched unreported
    rw [others fun same => unlaunched (same ▸ launched)]
    exact live.launchedRunning other launched unreported
  · intro other cancelled
    by_cases same : other = index
    · subst same
      simp [started] at cancelled
    · exact live.cancelledReported other (others same ▸ cancelled)
  · intro other inRest
    exact live.readyInside other (by rw [ready]; exact List.mem_cons_of_mem _ inRest)
  · intro other inRest
    rw [others (Nat.ne_of_gt (least other inRest))]
    exact live.readyStatus other (by rw [ready]; exact List.mem_cons_of_mem _ inRest)
  · intro unhalted other waits
    have different : other ≠ index := by
      rintro rfl
      simp [started] at waits
    have listed := live.readyListed unhalted other (others different ▸ waits)
    rw [ready] at listed
    exact (List.mem_cons.mp listed).resolve_left different
  · intro unhalted other running
    by_cases same : other = index
    · exact Or.inr (by rw [same])
    · have flies := live.runningFlies unhalted other (others same ▸ running)
      simp only [idle, reduceCtorEq, or_false] at flies
      exact Or.inl flies
  · intro unhalted other step found pending
    have different : other ≠ index := by
      rintro rfl
      simp [started] at pending
    exact live.pendingAwaits unhalted found (others different ▸ pending)

theorem Live.launch_coherent {run : Run} {ledger : Ledger} (live : run.Live ledger) {index : Nat}
    (bound : index < run.plan.steps.length) (running : (run.record index).status = .running)
    (unlaunched : index ∉ ledger.launched) :
    run.Coherent { ledger with launched := ledger.launched ++ [index], starting := none } :=
  { live.toCoherent with
    launchedDistinct := List.concat_eq_append ▸ live.launchedDistinct.concat unlaunched
    launchedInside := by
      intro other member
      rcases List.mem_append.mp member with old | new
      · exact live.launchedInside other old
      · rwa [List.mem_singleton.mp new]
    reportedLaunched := fun other member =>
      List.mem_append_left _ (live.reportedLaunched other member)
    enabled := by
      intro other step found started
      rcases started with ready | runs | member
      · exact live.enabled found (Or.inl ready)
      · exact live.enabled found (Or.inr (Or.inl runs))
      · rcases List.mem_append.mp member with old | new
        · exact live.enabled found (Or.inr (Or.inr old))
        · rw [List.mem_singleton.mp new] at found
          exact live.enabled found (Or.inr (Or.inl running)) }

/-- A step whose start was saved is launched and flies. -/
theorem Live.launch {run : Run} {ledger : Ledger} (live : run.Live ledger) {index : Nat}
    (starting : ledger.starting = some index) (bound : index < run.plan.steps.length)
    (running : (run.record index).status = .running) (unlaunched : index ∉ ledger.launched) :
    ({ run with inFlight := run.inFlight ++ [index] } : Run).Live
      { ledger with launched := ledger.launched ++ [index], starting := none } := by
  have unreported : index ∉ ledger.reported := mt (live.reportedLaunched index) unlaunched
  have landed : index ∉ run.inFlight := mt (live.flightLaunched index) unlaunched
  have coherent := live.launch_coherent bound running unlaunched
  exact { coherent.congr rfl rfl none ledger.pending with
          waiting := live.waiting
          flightDistinct := List.concat_eq_append ▸ live.flightDistinct.concat landed
          flightLaunched := by
            intro other member
            rcases List.mem_append.mp member with old | new
            · exact List.mem_append_left _ (live.flightLaunched other old)
            · exact List.mem_append_right _ new
          flightUnreported := by
            intro other member
            rcases List.mem_append.mp member with old | new
            · exact live.flightUnreported other old
            · rwa [List.mem_singleton.mp new]
          launchedRunning := by
            intro other member fresh
            rcases List.mem_append.mp member with old | new
            · exact live.launchedRunning other old fresh
            · rw [List.mem_singleton.mp new]
              exact running
          cancelledReported := live.cancelledReported
          readyInside := live.readyInside
          readyStatus := live.readyStatus
          readySorted := live.readySorted
          readyListed := live.readyListed
          runningFlies := by
            intro unhalted other runs
            rcases live.runningFlies unhalted other runs with flies | starts
            · exact Or.inl (List.mem_append_left _ flies)
            · rw [starting] at starts
              exact Or.inl (List.mem_append_right _ (by simpa using (Option.some.inj starts).symm))
          pendingAwaits := live.pendingAwaits
          undisturbed := live.undisturbed }

/-- A step whose start could not be saved is ready as before, and the run has halted. -/
theorem Live.rollback {run : Run} {ledger : Ledger} (live : run.Live ledger)
    (unhalted : run.halted = none) {index : Nat} {previous : StepRecord}
    (bound : index < run.plan.steps.length)
    (running : (run.record index).status = .running) (unlaunched : index ∉ ledger.launched)
    (ready : previous.status = .ready) (blank : previous.Blank) (halt : Halt) :
    ((run.modifyRecord index fun _ => previous).halt halt).run.Live
      { ledger with starting := none, pending := none } := by
  have record (other : Nat) : (run.modifyRecord index fun _ => previous).record other =
      if other = index then previous else run.record other :=
    record_modifyRecord (live.recordCount ▸ bound) (fun _ => previous) other
  have others {other : Nat} (different : other ≠ index) :
      (run.modifyRecord index fun _ => previous).record other = run.record other := by
    rw [record, if_neg different]
  have itself : (run.modifyRecord index fun _ => previous).record index = previous := by
    rw [record, if_pos rfl]
  have unresolved : ((run.modifyRecord index fun _ => previous).record index).Unresolved := by
    rw [itself]
    exact ⟨blank, by simp [ready], by simp [ready]⟩
  have coherent : (run.modifyRecord index fun _ => previous).Coherent
      { ledger with starting := none, pending := none } :=
    live.toCoherent.redraw rfl (modifyRecord_count _ _ _) (fun _ => others) (Or.inr running)
      unresolved (by simp [itself, ready])
  rw [halt_unhalted (show (run.modifyRecord index fun _ => previous).halted = none from unhalted)]
  exact { coherent.congr rfl rfl none none with
          waiting := live.waiting
          flightDistinct := live.flightDistinct
          flightLaunched := live.flightLaunched
          flightUnreported := live.flightUnreported
          launchedRunning := by
            intro other launched fresh
            refine Eq.trans (congrArg StepRecord.status (others ?_))
              (live.launchedRunning other launched fresh)
            exact fun same => unlaunched (same ▸ launched)
          cancelledReported := by
            intro other cancelled
            by_cases same : other = index
            · subst same
              have status := congrArg StepRecord.status itself
              rw [ready] at status
              exact absurd (status.symm.trans cancelled) (by decide)
            · exact live.cancelledReported other
                ((congrArg StepRecord.status (others same)).symm.trans cancelled)
          readyInside := live.readyInside
          readyStatus := by
            intro other member
            have status := live.readyStatus other member
            refine Eq.trans (congrArg StepRecord.status (others ?_)) status
            rintro rfl
            simp [running] at status
          readySorted := live.readySorted
          readyListed := by rintro ⟨⟩
          runningFlies := by rintro ⟨⟩
          pendingAwaits := by rintro ⟨⟩
          undisturbed := by rintro ⟨⟩ }

/-- A settled step shows what it reported and flies no more, and all else is as before. -/
structure Settles (before : Run) (report : StepReport) (after : Run) : Prop where
  plan : after.plan = before.plan
  count : after.execution.steps.length = before.execution.steps.length
  itself : (after.record report.index).outcome = report.outcome
  others : ∀ other, other ≠ report.index → after.record other = before.record other
  waitingOn : after.waitingOn = before.waitingOn
  ready : after.ready = before.ready
  inFlight : after.inFlight = before.inFlight.erase report.index
  halted : after.halted = before.halted

section

variable {run after : Run} {ledger : Ledger} {report : StepReport}

/-- A status from before the settlement belongs to another step. -/
theorem Settles.early (settles : Settles run report after) {other : Nat} {before : StepStatus}
    (shown : (after.record other).status = before)
    (unsettled : before ≠ .succeeded ∧ before ≠ .failed ∧ before ≠ .cancelled) :
    other ≠ report.index ∧ (run.record other).status = before := by
  have different : other ≠ report.index := by
    rintro rfl
    have status := congrArg StepOutcome.status settles.itself
    simp only [StepRecord.outcome, StepReport.outcome, shown] at status
    rw [status] at unsettled
    cases result : report.result <;> simp [result] at unsettled
  exact ⟨different, settles.others other different ▸ shown⟩

theorem mem_reported_append (ledger : Ledger) (report : StepReport) (index : Nat) :
    index ∈ (ledger.reports ++ [report]).map StepReport.index ↔
      index ∈ ledger.reported ∨ index = report.index := by
  simp [Ledger.reported]

theorem Live.settle_coherent (live : run.Live ledger) (flies : report.index ∈ run.inFlight)
    (settles : Settles run report after) (pending : Option Halt) :
    after.Coherent { ledger with reports := ledger.reports ++ [report], pending := pending } := by
  have launched := live.flightLaunched report.index flies
  have unreported := live.flightUnreported report.index flies
  have running := live.launchedRunning report.index launched unreported
  have known : after.plan.steps.length = run.plan.steps.length := by rw [settles.plan]
  exact { recordCount := by rw [settles.count, known]; exact live.recordCount
          launchedDistinct := live.launchedDistinct
          launchedInside := by rw [known]; exact live.launchedInside
          reportedDistinct := by
            simp only [Ledger.reported, List.map_append, List.map_cons, List.map_nil]
            exact List.concat_eq_append ▸ live.reportedDistinct.concat unreported
          reportedLaunched := by
            intro other member
            rcases (mem_reported_append ..).mp member with old | rfl
            · exact live.reportedLaunched other old
            · exact launched
          spreadReported := fun earlier member =>
            List.mem_append_left _ (live.spreadReported earlier member)
          resolved := by
            intro earlier member
            rcases List.mem_append.mp member with old | new
            · have different : earlier.index ≠ report.index :=
                fun same => unreported (same ▸ List.mem_map_of_mem old)
              rw [settles.others earlier.index different]
              exact live.resolved earlier old
            · rw [List.mem_singleton.mp new]
              exact settles.itself
          unresolved := by
            intro other fresh
            obtain ⟨old, different⟩ := not_or.mp (mt (mem_reported_append ..).mpr fresh)
            rw [settles.others other different]
            exact live.unresolved other old
          enabled := by
            intro other step found started
            rw [settles.plan] at found ⊢
            rcases started with shown | shown | member
            · exact live.enabled found (Or.inl (settles.early shown (by decide)).2)
            · exact live.enabled found (Or.inr (Or.inl (settles.early shown (by decide)).2))
            · exact live.enabled found (Or.inr (Or.inr member))
          skippedIff := by
            intro other
            rw [settles.plan, ← live.skippedIff]
            by_cases same : other = report.index
            · subst same
              rw [running]
              constructor
              · intro shown
                exact absurd rfl (settles.early shown (by decide)).1
              · rintro ⟨⟩
            · rw [settles.others other same] }

/-- A settlement keeps a run live. Its consequences are still to be drawn. -/
theorem Live.settle (live : run.Live ledger) (flies : report.index ∈ run.inFlight)
    (idle : ledger.starting = none) (calm : ledger.pending = none)
    (settles : Settles run report after) :
    after.Live { ledger with
      reports := ledger.reports ++ [report], pending := run.plan.haltOf report } := by
  have launched := live.flightLaunched report.index flies
  have unreported := live.flightUnreported report.index flies
  have running := live.launchedRunning report.index launched unreported
  exact { live.settle_coherent flies settles _ with
          waiting := by rw [settles.plan, settles.waitingOn]; exact live.waiting
          flightDistinct := settles.inFlight ▸ live.flightDistinct.erase _
          flightLaunched := by
            rw [settles.inFlight]
            exact fun other member => live.flightLaunched other (List.mem_of_mem_erase member)
          flightUnreported := by
            rw [settles.inFlight]
            intro other member reported
            obtain ⟨different, old⟩ := (live.flightDistinct.mem_erase_iff).mp member
            exact ((mem_reported_append ..).mp reported).elim (live.flightUnreported other old)
              different
          launchedRunning := by
            intro other member fresh
            obtain ⟨old, different⟩ := not_or.mp (mt (mem_reported_append ..).mpr fresh)
            rw [settles.others other different]
            exact live.launchedRunning other member old
          cancelledReported := by
            intro other cancelled
            by_cases same : other = report.index
            · exact (mem_reported_append ..).mpr (Or.inr same)
            · exact (mem_reported_append ..).mpr
                (Or.inl (live.cancelledReported other (settles.others other same ▸ cancelled)))
          readyInside := by rw [settles.ready, settles.plan]; exact live.readyInside
          readyStatus := by
            rw [settles.ready]
            intro other member
            have waits := live.readyStatus other member
            have different : other ≠ report.index := by
              rintro rfl
              simp [running] at waits
            rw [settles.others other different]
            exact waits
          readySorted := settles.ready ▸ live.readySorted
          readyListed := by
            rw [settles.halted, settles.ready]
            intro unhalted other shown
            exact live.readyListed unhalted other (settles.early shown (by decide)).2
          runningFlies := by
            rw [settles.halted, settles.inFlight]
            intro unhalted other shown
            obtain ⟨different, runs⟩ := settles.early shown (by decide)
            have member := live.runningFlies unhalted other runs
            simp only [idle, reduceCtorEq, or_false] at member
            exact Or.inl ((List.mem_erase_of_ne different).mpr member)
          pendingAwaits := by
            rw [settles.halted, settles.plan]
            intro unhalted other step found shown
            exact live.pendingAwaits unhalted found (settles.early shown (by decide)).2
          undisturbed := by
            rw [settles.halted, settles.plan]
            intro unhalted harmless earlier member
            rcases List.mem_append.mp member with old | new
            · exact live.undisturbed unhalted calm earlier old
            · rw [List.mem_singleton.mp new]
              exact (Plan.haltOf_eq_none run.plan report).mp harmless }

end

/-- A report that neither releases nor blocks has no consequences. -/
theorem Live.pass {run : Run} {ledger : Ledger} (live : run.Live ledger) {report : StepReport}
    (last : ledger.reports = ledger.spread ++ [report])
    (unreleased : run.plan.releases report = false) (unblocked : run.plan.blocks report = false) :
    run.Live { ledger with spread := ledger.reports } := by
  have awaited (step : PlanStep) :
      run.plan.awaited ledger.reports step = run.plan.awaited ledger.spread step := by
    rw [last]
    exact Plan.awaited_append_of_not run.plan ledger.spread step unreleased
  have cutOff (index : Nat) :
      run.plan.CutOff ledger.reports index ↔ run.plan.CutOff ledger.spread index := by
    rw [last, Plan.cutOff_append, unblocked]
    simp
  exact { live with
    spreadReported := fun _ member => member
    enabled := by
      intro index step found started
      rw [awaited]
      exact live.enabled found started
    skippedIff := fun index => (live.skippedIff index).trans (cutOff index).symm
    waiting := by
      intro index step found
      rw [awaited]
      exact live.waiting found
    pendingAwaits := by
      intro unhalted index step found pending
      rw [awaited]
      exact live.pendingAwaits unhalted found pending }

/-- A live run that has nothing left to start or to wait for has ended. -/
theorem Live.ended {run : Run} {ledger : Ledger} (wellFormed : run.plan.WellFormed)
    (live : run.Live ledger) (whole : ledger.spread = ledger.reports)
    (idle : ledger.starting = none) (calm : ledger.pending = none)
    (landed : run.inFlight = []) (drained : run.halted = none → run.ready = []) :
    run.Ended ledger := by
  refine ⟨live.toCoherent, ?_⟩
  intro unhalted index
  have releases := live.undisturbed unhalted calm
  -- dependencies come earlier in the plan, so they are released before the step is looked at
  induction index using Nat.strongRecOn with
  | ind index inductionHypothesis =>
    intro bound
    have found := List.getElem?_eq_getElem bound
    have reported : index ∈ ledger.reported := by
      by_contra fresh
      have unresolved := live.unresolved index fresh
      cases status : (run.record index).status with
      | pending =>
        have awaits := live.pendingAwaits unhalted found status
        have free := (Plan.awaited_eq_zero run.plan ledger.spread run.plan.steps[index]).mpr (by
          intro predecessor member
          have earlier := wellFormed.backward found predecessor member
          rw [whole]
          exact inductionHypothesis predecessor.index earlier (by omega))
        omega
      | ready =>
        have listed := live.readyListed unhalted index status
        simp [drained unhalted] at listed
      | running =>
        have flies := live.runningFlies unhalted index status
        simp [landed, idle] at flies
      | succeeded => exact unresolved.2.1 status
      | failed => exact unresolved.2.2 status
      | skipped =>
        obtain ⟨report, member, blocks, _⟩ := (live.skippedIff index).mp status
        rw [Plan.releases_ne_blocks run.plan (releases report (whole ▸ member))] at blocks
        cases blocks
      | cancelled => exact fresh (live.cancelledReported index status)
    obtain ⟨report, member, same⟩ := List.mem_map.mp reported
    exact (Plan.released_iff ..).mpr ⟨report, member, same, releases report member⟩

end Run

end WorkflowEngine
