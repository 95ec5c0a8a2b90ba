/-
This file proves that a release makes exactly those steps ready that wait for nothing else, and that
it keeps a run live.
-/

import WorkflowEngine.Proofs.Execution.Coherence

namespace WorkflowEngine.Run

theorem mem_enlist (index other : Nat) (ready : List Nat) :
    other ∈ enlist index ready ↔ other = index ∨ other ∈ ready := by
  induction ready with
  | nil => simp [enlist]
  | cons first rest inductionHypothesis =>
    simp only [enlist]
    split
    · simp
    · split
      · next same => simp [same]
      · simp only [List.mem_cons, inductionHypothesis, or_left_comm]

/-- The ready steps stay in order. -/
theorem enlist_sorted {index : Nat} {ready : List Nat} (sorted : ready.Pairwise (· < ·)) :
    (enlist index ready).Pairwise (· < ·) := by
  induction ready with
  | nil => simp [enlist]
  | cons first rest inductionHypothesis =>
    obtain ⟨least, tail⟩ := List.pairwise_cons.mp sorted
    simp only [enlist]
    split
    · next before =>
      refine List.pairwise_cons.mpr ⟨?_, sorted⟩
      intro other member
      rcases List.mem_cons.mp member with rfl | inRest
      · exact before
      · exact Nat.lt_trans before (least other inRest)
    · split
      · exact sorted
      · refine List.pairwise_cons.mpr ⟨?_, inductionHypothesis tail⟩
        intro other member
        rcases (mem_enlist index other rest).mp member with rfl | inRest
        · omega
        · exact least other inRest

/-- A step wakes if it is released and waits for nothing else, unless the run has halted. -/
def Wakes (run : Run) (targets : List Nat) (index : Nat) : Prop :=
  index ∈ targets ∧ (run.waitingOn[index]?).getD 0 - 1 = 0 ∧
    (run.record index).status = .pending ∧ run.halted = none

/-- After a release exactly the steps that wake are ready in addition. -/
structure Woken (before : Run) (targets : List Nat) (after : Run) : Prop where
  plan : after.plan = before.plan
  halted : after.halted = before.halted
  inFlight : after.inFlight = before.inFlight
  recordCount : after.execution.steps.length = before.execution.steps.length
  waiting : ∀ index, after.waitingOn[index]? =
    (before.waitingOn[index]?).map fun count => if index ∈ targets then count - 1 else count
  woken : ∀ index, before.Wakes targets index →
    after.record index = { before.record index with status := .ready }
  unwoken : ∀ index, ¬before.Wakes targets index → after.record index = before.record index
  readyIff : ∀ index, index ∈ after.ready ↔ index ∈ before.ready ∨ before.Wakes targets index
  readySorted : before.ready.Pairwise (· < ·) → after.ready.Pairwise (· < ·)

theorem releaseStep_woken {run : Run} {target : Nat}
    (inside : target < run.execution.steps.length) :
    Woken run [target] (releaseStep run target) := by
  have counts (index : Nat) : (run.waitingOn.set target
      ((run.waitingOn[target]?).getD 0 - 1))[index]? =
      (run.waitingOn[index]?).map fun count => if index ∈ [target] then count - 1 else count := by
    rw [List.getElem?_set]
    by_cases same : target = index
    · subst same
      by_cases present : target < run.waitingOn.length
      · simp [present]
      · simp [present]
    · simp [same, Ne.symm same]
  by_cases wakes : run.Wakes [target] target
  · have condition : ((run.waitingOn[target]?).getD 0 - 1 = 0 &&
        (run.record target).status == .pending && run.halted.isNone) = true := by
      obtain ⟨_, zero, pending, unhalted⟩ := wakes
      simp [zero, pending, unhalted]
    have result : releaseStep run target = { run with
        waitingOn := run.waitingOn.set target ((run.waitingOn[target]?).getD 0 - 1) }.makeReady
          target := if_pos condition
    have only (index : Nat) : run.Wakes [target] index ↔ index = target := by
      constructor
      · intro woken
        exact List.mem_singleton.mp woken.1
      · rintro rfl
        exact wakes
    have record (index : Nat) : (releaseStep run target).record index =
        if index = target then { run.record target with status := .ready }
        else run.record index := by
      rw [result]
      exact @record_modifyRecord { run with
        waitingOn := run.waitingOn.set target ((run.waitingOn[target]?).getD 0 - 1) } target
        inside (fun record => { record with status := .ready }) index
    refine ⟨by rw [result]; rfl, by rw [result]; rfl, by rw [result]; rfl, ?_, ?_, ?_, ?_, ?_, ?_⟩
    · rw [result]
      exact modifyRecord_count _ _ _
    · intro index
      rw [result]
      exact counts index
    · intro index woken
      rw [record, if_pos ((only index).mp woken), (only index).mp woken]
    · intro index asleep
      rw [record, if_neg (mt (only index).mpr asleep)]
    · intro index
      rw [only, or_comm, result]
      exact mem_enlist target index run.ready
    · intro sorted
      rw [result]
      exact enlist_sorted sorted
  · have condition : ¬((run.waitingOn[target]?).getD 0 - 1 = 0 &&
        (run.record target).status == .pending && run.halted.isNone) = true := by
      intro holds
      simp only [Bool.and_eq_true, decide_eq_true_eq, beq_iff_eq,
        Option.isNone_iff_eq_none] at holds
      exact wakes ⟨List.mem_singleton_self target, holds.1.1, holds.1.2, holds.2⟩
    have result : releaseStep run target = { run with
        waitingOn := run.waitingOn.set target ((run.waitingOn[target]?).getD 0 - 1) } :=
      if_neg condition
    have none (index : Nat) : ¬run.Wakes [target] index := by
      intro woken
      have same := List.mem_singleton.mp woken.1
      exact wakes (same ▸ woken)
    rw [result]
    refine ⟨rfl, rfl, rfl, rfl, counts, ?_, fun _ _ => rfl, ?_, id⟩
    · intro index woken
      exact absurd woken (none index)
    · intro index
      simp [none index]

/-- Releases of different steps do not disturb each other. -/
theorem Woken.cons {first second third : Run} {target : Nat} {targets : List Nat}
    (fresh : target ∉ targets) (one : Woken first [target] second)
    (rest : Woken second targets third) : Woken first (target :: targets) third := by
  have early : first.Wakes (target :: targets) target ↔ first.Wakes [target] target := by
    simp [Wakes]
  have late {index : Nat} (different : index ≠ target) :
      first.Wakes (target :: targets) index ↔ second.Wakes targets index := by
    have asleep : ¬first.Wakes [target] index := fun woken =>
      different (List.mem_singleton.mp woken.1)
    unfold Wakes
    rw [one.waiting, one.unwoken index asleep, one.halted]
    simp [different]
  have lateTarget : ¬second.Wakes targets target := fun woken => fresh woken.1
  refine ⟨rest.plan.trans one.plan, rest.halted.trans one.halted,
    rest.inFlight.trans one.inFlight, rest.recordCount.trans one.recordCount, ?_, ?_, ?_, ?_,
    fun sorted => rest.readySorted (one.readySorted sorted)⟩
  · intro index
    rw [rest.waiting, one.waiting, Option.map_map]
    by_cases same : index = target
    · subst same
      simp [Function.comp_def, fresh]
    · simp [Function.comp_def, same]
  · intro index woken
    by_cases same : index = target
    · subst same
      rw [rest.unwoken index lateTarget, one.woken index (early.mp woken)]
    · rw [rest.woken index ((late same).mp woken), one.unwoken index]
      exact fun wakes => same (List.mem_singleton.mp wakes.1)
  · intro index asleep
    by_cases same : index = target
    · subst same
      rw [rest.unwoken index lateTarget, one.unwoken index (mt early.mpr asleep)]
    · rw [rest.unwoken index (mt (late same).mpr asleep), one.unwoken index]
      exact fun wakes => same (List.mem_singleton.mp wakes.1)
  · intro index
    rw [rest.readyIff, one.readyIff]
    by_cases same : index = target
    · subst same
      simp [early, lateTarget]
    · have asleep : ¬first.Wakes [target] index := fun woken =>
        same (List.mem_singleton.mp woken.1)
      simp [late same, asleep]

theorem foldl_woken {run : Run} {targets : List Nat} (distinct : targets.Nodup)
    (inside : ∀ target ∈ targets, target < run.execution.steps.length) :
    Woken run targets (targets.foldl releaseStep run) := by
  induction targets generalizing run with
  | nil =>
    have none (index : Nat) : ¬run.Wakes [] index := fun woken => by cases woken.1
    exact ⟨rfl, rfl, rfl, rfl, by simp, fun index woken => absurd woken (none index),
      fun _ _ => rfl, by simp [none], id⟩
  | cons first rest inductionHypothesis =>
    obtain ⟨fresh, tail⟩ := List.nodup_cons.mp distinct
    have one := releaseStep_woken (inside first List.mem_cons_self)
    apply one.cons fresh
    apply inductionHypothesis tail
    intro target member
    rw [one.recordCount]
    exact inside target (List.mem_cons_of_mem _ member)

theorem mem_successors (run : Run) (source target : Nat) :
    target ∈ run.successors source ↔ run.plan.Edge source target := by
  unfold successors Plan.Edge
  cases run.plan.steps[source]? <;> simp

theorem successors_nodup {run : Run} (wellFormed : run.plan.WellFormed) (source : Nat) :
    (run.successors source).Nodup := by
  unfold successors
  cases found : run.plan.steps[source]? with
  | none => simp
  | some step => exact wellFormed.successorsDistinct found

theorem releaseSuccessors_woken {run : Run} {ledger : Ledger} (wellFormed : run.plan.WellFormed)
    (coherent : run.Coherent ledger) (source : Nat) :
    Woken run (run.successors source) (run.releaseSuccessors source) := by
  apply foldl_woken (successors_nodup wellFormed source)
  intro target member
  rw [coherent.recordCount]
  exact wellFormed.edge_inside ((mem_successors run source target).mp member)

section

variable {run : Run} {ledger : Ledger} {report : StepReport}

/-- The count of a step goes down exactly if the release reaches it. -/
theorem Live.awaited_spread (wellFormed : run.plan.WellFormed) (live : run.Live ledger)
    (last : ledger.reports = ledger.spread ++ [report])
    (releases : run.plan.releases report = true) {index : Nat} {step : PlanStep}
    (found : run.plan.steps[index]? = some step) :
    run.plan.awaited ledger.spread step = run.plan.awaited ledger.reports step +
      if index ∈ run.successors report.index then 1 else 0 := by
  rw [Plan.awaited_append run.plan (wellFormed.predecessorsDistinct found)
    (live.last_unreleased last) releases, ← last]
  simp only [mem_successors, wellFormed.edge_iff found]

/-- A step that is reached wakes if it awaits nothing after the release. -/
theorem Live.wakes_iff (wellFormed : run.plan.WellFormed) (live : run.Live ledger)
    (last : ledger.reports = ledger.spread ++ [report])
    (releases : run.plan.releases report = true) {index : Nat} {step : PlanStep}
    (found : run.plan.steps[index]? = some step) :
    run.Wakes (run.successors report.index) index ↔ index ∈ run.successors report.index ∧
      run.plan.awaited ledger.reports step = 0 ∧ (run.record index).status = .pending ∧
        run.halted = none := by
  unfold Wakes
  rw [live.waiting found, live.awaited_spread wellFormed last releases found]
  by_cases reached : index ∈ run.successors report.index <;> simp [reached]

/-- A release changes the record of a step only from pending to ready. -/
theorem Woken.status {targets : List Nat} {after : Run} (woken : Woken run targets after)
    (index : Nat) :
    (after.record index).status = .ready ∧ (run.record index).status = .pending ∧
        run.Wakes targets index ∨
      after.record index = run.record index ∧ ¬run.Wakes targets index := by
  by_cases wakes : run.Wakes targets index
  · exact Or.inl ⟨by rw [woken.woken index wakes], wakes.2.2.1, wakes⟩
  · exact Or.inr ⟨woken.unwoken index wakes, wakes⟩

theorem Live.release_coherent (wellFormed : run.plan.WellFormed) (live : run.Live ledger)
    (last : ledger.reports = ledger.spread ++ [report])
    (releases : run.plan.releases report = true) :
    (run.releaseSuccessors report.index).Coherent { ledger with spread := ledger.reports } := by
  have woken := releaseSuccessors_woken wellFormed live.toCoherent report.index
  have blocks := Plan.releases_ne_blocks run.plan releases
  refine live.toCoherent.restatus woken.plan woken.recordCount rfl rfl (fun _ member => member)
    ?_ ?_ ?_
  · intro index
    by_cases wakes : run.Wakes (run.successors report.index) index
    · have early := live.unreported (Or.inl wakes.2.2.1)
      have unresolved := live.unresolved index early
      rw [woken.woken index wakes]
      exact Or.inr ⟨early, unresolved.1, by simp, by simp⟩
    · exact Or.inl (woken.unwoken index wakes)
  · intro index step found started
    rcases woken.status index with ⟨_, _, wakes⟩ | ⟨same, _⟩
    · exact ((live.wakes_iff wellFormed last releases found).mp wakes).2.1
    · rw [same] at started
      exact Plan.awaited_mono run.plan step live.spreadReported (live.enabled found started)
  · intro index
    have cutOff := Plan.cutOff_append run.plan ledger.spread report index
    rw [← last] at cutOff
    rw [cutOff, blocks]
    simp only [Bool.false_eq_true, false_and, or_false]
    rw [← live.skippedIff]
    rcases woken.status index with ⟨ready, pending, _⟩ | ⟨same, _⟩
    · rw [ready, pending]
      simp
    · rw [same]

/-- A release keeps a run live. -/
theorem Live.release (wellFormed : run.plan.WellFormed) (live : run.Live ledger)
    (last : ledger.reports = ledger.spread ++ [report])
    (releases : run.plan.releases report = true) :
    (run.releaseSuccessors report.index).Live { ledger with spread := ledger.reports } := by
  have woken := releaseSuccessors_woken wellFormed live.toCoherent report.index
  have coherent := live.release_coherent wellFormed last releases
  refine { coherent with
    waiting := ?_
    flightDistinct := woken.inFlight ▸ live.flightDistinct
    flightLaunched := woken.inFlight ▸ live.flightLaunched
    flightUnreported := woken.inFlight ▸ live.flightUnreported
    launchedRunning := ?_
    cancelledReported := ?_
    readyInside := ?_
    readyStatus := ?_
    readySorted := woken.readySorted live.readySorted
    readyListed := ?_
    runningFlies := ?_
    pendingAwaits := ?_
    undisturbed := by rw [woken.halted, woken.plan]; exact live.undisturbed }
  · intro index step found
    rw [woken.plan] at found ⊢
    rw [woken.waiting, live.waiting found, live.awaited_spread wellFormed last releases found]
    by_cases reached : index ∈ run.successors report.index <;> simp [reached]
  · intro index launched fresh
    have running := live.launchedRunning index launched fresh
    rcases woken.status index with ⟨_, pending, _⟩ | ⟨same, _⟩
    · simp [running] at pending
    · rw [same, running]
  · intro index cancelled
    rcases woken.status index with ⟨ready, _, _⟩ | ⟨same, _⟩
    · simp [cancelled] at ready
    · exact live.cancelledReported index (same ▸ cancelled)
  · intro index member
    rw [woken.plan]
    rcases (woken.readyIff index).mp member with old | wakes
    · exact live.readyInside index old
    · exact wellFormed.edge_inside ((mem_successors run report.index index).mp wakes.1)
  · intro index member
    rcases woken.status index with ⟨ready, _, _⟩ | ⟨same, asleep⟩
    · exact ready
    · rw [same]
      exact live.readyStatus index (((woken.readyIff index).mp member).resolve_right asleep)
  · rw [woken.halted]
    intro unhalted index ready
    rw [woken.readyIff]
    rcases woken.status index with ⟨_, _, wakes⟩ | ⟨same, _⟩
    · exact Or.inr wakes
    · exact Or.inl (live.readyListed unhalted index (same ▸ ready))
  · rw [woken.halted, woken.inFlight]
    intro unhalted index running
    rcases woken.status index with ⟨ready, _, _⟩ | ⟨same, _⟩
    · simp [running] at ready
    · exact live.runningFlies unhalted index (same ▸ running)
  · rw [woken.halted, woken.plan]
    intro unhalted index step found pending
    rcases woken.status index with ⟨ready, _, _⟩ | ⟨same, asleep⟩
    · simp [pending] at ready
    · rw [same] at pending
      have awaits := live.pendingAwaits unhalted found pending
      rw [live.awaited_spread wellFormed last releases found] at awaits
      by_cases reached : index ∈ run.successors report.index
      · have more : run.plan.awaited ledger.reports step ≠ 0 := fun zero => asleep
          ((live.wakes_iff wellFormed last releases found).mpr ⟨reached, zero, pending, unhalted⟩)
        exact Nat.pos_of_ne_zero more
      · simpa [reached] using awaits

end

end WorkflowEngine.Run
