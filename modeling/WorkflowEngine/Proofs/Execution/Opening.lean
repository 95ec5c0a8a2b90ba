/-
This file proves that a run is live once it has been opened, and that the sweep over the steps that
have not settled keeps a run ended.
-/

import WorkflowEngine.Proofs.Execution.Moves

namespace WorkflowEngine.Run

/-- A fresh run has not looked at any step. -/
structure Fresh (run : Run) : Prop where
  steps : run.execution.steps = run.plan.steps.map fun step => .pending step.nodeId
  waitingOn : run.waitingOn = run.plan.steps.map fun step => step.predecessors.length
  ready : run.ready = []
  inFlight : run.inFlight = []

section

variable {run : Run}

theorem Fresh.record (fresh : run.Fresh) (index : Nat) :
    (run.record index).status = .pending ∧ (run.record index).Blank := by
  unfold Run.record
  rw [fresh.steps, List.getElem?_map]
  cases run.plan.steps[index]? <;> exact ⟨rfl, rfl, rfl, rfl⟩

theorem Fresh.coherent (fresh : run.Fresh) : run.Coherent {} := by
  have status (index : Nat) : (run.record index).status = .pending := (fresh.record index).1
  refine ⟨by rw [fresh.steps, List.length_map], List.nodup_nil, by simp, List.nodup_nil,
    by simp [Ledger.reported], by simp, by simp, ?_, ?_, ?_⟩
  · intro index _
    exact ⟨(fresh.record index).2, by simp [status], by simp [status]⟩
  · intro index step _ started
    simp [status] at started
  · intro index
    simp [status, Plan.CutOff]

/-- After these steps are made ready all else is as before. -/
structure Readied (before : Run) (targets : List Nat) (after : Run) : Prop where
  plan : after.plan = before.plan
  halted : after.halted = before.halted
  inFlight : after.inFlight = before.inFlight
  waitingOn : after.waitingOn = before.waitingOn
  recordCount : after.execution.steps.length = before.execution.steps.length
  hit : ∀ index ∈ targets, after.record index = { before.record index with status := .ready }
  missed : ∀ index, index ∉ targets → after.record index = before.record index
  readyIff : ∀ index, index ∈ after.ready ↔ index ∈ before.ready ∨ index ∈ targets
  readySorted : before.ready.Pairwise (· < ·) → after.ready.Pairwise (· < ·)

theorem makeReady_readied {target : Nat} {targets : List Nat} {after : Run}
    (inside : target < run.execution.steps.length)
    (rest : Readied (run.makeReady target) targets after) :
    Readied run (target :: targets) after := by
  have record (index : Nat) : (run.makeReady target).record index = if index = target then
      { run.record target with status := .ready } else run.record index :=
    record_modifyRecord inside (fun record => { record with status := .ready }) index
  refine ⟨rest.plan, rest.halted, rest.inFlight, rest.waitingOn,
    rest.recordCount.trans (modifyRecord_count _ _ _), ?_, ?_, ?_,
    fun sorted => rest.readySorted (enlist_sorted sorted)⟩
  · intro index member
    by_cases later : index ∈ targets
    · rw [rest.hit index later, record]
      split
      · next same => rw [same]
      · rfl
    · have same := (List.mem_cons.mp member).resolve_right later
      rw [rest.missed index later, record, if_pos same, same]
  · intro index absent
    simp only [List.mem_cons, not_or] at absent
    rw [rest.missed index absent.2, record, if_neg absent.1]
  · intro index
    rw [rest.readyIff, show (run.makeReady target).ready = enlist target run.ready from rfl,
      mem_enlist, List.mem_cons]
    tauto

theorem foldl_readied {targets : List PlanStep}
    (inside : ∀ step ∈ targets, step.index < run.execution.steps.length) :
    Readied run (targets.map PlanStep.index)
      (targets.foldl (fun run step => run.makeReady step.index) run) := by
  induction targets generalizing run with
  | nil => exact ⟨rfl, rfl, rfl, rfl, rfl, by simp, fun _ _ => rfl, by simp, id⟩
  | cons first rest inductionHypothesis =>
    apply makeReady_readied (inside first List.mem_cons_self)
    apply inductionHypothesis
    intro step member
    rw [show (run.makeReady first.index).execution.steps.length = run.execution.steps.length from
      modifyRecord_count _ _ _]
    exact inside step (List.mem_cons_of_mem _ member)

/-- The steps without dependencies are made ready. -/
theorem enter_readied (wellFormed : run.plan.WellFormed) (fresh : run.Fresh) :
    ∃ targets, Readied run targets run.enter ∧ ∀ index, index ∈ targets ↔
      ∃ step, run.plan.steps[index]? = some step ∧ step.predecessors = [] := by
  have bound : ∀ step ∈ run.plan.steps.filter fun step => step.predecessors.isEmpty,
      step.index < run.execution.steps.length := by
    intro step member
    obtain ⟨place, inside, rfl⟩ := List.getElem_of_mem (List.mem_of_mem_filter member)
    rw [wellFormed.placed (List.getElem?_eq_getElem inside), fresh.steps, List.length_map]
    exact inside
  refine ⟨_, foldl_readied bound, ?_⟩
  intro index
  simp only [List.mem_map, List.mem_filter, List.isEmpty_iff]
  constructor
  · rintro ⟨step, ⟨member, free⟩, rfl⟩
    obtain ⟨place, inside, rfl⟩ := List.getElem_of_mem member
    have found := List.getElem?_eq_getElem inside
    rw [wellFormed.placed found]
    exact ⟨_, found, free⟩
  · rintro ⟨step, found, free⟩
    exact ⟨step, ⟨List.mem_of_getElem? found, free⟩, wellFormed.placed found⟩

/-- A run that has been opened is live. -/
theorem Fresh.enter_live (wellFormed : run.plan.WellFormed) (fresh : run.Fresh) :
    run.enter.Live {} := by
  obtain ⟨targets, readied, entries⟩ := enter_readied wellFormed fresh
  have before := fresh.coherent
  have status (index : Nat) : (run.enter.record index).status = .ready ∧ index ∈ targets ∨
      (run.enter.record index).status = .pending ∧ index ∉ targets := by
    by_cases member : index ∈ targets
    · exact Or.inl ⟨by rw [readied.hit index member], member⟩
    · exact Or.inr ⟨by rw [readied.missed index member, (fresh.record index).1], member⟩
  have coherent : run.enter.Coherent {} := by
    refine before.restatus readied.plan readied.recordCount rfl rfl (by simp) ?_ ?_ ?_
    · intro index
      by_cases member : index ∈ targets
      · rw [readied.hit index member]
        exact Or.inr ⟨by simp [Ledger.reported], (fresh.record index).2, by simp, by simp⟩
      · exact Or.inl (readied.missed index member)
    · intro index step found started
      rcases status index with ⟨_, member⟩ | ⟨pending, _⟩
      · obtain ⟨entry, same, free⟩ := (entries index).mp member
        rw [found] at same
        cases same
        simp [Plan.awaited_nil, free]
      · simp [pending] at started
    · intro index
      rcases status index with ⟨shown, _⟩ | ⟨shown, _⟩ <;> simp [shown, Plan.CutOff]
  refine { coherent with
    waiting := ?_
    flightDistinct := by simp [readied.inFlight, fresh.inFlight]
    flightLaunched := by simp [readied.inFlight, fresh.inFlight]
    flightUnreported := by simp [readied.inFlight, fresh.inFlight]
    launchedRunning := by simp
    cancelledReported := ?_
    readyInside := ?_
    readyStatus := ?_
    readySorted := readied.readySorted (by simp [fresh.ready])
    readyListed := ?_
    runningFlies := ?_
    pendingAwaits := ?_
    undisturbed := by simp }
  · intro index step found
    rw [readied.plan] at found ⊢
    simp [readied.waitingOn, fresh.waitingOn, found, Plan.awaited_nil]
  · intro index cancelled
    rcases status index with ⟨shown, _⟩ | ⟨shown, _⟩ <;> simp [cancelled] at shown
  · intro index member
    rw [readied.readyIff, fresh.ready] at member
    simp only [List.not_mem_nil, false_or] at member
    obtain ⟨step, found, _⟩ := (entries index).mp member
    rw [readied.plan]
    exact (List.getElem?_eq_some_iff.mp found).1
  · intro index member
    rw [readied.readyIff, fresh.ready] at member
    simp only [List.not_mem_nil, false_or] at member
    rw [readied.hit index member]
  · intro _ index shown
    rcases status index with ⟨_, member⟩ | ⟨pending, _⟩
    · exact (readied.readyIff index).mpr (Or.inr member)
    · simp [shown] at pending
  · intro _ index running
    rcases status index with ⟨shown, _⟩ | ⟨shown, _⟩ <;> simp [running] at shown
  · intro _ index step found pending
    rw [readied.plan] at found ⊢
    rcases status index with ⟨shown, _⟩ | ⟨_, absent⟩
    · simp [pending] at shown
    · rw [Plan.awaited_nil]
      exact List.length_pos_of_ne_nil fun free => absent ((entries index).mpr ⟨step, found, free⟩)

/-- A step that has not settled may be cancelled in a run that has ended. -/
theorem Ended.cancel {ledger : Ledger} (ended : run.Ended ledger) {index : Nat}
    (bound : index < run.plan.steps.length)
    (unsettled : (run.record index).status.isSettled = false) (ending : Ending) :
    (run.modifyRecord index fun record =>
      { record with status := .cancelled, finishedAt := some ending.finishedAt }).Ended ledger := by
  have record := record_modifyRecord (ended.recordCount ▸ bound) fun record =>
    { record with status := .cancelled, finishedAt := some ending.finishedAt }
  have early : (run.record index).status = .pending ∨ (run.record index).status = .ready ∨
      (run.record index).status = .running := by
    cases status : (run.record index).status <;> simp [status, StepStatus.isSettled] at unsettled ⊢
  have fresh : index ∉ ledger.reported := ended.unreported (by tauto)
  refine ⟨?_, ended.flawless⟩
  refine ended.toCoherent.restatus rfl (modifyRecord_count _ _ _) rfl rfl ended.spreadReported
    ?_ ?_ ?_
  · intro other
    rw [record]
    split
    · next same =>
      subst same
      exact Or.inr ⟨fresh, (ended.unresolved other fresh).1, by simp, by simp⟩
    · exact Or.inl rfl
  · intro other step found started
    rw [record] at started
    split at started
    · simp only [reduceCtorEq, false_or] at started
      exact ended.enabled found (Or.inr (Or.inr started))
    · exact ended.enabled found started
  · intro other
    rw [← ended.skippedIff, record]
    split
    · next same =>
      subst same
      rcases early with status | status | status <;> simp [status]
    · rfl

end

end WorkflowEngine.Run
