/-
This file proves that the walk behind a step that failed skips exactly what lies behind it. The walk
ends in time because every step that it skips pays for the edges that leave it.
-/

import WorkflowEngine.Proofs.Execution.Release

namespace WorkflowEngine

theorem flatMap_length_le {A B : Type} {items : List A} {before after : A → List B}
    (less : ∀ item ∈ items, (after item).length ≤ (before item).length) :
    (items.flatMap after).length ≤ (items.flatMap before).length := by
  induction items with
  | nil => exact Nat.le_refl _
  | cons first rest inductionHypothesis =>
    have head := less first List.mem_cons_self
    have tail := inductionHypothesis fun item member => less item (List.mem_cons_of_mem _ member)
    simp only [List.flatMap_cons, List.length_append]
    omega

/-- The whole gets shorter by what one of the items gives up. -/
theorem flatMap_length_drop {A B : Type} {items : List A} {item : A} {before after : A → List B}
    {drop : Nat} (member : item ∈ items)
    (less : ∀ other ∈ items, (after other).length ≤ (before other).length)
    (pays : (after item).length + drop ≤ (before item).length) :
    (items.flatMap after).length + drop ≤ (items.flatMap before).length := by
  induction items with
  | nil => cases member
  | cons first rest inductionHypothesis =>
    have restLess : ∀ other ∈ rest, (after other).length ≤ (before other).length :=
      fun other inRest => less other (List.mem_cons_of_mem _ inRest)
    simp only [List.flatMap_cons, List.length_append]
    rcases List.mem_cons.mp member with rfl | inRest
    · have tail := flatMap_length_le restLess
      omega
    · have head := less first List.mem_cons_self
      have tail := inductionHypothesis inRest restLess
      omega

namespace Run

theorem isSkippable_iff (run : Run) (index : Nat) : run.isSkippable index = true ↔
    (run.record index).status = .pending ∨ (run.record index).status = .ready := by
  simp [isSkippable]

/-- After a walk the steps that it names are skipped and all else is as before. -/
structure Skips (before : Run) (now : Moment) (skipped : List Nat) (after : Run) : Prop where
  plan : after.plan = before.plan
  halted : after.halted = before.halted
  inFlight : after.inFlight = before.inFlight
  waitingOn : after.waitingOn = before.waitingOn
  recordCount : after.execution.steps.length = before.execution.steps.length
  distinct : skipped.Nodup
  skippable : ∀ index ∈ skipped, before.isSkippable index = true
  hit : ∀ index ∈ skipped, after.record index =
    { before.record index with status := .skipped, finishedAt := some now.wall }
  missed : ∀ index, index ∉ skipped → after.record index = before.record index
  ready : after.ready = before.ready.filter fun index => !skipped.contains index

theorem markSkipped_skips {run : Run} {index : Nat} (now : Moment)
    (inside : index < run.execution.steps.length) (skippable : run.isSkippable index = true) :
    Skips run now [index] (run.markSkipped now index) := by
  have record (other : Nat) : (run.markSkipped now index).record other = if other = index then
      { run.record index with status := .skipped, finishedAt := some now.wall }
      else run.record other :=
    record_modifyRecord inside
      (fun record => { record with status := .skipped, finishedAt := some now.wall }) other
  refine ⟨rfl, rfl, rfl, rfl, modifyRecord_count _ _ _, List.nodup_singleton _, ?_, ?_, ?_, ?_⟩
  · intro other member
    rwa [List.mem_singleton.mp member]
  · intro other member
    rw [List.mem_singleton.mp member, record, if_pos rfl]
  · intro other absent
    rw [record, if_neg (mt List.mem_singleton.mpr absent)]
  · apply List.filter_congr
    intro other _
    by_cases same : other = index <;> simp [same]

theorem Skips.unskippable {before after : Run} {now : Moment} {skipped : List Nat}
    (skips : Skips before now skipped after) {index : Nat} :
    after.isSkippable index = true ↔ before.isSkippable index = true ∧ index ∉ skipped := by
  by_cases member : index ∈ skipped
  · simp [isSkippable, skips.hit index member, member]
  · simp [isSkippable, skips.missed index member, member]

theorem Skips.cons {first second third : Run} {now : Moment} {index : Nat} {skipped : List Nat}
    (one : Skips first now [index] second) (rest : Skips second now skipped third) :
    Skips first now (index :: skipped) third := by
  have early {other : Nat} (member : other ∈ skipped) :
      first.isSkippable other = true ∧ other ≠ index := by
    have facts := one.unskippable.mp (rest.skippable other member)
    exact ⟨facts.1, fun same => facts.2 (List.mem_singleton.mpr same)⟩
  have fresh : index ∉ skipped := fun member => (early member).2 rfl
  refine ⟨rest.plan.trans one.plan, rest.halted.trans one.halted,
    rest.inFlight.trans one.inFlight, rest.waitingOn.trans one.waitingOn,
    rest.recordCount.trans one.recordCount, List.nodup_cons.mpr ⟨fresh, rest.distinct⟩,
    ?_, ?_, ?_, ?_⟩
  · intro other member
    rcases List.mem_cons.mp member with rfl | later
    · exact one.skippable other (List.mem_singleton_self other)
    · exact (early later).1
  · intro other member
    rcases List.mem_cons.mp member with rfl | later
    · rw [rest.missed other fresh, one.hit other (List.mem_singleton_self other)]
    · rw [rest.hit other later, one.missed other (by simp [(early later).2])]
  · intro other absent
    simp only [List.mem_cons, not_or] at absent
    rw [rest.missed other absent.2, one.missed other (by simp [absent.1])]
  · rw [rest.ready, one.ready, List.filter_filter]
    apply List.filter_congr
    intro other _
    simp only [List.contains_eq_mem, List.mem_cons, List.not_mem_nil, or_false]
    by_cases same : other = index <;> simp [same]

/-- A walk skips only steps that it has found, which lie behind its queue. -/
theorem skipFrom_skips (now : Moment) (count : Nat) {run : Run} {queue : List Nat}
    (wellFormed : run.plan.WellFormed)
    (counted : run.execution.steps.length = run.plan.steps.length)
    (inside : ∀ index ∈ queue, index < run.plan.steps.length) :
    Skips run now (skipFrom now count run queue).2 (skipFrom now count run queue).1 ∧
      ∀ index ∈ (skipFrom now count run queue).2,
        ∃ start ∈ queue, Relation.ReflTransGen run.plan.Edge start index := by
  have idle : Skips run now [] run :=
    ⟨rfl, rfl, rfl, rfl, rfl, List.nodup_nil, by simp, by simp, fun _ _ => rfl, by simp⟩
  induction count generalizing run queue with
  | zero => exact ⟨idle, by simp [skipFrom]⟩
  | succ count inductionHypothesis =>
    cases queue with
    | nil => exact ⟨idle, by simp [skipFrom]⟩
    | cons first rest =>
      by_cases skippable : run.isSkippable first = true
      · have bound := inside first List.mem_cons_self
        have one := markSkipped_skips now (counted ▸ bound) skippable
        have walk := @inductionHypothesis (run.markSkipped now first)
          (rest ++ run.successors first) wellFormed
          (one.recordCount.trans counted) (by
            intro index member
            rcases List.mem_append.mp member with old | new
            · exact inside index (List.mem_cons_of_mem _ old)
            · exact wellFormed.edge_inside ((mem_successors run first index).mp new))
          ⟨rfl, rfl, rfl, rfl, rfl, List.nodup_nil, by simp, by simp, fun _ _ => rfl, by simp⟩
        simp only [skipFrom, if_pos skippable]
        refine ⟨one.cons walk.1, ?_⟩
        intro index member
        rcases List.mem_cons.mp member with rfl | later
        · exact ⟨index, List.mem_cons_self, .refl⟩
        · obtain ⟨start, queued, reach⟩ := walk.2 index later
          rcases List.mem_append.mp queued with old | new
          · exact ⟨start, List.mem_cons_of_mem _ old, reach⟩
          · exact ⟨first, List.mem_cons_self, .head ((mem_successors run first start).mp new) reach⟩
      · have walk := @inductionHypothesis run rest wellFormed counted
          (fun index member => inside index (List.mem_cons_of_mem _ member)) idle
        simp only [skipFrom, if_neg skippable]
        refine ⟨walk.1, ?_⟩
        intro index member
        obtain ⟨start, queued, reach⟩ := walk.2 index member
        exact ⟨start, List.mem_cons_of_mem _ queued, reach⟩

/-- The budget counts the edges of the steps that may still be skipped. -/
def skipBudget (run : Run) : Nat :=
  (run.plan.steps.flatMap fun step =>
    if run.isSkippable step.index then step.successors else []).length

theorem skipBudget_drop {run after : Run} {now : Moment} {index : Nat}
    (wellFormed : run.plan.WellFormed) (bound : index < run.plan.steps.length)
    (skips : Skips run now [index] after) :
    after.skipBudget + (run.successors index).length ≤ run.skipBudget := by
  have found := List.getElem?_eq_getElem bound
  have placed := wellFormed.placed found
  unfold skipBudget
  rw [skips.plan]
  apply flatMap_length_drop (List.getElem_mem bound)
  · intro step _
    by_cases later : after.isSkippable step.index = true
    · simp [later, (skips.unskippable.mp later).1]
    · simp [later]
  · have gone : after.isSkippable index = false := by
      rw [Bool.eq_false_iff]
      exact fun later => (skips.unskippable.mp later).2 (List.mem_singleton_self index)
    have before := skips.skippable index (List.mem_singleton_self index)
    simp [placed, gone, before, successors, found]

/-- A walk with enough steps to go leaves nothing behind that it could have skipped. -/
theorem skipFrom_closed (now : Moment) (count : Nat) {run : Run} {queue : List Nat}
    (wellFormed : run.plan.WellFormed)
    (counted : run.execution.steps.length = run.plan.steps.length)
    (inside : ∀ index ∈ queue, index < run.plan.steps.length)
    (enough : queue.length + run.skipBudget ≤ count) :
    (∀ index ∈ queue, (skipFrom now count run queue).1.isSkippable index = false) ∧
      ∀ source ∈ (skipFrom now count run queue).2, ∀ target, run.plan.Edge source target →
        (skipFrom now count run queue).1.isSkippable target = false := by
  induction count generalizing run queue with
  | zero =>
    have empty : queue = [] := List.eq_nil_of_length_eq_zero (by omega)
    simp [skipFrom, empty]
  | succ count inductionHypothesis =>
    cases queue with
    | nil => simp [skipFrom]
    | cons first rest =>
      have bound := inside first List.mem_cons_self
      by_cases skippable : run.isSkippable first = true
      · have one := markSkipped_skips now (counted ▸ bound) skippable
        have budget := skipBudget_drop wellFormed bound one
        have insideLater : ∀ index ∈ rest ++ run.successors first,
            index < run.plan.steps.length := by
          intro index member
          rcases List.mem_append.mp member with old | new
          · exact inside index (List.mem_cons_of_mem _ old)
          · exact wellFormed.edge_inside ((mem_successors run first index).mp new)
        have walk := @inductionHypothesis (run.markSkipped now first) _ wellFormed
          (one.recordCount.trans counted) insideLater (by
            simp only [List.length_append, List.length_cons] at enough ⊢
            omega)
        have skips := (@skipFrom_skips now count (run.markSkipped now first) _ wellFormed
          (one.recordCount.trans counted) insideLater).1
        simp only [skipFrom, if_pos skippable]
        constructor
        · intro index member
          rcases List.mem_cons.mp member with rfl | later
          · rw [Bool.eq_false_iff]
            intro again
            exact (one.unskippable.mp (skips.unskippable.mp again).1).2
              (List.mem_singleton_self index)
          · exact walk.1 index (List.mem_append_left _ later)
        · intro source member target edge
          rcases List.mem_cons.mp member with rfl | later
          · exact walk.1 target
              (List.mem_append_right _ ((mem_successors run source target).mpr edge))
          · exact walk.2 source later target edge
      · have insideLater : ∀ index ∈ rest, index < run.plan.steps.length :=
          fun index member => inside index (List.mem_cons_of_mem _ member)
        have walk := @inductionHypothesis run rest wellFormed counted insideLater (by
          simp only [List.length_cons] at enough
          omega)
        have skips := (skipFrom_skips now count wellFormed counted insideLater).1
        simp only [skipFrom, if_neg skippable]
        refine ⟨?_, walk.2⟩
        intro index member
        rcases List.mem_cons.mp member with rfl | later
        · rw [Bool.eq_false_iff]
          exact fun again => skippable (skips.unskippable.mp again).1
        · exact walk.1 index later

section

variable {run : Run} {ledger : Ledger} {report : StepReport}

/-- A step behind one that is not released has not been started. -/
theorem Live.unstarted_edge (wellFormed : run.plan.WellFormed) (live : run.Live ledger)
    {source target : Nat} (unreleased : run.plan.released ledger.spread source = false)
    (edge : run.plan.Edge source target) :
    ((run.record target).status = .pending ∨ (run.record target).status = .skipped) ∧
      run.plan.released ledger.spread target = false := by
  obtain ⟨step, found⟩ : ∃ step, run.plan.steps[target]? = some step :=
    ⟨_, List.getElem?_eq_getElem (wellFormed.edge_inside edge)⟩
  obtain ⟨predecessor, member, same⟩ := List.mem_map.mp ((wellFormed.edge_iff found).mp edge)
  have awaits : ¬run.plan.awaited ledger.spread step = 0 := by
    intro free
    have released := (Plan.awaited_eq_zero ..).mp free predecessor member
    rw [same, unreleased] at released
    cases released
  have disabled := mt (live.enabled found) awaits
  simp only [not_or] at disabled
  obtain ⟨notReady, notRunning, unlaunched⟩ := disabled
  have unreported : target ∉ ledger.reported := mt (live.reportedLaunched target) unlaunched
  have unresolved := live.unresolved target unreported
  have uncancelled := mt (live.cancelledReported target) unreported
  constructor
  · cases status : (run.record target).status <;> simp_all [StepRecord.Unresolved]
  · rw [Bool.eq_false_iff]
    intro released
    obtain ⟨earlier, inSpread, index, _⟩ := (Plan.released_iff ..).mp released
    exact unreported (List.mem_map.mpr ⟨earlier, live.spreadReported earlier inSpread, index⟩)

theorem Live.unstarted_behind (wellFormed : run.plan.WellFormed) (live : run.Live ledger)
    {source target : Nat} (unreleased : run.plan.released ledger.spread source = false)
    (behind : Relation.TransGen run.plan.Edge source target) :
    ((run.record target).status = .pending ∨ (run.record target).status = .skipped) ∧
      run.plan.released ledger.spread target = false := by
  induction behind with
  | single edge => exact live.unstarted_edge wellFormed unreleased edge
  | tail _ edge inductionHypothesis =>
    exact live.unstarted_edge wellFormed inductionHypothesis.2 edge

theorem skipBudget_le (wellFormed : run.plan.WellFormed) {index : Nat}
    (bound : index < run.plan.steps.length) (settled : run.isSkippable index = false) :
    (run.successors index).length + run.skipBudget ≤ run.plan.edgeCount := by
  have found := List.getElem?_eq_getElem bound
  rw [Nat.add_comm]
  apply flatMap_length_drop (List.getElem_mem bound)
  · intro step _
    split <;> simp
  · simp [wellFormed.placed found, settled, successors, found]

theorem successors_inside (wellFormed : run.plan.WellFormed) (source : Nat) :
    ∀ index ∈ run.successors source, index < run.plan.steps.length :=
  fun index member => wellFormed.edge_inside ((mem_successors run source index).mp member)

/-- The walk skips only steps that lie behind the one that failed. -/
theorem Live.skips (wellFormed : run.plan.WellFormed) (live : run.Live ledger) (now : Moment)
    (source : Nat) :
    Skips run now (run.skipSuccessors now source).2 (run.skipSuccessors now source).1 ∧
      ∀ index ∈ (run.skipSuccessors now source).2,
        Relation.TransGen run.plan.Edge source index := by
  have walk := skipFrom_skips now run.plan.edgeCount wellFormed live.recordCount
    (successors_inside wellFormed source)
  refine ⟨walk.1, ?_⟩
  intro index member
  obtain ⟨start, queued, reach⟩ := walk.2 index member
  exact .head' ((mem_successors run source start).mp queued) reach

theorem Live.skip_closed (wellFormed : run.plan.WellFormed) (live : run.Live ledger)
    (now : Moment) {source : Nat} (launched : source ∈ ledger.launched) :
    (∀ index, run.plan.Edge source index →
      (run.skipSuccessors now source).1.isSkippable index = false) ∧
    ∀ middle ∈ (run.skipSuccessors now source).2, ∀ target, run.plan.Edge middle target →
      (run.skipSuccessors now source).1.isSkippable target = false := by
  have settled : run.isSkippable source = false := by
    rw [Bool.eq_false_iff, ne_eq, isSkippable_iff]
    intro early
    exact live.unlaunched (by tauto) launched
  have closed := skipFrom_closed now run.plan.edgeCount wellFormed live.recordCount
    (successors_inside wellFormed source)
    (skipBudget_le wellFormed (live.launchedInside source launched) settled)
  exact ⟨fun index edge => closed.1 index ((mem_successors run source index).mpr edge), closed.2⟩

/-- Every step behind the one that failed is skipped after the walk. -/
theorem Live.skip_complete (wellFormed : run.plan.WellFormed) (live : run.Live ledger)
    (now : Moment) {source target : Nat} (launched : source ∈ ledger.launched)
    (unreleased : run.plan.released ledger.spread source = false)
    (behind : Relation.TransGen run.plan.Edge source target) :
    ((run.skipSuccessors now source).1.record target).status = .skipped := by
  have skips := (live.skips wellFormed now source).1
  have closed := live.skip_closed wellFormed now launched
  have skippedOf {index : Nat} (reached : Relation.TransGen run.plan.Edge source index)
      (unskippable : (run.skipSuccessors now source).1.isSkippable index = false) :
      ((run.skipSuccessors now source).1.record index).status = .skipped := by
    by_cases member : index ∈ (run.skipSuccessors now source).2
    · rw [skips.hit index member]
    · rw [skips.missed index member]
      rcases (live.unstarted_behind wellFormed unreleased reached).1 with pending | skipped
      · have again := skips.unskippable.mpr
          ⟨(isSkippable_iff run index).mpr (Or.inl pending), member⟩
        rw [unskippable] at again
        cases again
      · exact skipped
  induction behind with
  | single edge => exact skippedOf (.single edge) (closed.1 _ edge)
  | @tail middle target reach edge inductionHypothesis =>
    by_cases member : middle ∈ (run.skipSuccessors now source).2
    · exact skippedOf (.tail reach edge) (closed.2 middle member target edge)
    · -- a step that was skipped before had all behind it skipped with it
      rw [skips.missed middle member] at inductionHypothesis
      obtain ⟨earlier, inSpread, blocks, cut⟩ := (live.skippedIff middle).mp inductionHypothesis
      have skipped := (live.skippedIff target).mpr ⟨earlier, inSpread, blocks, .tail cut edge⟩
      have absent : target ∉ (run.skipSuccessors now source).2 := by
        intro again
        have early := (isSkippable_iff run target).mp (skips.skippable target again)
        simp [skipped] at early
      rw [skips.missed target absent, skipped]

theorem Skips.status {now : Moment} {skipped : List Nat} {after : Run}
    (skips : Skips run now skipped after) (index : Nat) :
    (after.record index).status = .skipped ∧ index ∈ skipped ∨
      after.record index = run.record index ∧ index ∉ skipped := by
  by_cases member : index ∈ skipped
  · exact Or.inl ⟨by rw [skips.hit index member], member⟩
  · exact Or.inr ⟨skips.missed index member, member⟩

theorem Live.skip_coherent (wellFormed : run.plan.WellFormed) (live : run.Live ledger)
    (now : Moment) (last : ledger.reports = ledger.spread ++ [report])
    (blocks : run.plan.blocks report = true) :
    (run.skipSuccessors now report.index).1.Coherent { ledger with spread := ledger.reports } := by
  obtain ⟨skips, behind⟩ := live.skips wellFormed now report.index
  refine live.toCoherent.restatus skips.plan skips.recordCount rfl rfl (fun _ member => member)
    ?_ ?_ ?_
  · intro index
    by_cases member : index ∈ (run.skipSuccessors now report.index).2
    · have early := (isSkippable_iff run index).mp (skips.skippable index member)
      have fresh := live.unreported (by tauto)
      rw [skips.hit index member]
      exact Or.inr ⟨fresh, (live.unresolved index fresh).1, by simp, by simp⟩
    · exact Or.inl (skips.missed index member)
  · intro index step found started
    apply Plan.awaited_mono run.plan step live.spreadReported
    rcases skips.status index with ⟨skipped, member⟩ | ⟨same, _⟩
    · -- what is skipped has not been launched
      have early := (isSkippable_iff run index).mp (skips.skippable index member)
      have unlaunched : index ∉ ledger.launched := live.unlaunched (by tauto)
      simp [skipped, unlaunched] at started
    · exact live.enabled found (same ▸ started)
  · intro index
    have cutOff := Plan.cutOff_append run.plan ledger.spread report index
    rw [← last, blocks] at cutOff
    rw [cutOff, ← live.skippedIff]
    constructor
    · intro skipped
      rcases skips.status index with ⟨_, member⟩ | ⟨same, _⟩
      · exact Or.inr ⟨rfl, behind index member⟩
      · exact Or.inl (same ▸ skipped)
    · rintro (skipped | ⟨_, reach⟩)
      · rcases skips.status index with ⟨now, _⟩ | ⟨same, _⟩
        · exact now
        · rw [same, skipped]
      · exact live.skip_complete wellFormed now (live.last_launched last)
          (live.last_unreleased last) reach

/-- The walk behind a step that failed keeps a run live. -/
theorem Live.skip (wellFormed : run.plan.WellFormed) (live : run.Live ledger) (now : Moment)
    (last : ledger.reports = ledger.spread ++ [report])
    (blocks : run.plan.blocks report = true) :
    (run.skipSuccessors now report.index).1.Live { ledger with spread := ledger.reports } := by
  obtain ⟨skips, _⟩ := live.skips wellFormed now report.index
  have coherent := live.skip_coherent wellFormed now last blocks
  have unreleased : run.plan.releases report = false := by
    rw [Bool.eq_false_iff]
    intro releases
    rw [Plan.releases_ne_blocks run.plan releases] at blocks
    cases blocks
  have awaited (step : PlanStep) :
      run.plan.awaited ledger.reports step = run.plan.awaited ledger.spread step := by
    rw [last]
    exact Plan.awaited_append_of_not run.plan ledger.spread step unreleased
  refine { coherent with
    waiting := ?_
    flightDistinct := skips.inFlight ▸ live.flightDistinct
    flightLaunched := skips.inFlight ▸ live.flightLaunched
    flightUnreported := skips.inFlight ▸ live.flightUnreported
    launchedRunning := ?_
    cancelledReported := ?_
    readyInside := ?_
    readyStatus := ?_
    readySorted := skips.ready ▸ live.readySorted.filter _
    readyListed := ?_
    runningFlies := ?_
    pendingAwaits := ?_
    undisturbed := by rw [skips.halted, skips.plan]; exact live.undisturbed }
  · intro index step found
    rw [skips.plan] at found ⊢
    rw [skips.waitingOn, awaited]
    exact live.waiting found
  · intro index launched fresh
    have running := live.launchedRunning index launched fresh
    rcases skips.status index with ⟨_, member⟩ | ⟨same, _⟩
    · have early := (isSkippable_iff run index).mp (skips.skippable index member)
      simp [running] at early
    · rw [same, running]
  · intro index cancelled
    rcases skips.status index with ⟨skipped, _⟩ | ⟨same, _⟩
    · simp [cancelled] at skipped
    · exact live.cancelledReported index (same ▸ cancelled)
  · rw [skips.ready, skips.plan]
    exact fun index member => live.readyInside index (List.mem_of_mem_filter member)
  · rw [skips.ready]
    intro index member
    obtain ⟨ready, kept⟩ := List.mem_filter.mp member
    rw [skips.missed index (by simpa using kept)]
    exact live.readyStatus index ready
  · rw [skips.halted, skips.ready]
    intro unhalted index ready
    rcases skips.status index with ⟨skipped, _⟩ | ⟨same, absent⟩
    · simp [ready] at skipped
    · exact List.mem_filter.mpr
        ⟨live.readyListed unhalted index (same ▸ ready), by simpa using absent⟩
  · rw [skips.halted, skips.inFlight]
    intro unhalted index running
    rcases skips.status index with ⟨skipped, _⟩ | ⟨same, _⟩
    · simp [running] at skipped
    · exact live.runningFlies unhalted index (same ▸ running)
  · rw [skips.halted, skips.plan]
    intro unhalted index step found pending
    rw [awaited]
    rcases skips.status index with ⟨skipped, _⟩ | ⟨same, _⟩
    · simp [pending] at skipped
    · exact live.pendingAwaits unhalted found (same ▸ pending)

end

end Run

end WorkflowEngine
