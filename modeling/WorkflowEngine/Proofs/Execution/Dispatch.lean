/-
This file proves how steps are started. Never more of them run than the plan allows, the least ready
step is the next one, and a run waits only while there is no room or nothing is ready. With room for
one step at a time, the steps start in the order of the plan.
-/

import WorkflowEngine.Proofs.Execution.Progress
import WorkflowEngine.Proofs.Execution.Routes

namespace WorkflowEngine

def Execution.running (execution : Execution) : List Nat :=
  (List.range execution.steps.length).filter fun index =>
    (execution.steps[index]?).any fun record => record.status == .running

theorem Execution.running_nodup (execution : Execution) : execution.running.Nodup :=
  List.nodup_range.filter _

/-- No more steps run than are listed if all that run are. -/
theorem Execution.running_le (execution : Execution) {indices : List Nat}
    (listed : execution.running ⊆ indices) : execution.running.length ≤ indices.length :=
  (execution.running_nodup.subperm listed).length_le

namespace Run

theorem mem_running (run : Run) (index : Nat) :
    index ∈ run.execution.running ↔ (run.record index).status = .running := by
  simp only [Execution.running, List.mem_filter, List.mem_range, record]
  by_cases inside : index < run.execution.steps.length
  · simp [inside]
  · simp [inside, StepRecord.pending]

section

variable {run : Run} {launched : List Nat} {reports : List StepReport}

/-- Until the first halt a step runs only if it is in flight or its start is being saved. -/
theorem Valid.running_flies (valid : run.Valid launched reports) (unhalted : run.halted = none)
    {index : Nat} (running : (run.record index).status = .running) :
    index ∈ run.inFlight ∧ index ∈ launched ∨ index ∈ run.starting := by
  have alive {ledger : Ledger} (live : run.Live ledger) (own : ledger.launched = launched)
      (starts : ∀ other, ledger.starting = some other → other ∈ run.starting) :
      index ∈ run.inFlight ∧ index ∈ launched ∨ index ∈ run.starting := by
    rcases live.runningFlies unhalted index running with flies | begins
    · exact .inl ⟨flies, own ▸ live.flightLaunched index flies⟩
    · exact .inr (starts index begins)
  have finished (ended : run.Ended ⟨launched, reports, reports, none, none⟩) : False := by
    have inside : index < run.plan.steps.length := by
      rw [← ended.recordCount]
      by_contra outside
      simp [record, List.getElem?_eq_none (Nat.le_of_not_lt outside), StepRecord.pending] at running
    rcases ended.released_status (ended.flawless unhalted index inside) with status | status <;>
      simp [running] at status
  have fresh (fresh : run.Fresh) : False := by simp [(fresh.record index).1] at running
  have busy {errand : Errand} (own : run.errand? = some errand)
      (valid : run.AtErrand launched reports errand) :
      index ∈ run.inFlight ∧ index ∈ launched ∨ index ∈ run.starting := by
    cases errand with
    | opening => exact (fresh valid.1).elim
    | dispatching other previous =>
      refine alive valid.1 rfl fun another same => ?_
      simp [starting, own, Option.some.inj same]
    | settling other released halt =>
      obtain ⟨earlier, report, _, _, _, _, live⟩ := valid
      exact alive live rfl (by simp)
    | skipping other rest halt => exact alive valid.2 rfl (by simp)
    | sweeping ending other rest => exact (finished valid.1).elim
    | closing ending => exact (finished valid.1).elim
  unfold Valid at valid
  split at valid
  · exact (fresh valid.1).elim
  · next phase => exact busy (by simp [errand?, phase]) valid
  · next phase => exact busy (by simp [errand?, phase]) valid
  · exact alive valid rfl (by simp)
  · exact (finished valid.1).elim

/-- The step whose start is saved fits in if there was room for it. -/
theorem occupied_le (run : Run) {limit : Nat} (flying : run.inFlight.length ≤ limit)
    (room : run.starting ≠ [] → run.inFlight.length < limit) :
    run.inFlight.length + run.starting.length ≤ limit := by
  cases starts : run.starting with
  | nil => exact flying
  | cons index rest =>
    have single : run.starting.length ≤ 1 := by
      unfold Run.starting
      split <;> simp
    have free := room (by simp [starts])
    rw [starts] at single
    omega

/-- A turn starts the least of the ready steps, or none. -/
inductive Pace (run : Run) (now : Moment) (launched : List Nat) (reports : List StepReport)
    (input : Input) (after : Run) : Prop where
  | stays {phase : Phase} (quiet : run.launching input = []) (stays : run.Stays phase)
    (turned : after = { run with phase := phase })
  | starts {mid : Run} {index : Nat} {rest : List Nat} (calm : Calm (fun _ => True) run mid)
    (live : mid.Live ⟨launched ++ run.launching input, reports, reports, none, none⟩)
    (kept : run.launching input = run.starting) (unhalted : mid.halted = none)
    (ready : mid.ready = index :: rest) (room : mid.inFlight.length < mid.plan.maxConcurrency)
    (turned : after = (mid.dispatch now index rest).run)
  | rests (idle : after.starting = [])
    (kept : after.halted = none → run.launching input = run.starting)
    (running : ∀ index, (after.record index).status = .running →
      (run.record index).status = .running)
    (spent : after.phase = .waiting → after.halted = none →
      after.ready = [] ∨ after.plan.maxConcurrency ≤ after.inFlight.length)

theorem sweep_starting (run : Run) (ending : Ending) (rest : List Nat) :
    (run.sweep ending rest).run.starting = [] ∧ (run.sweep ending rest).run.phase ≠ .waiting := by
  cases rest <;> exact ⟨rfl, by simp [sweep, close, save]⟩

theorem sweep_running (run : Run) (ending : Ending) (rest : List Nat) (index : Nat)
    (running : ((run.sweep ending rest).run.record index).status = .running) :
    (run.record index).status = .running := by
  cases rest with
  | nil => exact running
  | cons first rest =>
    have calm : Calm (fun _ => True) run (run.modifyRecord first fun record =>
        { record with status := .cancelled, finishedAt := some ending.finishedAt }) :=
      modifyRecord_calm run rfl (by simp)
    exact calm.running index running

theorem Route.pace {now : Moment} {input : Input} {turn : Turn} (room : 1 ≤ run.plan.maxConcurrency)
    (route : run.Route now launched reports input turn) :
    run.Pace now launched reports input turn.run := by
  cases route with
  | start phase =>
    refine .rests rfl (fun _ => ?_) (fun _ running => running) (by simp [Run.start, save])
    simp [launching, starting, errand?, phase]
  | stay quiet stays => exact .stays quiet stays rfl
  | @settle report phase live flies =>
    have found := List.getElem?_eq_getElem (live.launchedInside _ (live.flightLaunched _ flies))
    have calm := @settle_calm (fun _ => True) run now report
    simp only [Run.settle, found] at calm ⊢
    refine .rests rfl (fun _ => ?_) calm.running (by simp [save])
    simp [launching, starting, errand?, phase]
  | skip amid passes =>
    exact .rests rfl (fun _ => amid.quiet.trans amid.idle.symm) passes.calm.running
      (by simp [Turn.andThen, save])
  | @sweep _ ending _ rest quiet errand =>
    obtain ⟨idle, awake⟩ := sweep_starting run ending rest
    refine .rests idle (fun _ => ?_) (sweep_running run ending rest) (fun waits => absurd waits awake)
    simp [quiet, starting, errand]
  | @close ending outcome quiet errand =>
    refine .rests rfl (fun _ => ?_) (fun index running => ?_) (by simp [closeDown])
    · simp [quiet, starting, errand]
    · cases outcome <;> exact running
  | @proceed _ between passes _ live _ kept _ =>
    have room : 1 ≤ between.run.plan.maxConcurrency := by rwa [passes.calm.plan]
    have goes := proceed_proceeds room now
    have fixed := between.run.proceed_halted now
    simp only [Turn.andThen]
    generalize between.run.proceed now = last at goes fixed ⊢
    cases goes with
    | dispatch unhalted ready room =>
      exact .starts passes.calm live (kept unhalted) unhalted ready room rfl
    | finish =>
      obtain ⟨idle, awake⟩ := sweep_starting between.run
        ⟨now.wall, now.ticks - between.run.openedAt⟩ between.run.unsettled
      refine .rests idle (fun unhalted => kept (fixed ▸ unhalted)) (fun index running => ?_)
        (fun waits => absurd waits awake)
      exact passes.calm.running index (sweep_running _ _ _ index running)
    | wait _ spent =>
      exact .rests rfl kept passes.calm.running fun _ => spent

/-- What a turn shows on its way runs only what ran before. -/
theorem Route.shown {now : Moment} {input : Input} {turn : Turn}
    (room : 1 ≤ run.plan.maxConcurrency)
    (route : run.Route now launched reports input turn) {snapshot : Execution}
    (member : .publish snapshot ∈ turn.effects) :
    snapshot.running ⊆ run.execution.running := by
  have unpublished (run : Run) (index : Nat) : .publish snapshot ∉ run.stepSettled index := by
    simp [stepSettled, announceStep]
  have unswept (run : Run) (ending : Ending) (rest : List Nat) :
      .publish snapshot ∉ (run.sweep ending rest).effects := by
    cases rest with
    | nil => simp [Run.sweep, Run.close]
    | cons index rest => exact unpublished _ index
  have amid {between : Turn} (passes : run.Between between)
      (shown : .publish snapshot ∈ between.effects) :
      snapshot.running ⊆ run.execution.running := by
    intro index running
    rcases passes.shown snapshot shown with rfl | rfl
    · exact running
    · rw [mem_running] at running ⊢
      exact passes.calm.running index running
  cases route with
  | start => simp [Run.start] at member
  | stay => simp at member
  | @settle report =>
    unfold Run.settle at member
    split at member
    · simp at member
    · exact absurd member (unpublished _ _)
  | @skip _ between index _ _ _ passes =>
    rcases List.mem_append.mp member with early | last
    · exact amid passes early
    · exact absurd last (unpublished _ index)
  | sweep => exact absurd member (unswept run _ _)
  | @close ending outcome =>
    simp only [closeDown, announceExecution, Run.snapshot, List.mem_cons, reduceCtorEq,
      Effect.publish.injEq, List.not_mem_nil, or_false, false_or] at member
    intro index running
    rw [member] at running
    cases outcome <;> exact running
  | @proceed _ between passes =>
    rcases List.mem_append.mp member with early | last
    · exact amid passes early
    · have room : 1 ≤ between.run.plan.maxConcurrency := by rwa [passes.calm.plan]
      have goes := proceed_proceeds room now
      simp only at last
      generalize between.run.proceed now = after at goes last
      cases goes with
      | dispatch => simp [dispatch] at last
      | finish => exact absurd last (unswept between.run _ _)
      | wait => simp at last

/-- The first of the ready steps is the least one. -/
theorem Live.first_ready {ledger : Ledger} (live : run.Live ledger) (unhalted : run.halted = none)
    {index : Nat} {rest : List Nat} (ready : run.ready = index :: rest) :
    (run.record index).status = .ready ∧
      ∀ other, (run.record other).status = .ready → index ≤ other := by
  refine ⟨live.readyStatus index (by simp [ready]), fun other status => ?_⟩
  have sorted := live.readySorted
  have listed := live.readyListed unhalted other status
  rw [ready] at sorted listed
  rcases List.mem_cons.mp listed with rfl | later
  · exact Nat.le_refl other
  · exact Nat.le_of_lt ((List.pairwise_cons.mp sorted).1 other later)

/-- While nothing is in flight, all that was launched is released. -/
theorem Live.launched_released (live : run.Live ⟨launched, reports, reports, none, none⟩)
    (unhalted : run.halted = none) (landed : run.inFlight = []) {index : Nat}
    (member : index ∈ launched) : run.plan.released reports index = true := by
  have reported : index ∈ reports.map StepReport.index := by
    by_contra unreported
    have running := live.launchedRunning index member unreported
    rcases live.runningFlies unhalted index running with flies | begins
    · simp [landed] at flies
    · cases begins
  obtain ⟨report, inside, rfl⟩ := List.mem_map.mp reported
  exact (Plan.released_iff ..).mpr ⟨report, inside, rfl, live.undisturbed unhalted rfl report inside⟩

/-- Launched in order so far, the steps go on with the least ready one. -/
theorem Live.next_ready (wellFormed : run.plan.WellFormed)
    (live : run.Live ⟨launched, reports, reports, none, none⟩) (unhalted : run.halted = none)
    (landed : run.inFlight = []) {index : Nat} {rest : List Nat} (ready : run.ready = index :: rest)
    (ordered : launched = List.range launched.length) : index = launched.length := by
  obtain ⟨status, least⟩ := live.first_ready unhalted ready
  have bound := live.readyInside index (by simp [ready])
  have unlaunched : index ∉ launched := live.unlaunched (.inr (.inl status))
  have after : launched.length ≤ index := by
    rw [ordered, List.mem_range] at unlaunched
    omega
  apply Nat.le_antisymm _ after
  -- the step at this place awaits nothing, so it is ready unless it was launched before
  have inside : launched.length < run.plan.steps.length := by omega
  have found := List.getElem?_eq_getElem inside
  have fresh : launched.length ∉ launched := by
    intro member
    rw [ordered, List.length_range] at member
    simp at member
  have unreported := mt (live.reportedLaunched launched.length) fresh
  have free : run.plan.awaited reports run.plan.steps[launched.length] = 0 := by
    rw [Plan.awaited_eq_zero]
    intro predecessor member
    have earlier := wellFormed.backward found predecessor member
    apply live.launched_released unhalted landed
    rw [ordered]
    exact List.mem_range.mpr earlier
  obtain ⟨_, unsucceeded, unfailed⟩ := live.unresolved _ unreported
  apply least
  cases shown : (run.record launched.length).status with
  | ready => rfl
  | pending =>
    have awaits := live.pendingAwaits unhalted found shown
    exact absurd free (Nat.ne_of_gt awaits)
  | running =>
    rcases live.runningFlies unhalted _ shown with flies | begins
    · simp [landed] at flies
    · cases begins
  | succeeded => exact absurd shown unsucceeded
  | failed => exact absurd shown unfailed
  | skipped =>
    obtain ⟨report, member, blocks, _⟩ := (live.skippedIff _).mp shown
    have releases := live.undisturbed unhalted rfl report member
    rw [Plan.releases_ne_blocks _ releases] at blocks
    cases blocks
  | cancelled => exact absurd (live.cancelledReported _ shown) unreported

end

end Run

namespace Job

def Occurrence.starts (occurrence : Occurrence) : List Nat :=
  occurrence.after.run.execution.running.filter fun index =>
    (occurrence.before.run.record index).status != .running

def starts (past : List Occurrence) : List Nat :=
  past.flatMap Occurrence.starts

/-- There is room for the step, and it is the least of the ready ones. -/
structure Occurrence.Picks (occurrence : Occurrence) (index : Nat) (moment : Run) : Prop where
  calm : Run.Calm (fun _ => True) occurrence.before.run moment
  room : moment.inFlight.length < moment.plan.maxConcurrency
  ready : (moment.record index).status = .ready
  least : ∀ other, (moment.record other).status = .ready → index ≤ other
  started : ∃ rest, occurrence.after.run = (moment.dispatch occurrence.now index rest).run

section

variable {plan : Plan} {executor : Executor} {infraRetry : RetryPolicy} {timeoutMs : Nat}
  {id tenantId : Uuid} {triggerInput : Json} {past : List Occurrence} {job : Job}

theorem starts_concat (past : List Occurrence) (occurrence : Occurrence) :
    starts (past ++ [occurrence]) = starts past ++ occurrence.starts := by
  simp [starts]

theorem Course.pace (wellFormed : plan.WellFormed)
    (course : Course (prepare executor plan infraRetry timeoutMs
      (.pending plan id tenantId triggerInput)) past job) (now : Moment) (input : Input) :
    ∃ answer, job.run.Pace now (launched past) (reports past) answer (job.advance now input).1.run ∧
      job.launching now input = job.run.launching answer := by
  obtain ⟨answer, turn, route, run, _, launches⟩ := course.route wellFormed now input
  have plan : job.run.plan = plan := (course.sound wellFormed).plan
  refine ⟨answer, ?_, launches⟩
  rw [run]
  exact route.pace (plan ▸ wellFormed.room)

/-- An occurrence after which no other step runs starts none. -/
theorem starts_none {now : Moment} {input : Input}
    (running : ∀ index, ((job.advance now input).1.run.record index).status = .running →
      (job.run.record index).status = .running) : Occurrence.starts ⟨job, now, input⟩ = [] := by
  rw [Occurrence.starts, List.filter_eq_nil_iff]
  intro index member
  simp [running index ((Run.mem_running ..).mp member)]

theorem starts_stays {now : Moment} {input : Input} {phase : Run.Phase}
    (turned : (job.advance now input).1.run = { job.run with phase := phase }) :
    Occurrence.starts ⟨job, now, input⟩ = [] := by
  apply starts_none
  intro index
  rw [turned]
  exact fun running => running

/-- An occurrence that dispatches a step starts this step alone. -/
theorem starts_one {start : Job} {now : Moment} {input : Input} {moment : Run} {index : Nat}
    {rest : List Nat} {answer : Run.Input} (sound : Sound start past job)
    (calm : Run.Calm (fun _ => True) job.run moment)
    (live : moment.Live ⟨launched past ++ job.run.launching answer, reports past, reports past,
      none, none⟩)
    (kept : job.run.launching answer = job.run.starting) (unhalted : moment.halted = none)
    (ready : moment.ready = index :: rest)
    (turned : (job.advance now input).1.run = (moment.dispatch now index rest).run) :
    Occurrence.starts ⟨job, now, input⟩ = [index] := by
  obtain ⟨status, _⟩ := live.first_ready unhalted ready
  have bound := live.readyInside index (by simp [ready])
  have written := @Run.record_modifyRecord { moment with ready := rest } index
    (live.recordCount ▸ bound)
    (fun record => { record with status := .running, startedAt := some now.wall })
  have record (other : Nat) : ((job.advance now input).1.run.record other).status =
      if other = index then .running else (moment.record other).status := by
    rw [turned]
    refine (congrArg StepRecord.status (written other)).trans ?_
    split <;> rfl
  -- a step that runs already has been launched, or is launched with this answer
  have fresh : (job.run.record index).status ≠ .running := by
    intro running
    have unhalted := calm.toKeeps.unhalted_before unhalted
    have unlaunched := live.unlaunched (.inr (.inl status))
    rw [kept, List.mem_append, not_or] at unlaunched
    rcases sound.valid.running_flies unhalted running with ⟨_, launched⟩ | begins
    · exact unlaunched.1 launched
    · exact unlaunched.2 begins
  apply List.perm_singleton.mp
  refine (List.perm_ext_iff_of_nodup ((Execution.running_nodup _).filter _)
    (List.nodup_singleton index)).mpr fun other => ?_
  simp only [Occurrence.after, List.mem_filter, Run.mem_running, List.mem_singleton, bne_iff_ne,
    record]
  constructor
  · rintro ⟨runs, new⟩
    split at runs
    · assumption
    · exact absurd (calm.running other runs) new
  · rintro rfl
    exact ⟨if_pos rfl, fresh⟩

/-- What flies and what runs has room, and steps are launched in the order of their starts. -/
structure Orderly (past : List Occurrence) (job : Job) : Prop where
  flying : job.run.inFlight.length ≤ job.run.plan.maxConcurrency
  room : job.run.starting ≠ [] → job.run.inFlight.length < job.run.plan.maxConcurrency
  spent : job.run.phase = .waiting → job.run.halted = none →
    job.run.ready = [] ∨ job.run.plan.maxConcurrency ≤ job.run.inFlight.length
  running : job.run.execution.running.length ≤ job.run.plan.maxConcurrency
  begun : launched past ++ job.run.starting <+: starts past
  even : job.run.halted = none → launched past ++ job.run.starting = starts past

/-- The steps in flight after an input flew before or were launched with it. -/
theorem Sound.flying_after {start : Job} (sound : Sound start past job) (now : Moment)
    (input : Input) : (job.advance now input).1.run.inFlight.length ≤
      job.run.inFlight.length + (job.launching now input).length := by
  have remain := ((job.remaining_sublist now input).map StepTask.index).length_le
  rw [sound.flight] at remain
  rw [sound.inFlight_after, List.length_append]
  omega

/-- A step is launched only if there was room when it was started. -/
theorem Orderly.flying_next {start : Job} (sound : Sound start past job)
    (orderly : Orderly past job) {answer : Run.Input} {now : Moment} {input : Input}
    (launches : job.launching now input = job.run.launching answer) :
    (job.advance now input).1.run.inFlight.length ≤ job.run.plan.maxConcurrency := by
  have flies := sound.flying_after now input
  have flying := orderly.flying
  rw [launches] at flies
  rcases Run.launching_cases job.run answer with quiet | ⟨same, single⟩
  · rw [quiet, List.length_nil] at flies
    omega
  · have room := orderly.room (List.ne_nil_of_length_pos (by omega))
    rw [same] at flies
    omega

/-- While the run has not halted, all that run are in flight or starting. -/
theorem Orderly.running_next {start : Job} (sound : Sound start past job)
    (wellFormed : start.run.plan.WellFormed) (orderly : Orderly past job) {now : Moment}
    {input : Input} (flying : (job.advance now input).1.run.inFlight.length ≤
      job.run.plan.maxConcurrency)
    (room : (job.advance now input).1.run.starting ≠ [] →
      (job.advance now input).1.run.inFlight.length < job.run.plan.maxConcurrency) :
    (job.advance now input).1.run.execution.running.length ≤ job.run.plan.maxConcurrency := by
  by_cases unhalted : (job.advance now input).1.run.halted = none
  · have valid := sound.valid_after wellFormed now input
    generalize (job.advance now input).1.run = after at *
    have listed : after.execution.running ⊆ after.inFlight ++ after.starting := by
      intro index running
      rw [List.mem_append]
      exact (valid.running_flies unhalted ((Run.mem_running ..).mp running)).imp_left And.left
    have fits := after.execution.running_le listed
    rw [List.length_append] at fits
    exact Nat.le_trans fits (after.occupied_le flying room)
  · have still := (sound.advances now input).running unhalted
    refine Nat.le_trans (Execution.running_le _ ?_) orderly.running
    intro index running
    rw [Run.mem_running] at running ⊢
    exact still index running

theorem Orderly.next (wellFormed : plan.WellFormed)
    (course : Course (prepare executor plan infraRetry timeoutMs
      (.pending plan id tenantId triggerInput)) past job) (orderly : Orderly past job)
    (now : Moment) (input : Input) :
    Orderly (past ++ [⟨job, now, input⟩]) (job.advance now input).1 := by
  have sound := course.sound wellFormed
  obtain ⟨answer, pace, launches⟩ := course.pace wellFormed now input
  have flying := orderly.flying_next sound launches
  have running := orderly.running_next sound wellFormed flying
  have fixed : (job.advance now input).1.run.plan = job.run.plan := (sound.advances now input).plan
  have halted (unhalted : (job.advance now input).1.run.halted = none) : job.run.halted = none :=
    (sound.advances now input).unhalted_before unhalted
  have begun := orderly.begun
  have even := orderly.even
  cases pace with
  | @stays phase quiet stays turned =>
    have still := starts_stays turned
    have same : (job.advance now input).1.run.starting = job.run.starting := by
      rw [turned]
      simp only [Run.starting, stays.errand]
    rw [← same] at begun even
    have room : (job.advance now input).1.run.starting ≠ [] →
        (job.advance now input).1.run.inFlight.length < job.run.plan.maxConcurrency := by
      rw [same, turned]
      exact orderly.room
    refine ⟨fixed ▸ flying, fixed ▸ room, ?_, fixed ▸ running room, ?_, ?_⟩
    · rw [turned]
      exact fun waits => orderly.spent (stays.waiting waits)
    · rw [sound.launched_next, starts_concat, still, launches, quiet, List.append_nil,
        List.append_nil]
      exact begun
    · intro unhalted
      rw [sound.launched_next, starts_concat, still, launches, quiet, List.append_nil,
        List.append_nil]
      exact even (halted unhalted)
  | @starts mid index rest calm live kept unhalted ready free turned =>
    have one := starts_one sound calm live kept unhalted ready turned
    have begins : (job.advance now input).1.run.starting = [index] := by
      rw [turned]
      rfl
    have room : (job.advance now input).1.run.inFlight.length < job.run.plan.maxConcurrency := by
      rw [← calm.plan, turned]
      exact free
    have earlier := even (calm.toKeeps.unhalted_before unhalted)
    have equal : launched (past ++ [⟨job, now, input⟩]) ++
        (job.advance now input).1.run.starting = starts (past ++ [⟨job, now, input⟩]) := by
      rw [sound.launched_next, starts_concat, one, begins, launches, kept, earlier]
    refine ⟨fixed ▸ flying, fun _ => fixed ▸ room, ?_, fixed ▸ running fun _ => room, ?_,
      fun _ => equal⟩
    · rw [turned]
      simp [Run.dispatch, Run.save]
    · exact equal ▸ List.prefix_rfl
  | rests idle kept still spent =>
    have none := starts_none still
    refine ⟨fixed ▸ flying, fun begins => absurd idle begins, spent,
      fixed ▸ running fun begins => absurd idle begins, ?_, ?_⟩
    · rw [sound.launched_next, starts_concat, none, launches, idle, List.append_nil,
        List.append_nil]
      rcases Run.launching_cases job.run answer with quiet | ⟨same, _⟩
      · rw [quiet, List.append_nil]
        exact (List.prefix_append ..).trans begun
      · rw [same]
        exact begun
    · intro unhalted
      rw [sound.launched_next, starts_concat, none, launches, idle, kept unhalted,
        List.append_nil, List.append_nil]
      exact even (halted unhalted)

theorem Course.orderly (wellFormed : plan.WellFormed)
    (course : Course (prepare executor plan infraRetry timeoutMs
      (.pending plan id tenantId triggerInput)) past job) : Orderly past job := by
  induction course with
  | start =>
    have unstarted : (prepare executor plan infraRetry timeoutMs
        (.pending plan id tenantId triggerInput)).run.execution.running = [] := by
      rw [List.eq_nil_iff_forall_not_mem]
      intro index running
      have fresh : (prepare executor plan infraRetry timeoutMs
        (.pending plan id tenantId triggerInput)).run.Fresh := ⟨rfl, rfl, rfl, rfl⟩
      rw [Run.mem_running, (fresh.record index).1] at running
      cases running
    refine ⟨Nat.zero_le _, fun begins => absurd rfl begins, by simp [prepare, Run.prepare], ?_,
      List.prefix_rfl, fun _ => rfl⟩
    rw [unstarted]
    exact Nat.zero_le _
  | next course now input inductionHypothesis =>
    exact inductionHypothesis.next wellFormed course now input

/-- With room for one step, those started are the first ones of the plan. -/
theorem Course.starts_ordered (wellFormed : plan.WellFormed) (single : plan.maxConcurrency = 1)
    (course : Course (prepare executor plan infraRetry timeoutMs
      (.pending plan id tenantId triggerInput)) past job) :
    starts past = List.range (starts past).length := by
  induction course with
  | start => rfl
  | @next past job course now input inductionHypothesis =>
    have sound := course.sound wellFormed
    have orderly := course.orderly wellFormed
    have samePlan : job.run.plan = plan := sound.plan
    obtain ⟨answer, pace, _⟩ := course.pace wellFormed now input
    rw [starts_concat]
    cases pace with
    | stays _ _ turned =>
      rwa [starts_stays turned, List.append_nil]
    | @starts mid index rest calm live kept unhalted ready free turned =>
      have earlier := orderly.even (calm.toKeeps.unhalted_before unhalted)
      rw [kept, earlier] at live
      have midPlan : mid.plan = plan := calm.plan.trans samePlan
      have landed : mid.inFlight = [] := by
        rw [midPlan, single] at free
        exact List.length_eq_zero_iff.mp (by omega)
      have next := live.next_ready (midPlan ▸ wellFormed) unhalted landed ready inductionHypothesis
      rw [starts_one sound calm (by rwa [kept, earlier]) kept unhalted ready turned, next,
        List.length_append, List.length_singleton, List.range_succ, ← inductionHypothesis]
    | rests _ _ running =>
      rwa [starts_none running, List.append_nil]

/-- What others see of a job is how it began, or it has been published. -/
theorem Course.snapshot_published {start : Job} (course : Course start past job) :
    job.snapshot = start.snapshot ∨
      ∃ occurrence ∈ past, .publish job.snapshot ∈ occurrence.effects := by
  induction course with
  | start => exact .inl rfl
  | @next past job course now input inductionHypothesis =>
    have seen := snapshot_after job now input
    cases last : ((job.advance now input).2.filterMap Effect.snapshot?).getLast? with
    | none =>
      rw [last, Option.getD_none] at seen
      rw [seen]
      refine inductionHypothesis.imp_right fun ⟨occurrence, member, published⟩ => ?_
      exact ⟨occurrence, List.mem_append_left _ member, published⟩
    | some snapshot =>
      rw [last, Option.getD_some] at seen
      obtain ⟨effect, member, shows⟩ := List.mem_filterMap.mp (List.mem_of_getLast? last)
      refine .inr ⟨⟨job, now, input⟩, List.mem_append_right _ (List.mem_singleton_self _), ?_⟩
      rw [seen]
      cases effect with
      | publish shown =>
        cases shows
        exact member
      | _ => cases shows

theorem Course.published_running (wellFormed : plan.WellFormed)
    (course : Course (prepare executor plan infraRetry timeoutMs
      (.pending plan id tenantId triggerInput)) past job) {occurrence : Occurrence}
    (member : occurrence ∈ past) {snapshot : Execution}
    (published : .publish snapshot ∈ occurrence.effects) :
    snapshot.running.length ≤ plan.maxConcurrency := by
  obtain ⟨earlier, later, listed⟩ := List.append_of_mem member
  have before := course.upTo listed
  have samePlan : occurrence.before.run.plan = plan := (before.sound wellFormed).plan
  obtain ⟨_, turn, route, _, effects, _⟩ :=
    before.route wellFormed occurrence.now occurrence.input
  rw [Occurrence.effects, effects] at published
  have shown := route.shown (samePlan ▸ wellFormed.room) published
  have bounded := (before.orderly wellFormed).running
  rw [samePlan] at bounded
  exact Nat.le_trans (snapshot.running_le shown) bounded

/-- Every step that is started is picked as the least of the ready ones. -/
theorem Course.starts_picked (wellFormed : plan.WellFormed)
    (course : Course (prepare executor plan infraRetry timeoutMs
      (.pending plan id tenantId triggerInput)) past job) {occurrence : Occurrence}
    (member : occurrence ∈ past) {index : Nat} (started : index ∈ occurrence.starts) :
    ∃ moment, occurrence.Picks index moment := by
  obtain ⟨earlier, later, listed⟩ := List.append_of_mem member
  have before := course.upTo listed
  obtain ⟨before, now, input⟩ := occurrence
  obtain ⟨answer, pace, _⟩ := before.pace wellFormed now input
  cases pace with
  | stays _ _ turned =>
    rw [starts_stays turned] at started
    cases started
  | @starts moment first rest calm live kept unhalted ready room turned =>
    rw [starts_one (before.sound wellFormed) calm live kept unhalted ready turned,
      List.mem_singleton] at started
    obtain ⟨status, least⟩ := live.first_ready unhalted ready
    subst started
    exact ⟨moment, calm, room, status, least, rest, turned⟩
  | rests _ _ running =>
    rw [starts_none running] at started
    cases started

/-- With room for one step, a run that ends without a halt has started all. -/
theorem Course.starts_all (wellFormed : plan.WellFormed) (single : plan.maxConcurrency = 1)
    (course : Course (prepare executor plan infraRetry timeoutMs
      (.pending plan id tenantId triggerInput)) past job) (closed : job.run.phase = .closed)
    (unhalted : job.run.halted = none) : starts past = List.range plan.steps.length := by
  have sound := course.sound wellFormed
  have ordered := course.starts_ordered wellFormed single
  have even := (course.orderly wellFormed).even unhalted
  have idle : job.run.starting = [] := by simp [Run.starting, Run.errand?, closed]
  have samePlan : job.run.plan = plan := sound.plan
  have valid := sound.valid
  simp only [Run.Valid, closed] at valid
  obtain ⟨ended, _⟩ := valid
  rw [idle, List.append_nil] at even
  have inside (index : Nat) : index < (starts past).length ↔ index < plan.steps.length := by
    rw [← samePlan]
    constructor
    · intro listed
      apply ended.launchedInside
      show index ∈ launched past
      rw [even, ordered]
      exact List.mem_range.mpr listed
    · intro bound
      obtain ⟨report, member, rfl, _⟩ :=
        (Plan.released_iff ..).mp (ended.flawless unhalted index bound)
      have launched : report.index ∈ launched past :=
        ended.reportedLaunched _ (List.mem_map_of_mem member)
      rw [even, ordered] at launched
      exact List.mem_range.mp launched
  have upper := inside (starts past).length
  have lower := inside plan.steps.length
  rw [ordered]
  congr 1
  omega

/-- The least ready step starts as long as there is room. -/
structure Greedy (plan : Plan) (past : List Occurrence) (job : Job) : Prop where
  running : job.run.execution.running.length ≤ plan.maxConcurrency
  seen : job.snapshot.running.length ≤ plan.maxConcurrency
  published : ∀ occurrence ∈ past, ∀ snapshot, .publish snapshot ∈ occurrence.effects →
    snapshot.running.length ≤ plan.maxConcurrency
  begun : launched past <+: starts past
  least : ∀ occurrence ∈ past, ∀ index ∈ occurrence.starts, ∃ moment, occurrence.Picks index moment
  conserving : job.run.phase = .waiting → job.run.halted = none →
    job.tasks.length = plan.maxConcurrency ∨ ∀ index, (job.run.record index).status ≠ .ready
  ordered : plan.maxConcurrency = 1 → starts past = List.range (starts past).length
  complete : plan.maxConcurrency = 1 → job.run.phase = .closed → job.run.halted = none →
    starts past = List.range plan.steps.length

end

/-- Steps start within the room of the plan, the least one first. -/
theorem dispatch_greedy {compiler : Compiler} {definition : Definition} {plan : Plan}
    (compiled : compiler.compile definition = .ok plan) {executor : Executor}
    {infraRetry : RetryPolicy} {timeoutMs : Nat} {id tenantId : Uuid} {triggerInput : Json}
    {past : List Occurrence} {job : Job}
    (course : Course (prepare executor plan infraRetry timeoutMs
      (.pending plan id tenantId triggerInput)) past job) : Greedy plan past job := by
  have wellFormed := Compiler.compile_wellFormed compiled
  have sound := course.sound wellFormed
  have orderly := course.orderly wellFormed
  have samePlan : job.run.plan = plan := sound.plan
  refine ⟨samePlan ▸ orderly.running, ?_, ?_, ?_, ?_, ?_, ?_, ?_⟩
  · rcases course.snapshot_published with unseen | ⟨occurrence, member, published⟩
    · have first : Orderly [] (prepare executor plan infraRetry timeoutMs
        (.pending plan id tenantId triggerInput)) := Course.start.orderly wellFormed
      rw [unseen]
      exact first.running
    · exact course.published_running wellFormed member published
  · exact fun occurrence member snapshot published =>
      course.published_running wellFormed member published
  · exact (List.prefix_append ..).trans orderly.begun
  · exact fun occurrence member index started => course.starts_picked wellFormed member started
  · intro waits unhalted
    have flying := orderly.flying
    have valid := sound.valid
    simp only [Run.Valid, waits] at valid
    rw [← List.length_map StepTask.index, sound.flight, ← samePlan]
    rcases orderly.spent waits unhalted with empty | full
    · right
      intro index ready
      have listed := valid.readyListed unhalted index ready
      rw [empty] at listed
      cases listed
    · left
      omega
  · exact fun single => course.starts_ordered wellFormed single
  · exact fun single closed unhalted => course.starts_all wellFormed single closed unhalted

end Job

/-- These two steps depend on nothing, but there is room for one of them only. -/
def Definition.twins : Definition :=
  { id := .nil
    name := "twins"
    nodes := [{ id := "first", nodeType := "passthrough" },
      { id := "second", nodeType := "passthrough" }]
    edges := []
    settings := { maxConcurrency := some 1 }
    createdAt := ⟨0, 0⟩ }

def Plan.twins : Plan :=
  Compiler.passthrough.plan .twins ["first", "second"]

theorem Plan.twins_compiled : Compiler.passthrough.compile .twins = .ok .twins := by
  decide +kernel

namespace Job

/-- The first of the twins flies while the second one is ready. -/
def waitingTwins : List Occurrence × Job :=
  replay [] (prepare ⟨"executor", .builtin⟩ .twins .standard 1000 (.pending .twins .nil .nil .null))
    (atOnce [.opened, .saved (.ok ()), .saved (.ok ())])

/-- The waiting run of the twins has as many steps in flight as there is room for. -/
theorem twins_dispatch_greedy :
    (waitingTwins.2.run.record 1).status = .ready ∧ waitingTwins.2.tasks.length = 1 ∧
      starts waitingTwins.1 = List.range 1 ∧ Greedy .twins waitingTwins.1 waitingTwins.2 := by
  have ready : (waitingTwins.2.run.record 1).status = .ready := by decide +kernel
  have greedy := dispatch_greedy Plan.twins_compiled (Course.start.replay _ :
    Course (prepare ⟨"executor", .builtin⟩ .twins .standard 1000 (.pending .twins .nil .nil .null))
      waitingTwins.1 waitingTwins.2)
  have count : (starts waitingTwins.1).length = 1 := by decide +kernel
  refine ⟨ready, ?_, count ▸ greedy.ordered (by decide +kernel), greedy⟩
  have waits : waitingTwins.2.run.phase = .waiting := by decide +kernel
  have unhalted : waitingTwins.2.run.halted = none := by decide +kernel
  exact (greedy.conserving waits unhalted).resolve_right fun unready => unready 1 ready

end Job

end WorkflowEngine
