/-
This file proves when a request to stop an execution takes effect, be it a cancellation or the end of
its time. A run hears of a request only while it waits, and from then on no step starts. Until then
steps may still start, between two waits at most as many as there is room for.
-/

import WorkflowEngine.Proofs.Execution.Dispatch
import WorkflowEngine.Proofs.Execution.TerminalStatus

namespace WorkflowEngine.Job

/-- A stop is due once it is called for, or once the time is over. -/
def Occurrence.Due (occurrence : Occurrence) : Prop :=
  occurrence.before.cancelRequested = true ∨
    occurrence.before.run.phase ≠ .unopened ∧ occurrence.before.deadline ≤ occurrence.now.ticks

instance (occurrence : Occurrence) : Decidable occurrence.Due :=
  inferInstanceAs (Decidable (_ ∨ _))

/-- A course is quiet if no step starts while a request to stop is due. -/
def Quiet (past : List Occurrence) : Prop :=
  ∀ occurrence ∈ past, occurrence.Due → occurrence.starts = []

instance (past : List Occurrence) : Decidable (Quiet past) :=
  inferInstanceAs (Decidable (∀ occurrence ∈ past, _))

/-- The execution is cancelled while its opening is saved again. -/
def askedPair : List Occurrence × Job :=
  replay [] ofPair (atOnce [.opened, .saved (.error (.unavailable "down")), .cancelRequested,
    .rested, .saved (.ok ())])

/-- The save of the opening lasts until the time of the execution is over. -/
def overduePair : List Occurrence × Job :=
  replay [] ofPair [(⟨⟨0, 0⟩, 0⟩, .opened), (⟨⟨1, 0⟩, 1000⟩, .saved (.ok ()))]

/-- Steps may start after the execution is cancelled, and after its time is over. -/
theorem unheard_requests :
    (Course ofPair askedPair.1 askedPair.2 ∧ ¬Quiet askedPair.1) ∧
      (Course ofPair overduePair.1 overduePair.2 ∧ ¬Quiet overduePair.1) :=
  ⟨⟨Course.start.replay _, by decide +kernel⟩, ⟨Course.start.replay _, by decide +kernel⟩⟩

/-- A waiting run halts for this reason as it heeds a request. -/
def Occurrence.heeds? (occurrence : Occurrence) : Option Halt :=
  match occurrence.before.run.phase, occurrence.answer? with
  | .waiting, some .cancelled => some .cancelled
  | .waiting, some .expired => some (.failed .executionTimeout)
  | _, _ => none

section

variable {start job : Job} {past : List Occurrence} {now : Moment} {input : Input}

theorem starts_append (past later : List Occurrence) :
    starts (past ++ later) = starts past ++ starts later := by
  simp [starts]

/-- A request that a run heeds was due, and it halts the run. -/
theorem heeds_halts {halt : Halt} (heeds : Occurrence.heeds? ⟨job, now, input⟩ = some halt) :
    Occurrence.Due ⟨job, now, input⟩ ∧ (job.advance now input).1.run.halted = some halt := by
  have run := run_after job now input
  unfold Occurrence.heeds? Occurrence.answer? at heeds
  have halts (unhalted : job.run.halted = none) (halt : Halt) :
      ((job.run.halt halt).run.proceed now).run.halted = some halt := by
    rw [Run.proceed_halted]
    simp [Run.halt, unhalted]
  split at heeds
  · next phase answered =>
    dsimp only at phase answered
    cases heeds
    cases answers_of_answer answered with
    | cancelled hears =>
      simp only [hearsCancel, Bool.and_eq_true, Option.isNone_iff_eq_none] at hears
      refine ⟨.inl hears.1, ?_⟩
      rw [run, answered]
      simp only [Run.advance, phase]
      exact halts hears.2 _
  · next phase answered =>
    dsimp only at phase answered
    cases heeds
    cases answers_of_answer answered with
    | expired hears =>
      simp only [hearsDeadline, Bool.and_eq_true, decide_eq_true_eq,
        Option.isNone_iff_eq_none] at hears
      refine ⟨.inr ⟨by simp [phase], hears.1⟩, ?_⟩
      rw [run, answered]
      simp only [Run.advance, phase]
      exact halts hears.2 _
  · cases heeds

/-- A step starts only with the answer to a save, and only in a run that does not halt. -/
theorem Sound.starts_saved (sound : Sound start past job)
    (started : Occurrence.starts ⟨job, now, input⟩ ≠ []) :
    (∃ errand failures, job.run.phase = .saving errand failures) ∧
      (∃ outcome, input = .saved outcome) ∧ (job.advance now input).1.run.halted = none := by
  have unhalted : (job.advance now input).1.run.halted = none := by
    by_contra halted
    exact started (starts_none ((sound.advances now input).running halted))
  have run := run_after job now input
  cases answered : job.answer? now input with
  | none =>
    rw [answered] at run
    refine absurd (starts_none fun index => ?_) started
    rw [run]
    exact fun running => running
  | some answer =>
    rw [answered] at run
    dsimp only at run
    have takes := job.run.advance_takes now answer
    have still (running : ∀ index,
        ((job.run.advance now answer).run.record index).status = .running →
          (job.run.record index).status = .running) : False :=
      started (starts_none (run ▸ running))
    have goes := run ▸ unhalted
    have halts {before : Run} {halt : Halt}
        (goes : ((before.halt halt).run.proceed now).run.halted = none) : False := by
      rw [Run.proceed_halted] at goes
      exact Run.halt_halted before halt goes
    generalize job.run.advance now answer = turn at takes still goes
    cases takes with
    | @saved errand failures outcome phase =>
      cases answers_of_answer answered
      exact ⟨⟨errand, failures, phase⟩, ⟨outcome, rfl⟩, unhalted⟩
    | opened => exact (still fun _ running => running).elim
    | rested => exact (still fun _ running => running).elim
    | reported =>
      have calm := @Run.settle_calm (fun _ => True)
      exact (still (calm job.run now _).running).elim
    | lost => exact (halts goes).elim
    | cancelled => exact (halts goes).elim
    | expired => exact (halts goes).elim
    | idle => exact (still fun _ running => running).elim

/-- A run that has halted after an occurrence has halted after all that follows. -/
theorem Course.halted_onward (course : Course start past job)
    (sound : ∀ past job, Course start past job → Sound start past job)
    {earlier later : List Occurrence} {occurrence : Occurrence}
    (listed : past = earlier ++ occurrence :: later) {halt : Halt}
    (halted : occurrence.after.run.halted = some halt) :
    ∀ other ∈ occurrence :: later, other.after.run.halted = some halt := by
  intro other member
  rcases List.mem_cons.mp member with rfl | member
  · exact halted
  · obtain ⟨front, back, rfl⟩ := List.append_of_mem member
    have before := course.upTo (listed.trans (by simp) :
      past = (earlier ++ occurrence :: front) ++ other :: back)
    have kept := before.halted_mono sound (by simp) halted
    exact ((sound _ _ before).advances other.now other.input).halted_mono kept

/-- From the first halt on no step starts. -/
theorem Course.starts_halted (course : Course start past job)
    (sound : ∀ past job, Course start past job → Sound start past job)
    {earlier later : List Occurrence} {occurrence : Occurrence}
    (listed : past = earlier ++ occurrence :: later) {halt : Halt}
    (halted : occurrence.after.run.halted = some halt) : starts (occurrence :: later) = [] := by
  rw [starts, List.flatMap_eq_nil_iff]
  intro other member
  by_contra started
  obtain ⟨before, reached⟩ := course.before (listed ▸ List.mem_append_right earlier member)
  have unhalted := ((sound _ _ reached).starts_saved started).2.2
  have still := course.halted_onward sound listed halted other member
  rw [Occurrence.after, unhalted] at still
  cases still

end

section

variable {plan : Plan} {executor : Executor} {infraRetry : RetryPolicy} {timeoutMs : Nat}
  {id tenantId : Uuid} {triggerInput : Json} {past earlier later : List Occurrence} {job : Job}
  {occurrence : Occurrence}

/-- No step comes down while the run does not wait. -/
theorem landed_awake (awake : ∀ other ∈ past, other.before.run.phase ≠ .waiting) :
    landed past = [] := by
  rw [landed, List.flatMap_eq_nil_iff]
  intro other member
  have phase := awake other member
  unfold Occurrence.landed
  split
  · next waits _ => exact absurd waits phase
  · next waits _ => exact absurd waits phase
  · rfl

/-- Between two waits a run that has not halted starts only what it has room for. -/
theorem Course.starts_fit (wellFormed : plan.WellFormed)
    (course : Course (prepare executor plan infraRetry timeoutMs
      (.pending plan id tenantId triggerInput)) past job)
    (listed : past = earlier ++ occurrence :: later)
    (awake : ∀ other ∈ occurrence :: later, other.before.run.phase ≠ .waiting)
    (unhalted : job.run.halted = none) :
    (starts (occurrence :: later)).length ≤ plan.maxConcurrency := by
  have sound := course.sound wellFormed
  have before := course.upTo listed
  have orderly := course.orderly wellFormed
  have samePlan : job.run.plan = plan := sound.plan
  have unhaltedBefore : occurrence.before.run.halted = none := by
    cases halted : occurrence.before.run.halted with
    | none => rfl
    | some halt =>
      have after := ((before.sound wellFormed).advances occurrence.now
        occurrence.input).halted_mono halted
      have stays := course.halted_mono (fun _ _ course => course.sound wellFormed)
        (listed ▸ List.mem_append_right _ List.mem_cons_self) after
      rw [unhalted] at stays
      cases stays
  -- nothing lands, so what is launched is in flight at the end
  have begun := congrArg List.length ((before.orderly wellFormed).even unhaltedBefore)
  have ends := congrArg List.length (orderly.even unhalted)
  have flew := (before.paced wellFormed).accounts.length_eq
  have flies := (course.paced wellFormed).accounts.length_eq
  have fits := job.run.occupied_le orderly.flying orderly.room
  rw [samePlan] at fits
  rw [listed, landed_append, landed_awake awake, launched_append] at flies
  rw [listed, launched_append, starts_append] at ends
  simp only [List.length_append, List.length_nil] at begun ends flew flies
  omega

/-- Between two waits a run starts only what it has room for. -/
theorem Course.starts_few (wellFormed : plan.WellFormed)
    (course : Course (prepare executor plan infraRetry timeoutMs
      (.pending plan id tenantId triggerInput)) past job)
    (listed : past = earlier ++ occurrence :: later)
    (awake : ∀ other ∈ occurrence :: later, other.before.run.phase ≠ .waiting) :
    (starts (occurrence :: later)).length ≤ plan.maxConcurrency := by
  induction course generalizing later with
  | start => simp at listed
  | @next past job course now input inductionHypothesis =>
    by_cases unhalted : (job.advance now input).1.run.halted = none
    · exact (course.next now input).starts_fit wellFormed listed awake unhalted
    · have still : Occurrence.starts ⟨job, now, input⟩ = [] :=
        starts_none (((course.sound wellFormed).advances now input).running unhalted)
      rcases List.eq_nil_or_concat later with rfl | ⟨front, last, rfl⟩
      · obtain ⟨rfl, same⟩ := List.append_inj' listed rfl
        cases same
        simp [starts, still]
      · rw [List.concat_eq_append, ← List.cons_append, ← List.append_assoc] at listed
        obtain ⟨shorter, same⟩ := List.append_inj' listed rfl
        cases same
        have fewer := inductionHypothesis shorter fun other member => awake other (by
          rw [List.concat_eq_append, ← List.cons_append]
          exact List.mem_append_left _ member)
        rw [List.concat_eq_append, ← List.cons_append, starts_concat, still, List.append_nil]
        exact fewer

/-- Steps start only between two waits, and no more than there is room for. -/
structure Heedful (plan : Plan) (past : List Occurrence) (job : Job) : Prop where
  heeded : ∀ earlier occurrence later halt, past = earlier ++ occurrence :: later →
    occurrence.heeds? = some halt →
      occurrence.Due ∧ starts (occurrence :: later) = [] ∧ job.run.halted = some halt
  late : ∀ occurrence ∈ past, occurrence.starts ≠ [] →
    (∃ errand failures, occurrence.before.run.phase = .saving errand failures) ∧
      (∃ outcome, occurrence.input = .saved outcome) ∧ occurrence.after.run.halted = none
  few : ∀ earlier occurrence later, past = earlier ++ occurrence :: later →
    (∀ other ∈ occurrence :: later, other.before.run.phase ≠ .waiting) →
      (starts (occurrence :: later)).length ≤ plan.maxConcurrency
  audible : job.run.phase = .waiting → job.run.halted = none → ∀ now : Moment,
    (job.cancelRequested = true →
      Occurrence.heeds? ⟨job, now, .cancelNoticed⟩ = some .cancelled) ∧
    (job.deadline ≤ now.ticks →
      Occurrence.heeds? ⟨job, now, .expired⟩ = some (.failed .executionTimeout))

end

/-- A request to stop takes effect as the run heeds it. -/
theorem stops_when_heeded {compiler : Compiler} {definition : Definition} {plan : Plan}
    (compiled : compiler.compile definition = .ok plan) {executor : Executor}
    {infraRetry : RetryPolicy} {timeoutMs : Nat} {id tenantId : Uuid} {triggerInput : Json}
    {past : List Occurrence} {job : Job}
    (course : Course (prepare executor plan infraRetry timeoutMs
      (.pending plan id tenantId triggerInput)) past job) : Heedful plan past job := by
  have wellFormed := Compiler.compile_wellFormed compiled
  have sound (past : List Occurrence) (job : Job) (course : Course (prepare executor plan
      infraRetry timeoutMs (.pending plan id tenantId triggerInput)) past job) :=
    course.sound wellFormed
  refine ⟨?_, ?_, ?_, ?_⟩
  · intro earlier occurrence later halt listed heeds
    obtain ⟨due, halts⟩ := heeds_halts heeds
    refine ⟨due, course.starts_halted sound listed halts, ?_⟩
    exact course.halted_mono sound (listed ▸ List.mem_append_right _ List.mem_cons_self) halts
  · intro occurrence member started
    obtain ⟨_, before⟩ := course.before member
    exact (sound _ _ before).starts_saved started
  · exact fun earlier occurrence later listed awake => course.starts_few wellFormed listed awake
  · intro waits unhalted now
    constructor
    · intro requested
      have hears : job.hearsCancel = true := by simp [hearsCancel, requested, unhalted]
      simp [Occurrence.heeds?, Occurrence.answer?, answer?, waits, hears]
    · intro elapsed
      have hears : job.hearsDeadline now = true := by simp [hearsDeadline, elapsed, unhalted]
      simp [Occurrence.heeds?, Occurrence.answer?, answer?, waits, hears]

/-- The pair is cancelled while its first step is in flight. -/
def heededPair : List Occurrence × Job :=
  replay [] ofPair (atOnce [.opened, .saved (.ok ()), .saved (.ok ()), .cancelRequested,
    .cancelNoticed, .attemptEnded 0 (.succeeded .null), .joined 0, .saved (.ok ())])

theorem heeded_stops_when_heeded :
    heededPair.1.filterMap Occurrence.heeds? = [.cancelled] ∧ starts heededPair.1 = [0] ∧
      Heedful .pair heededPair.1 heededPair.2 := by
  refine ⟨by decide +kernel, by decide +kernel, ?_⟩
  exact stops_when_heeded Plan.pair_compiled
    (Course.start.replay _ : Course ofPair heededPair.1 heededPair.2)

end WorkflowEngine.Job
