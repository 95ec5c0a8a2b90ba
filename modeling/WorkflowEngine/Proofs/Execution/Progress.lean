/-
This file proves that no course gets stuck. A run that has started all it can waits for a step in
flight or comes to its end, and each wait is paid for by a step that lands or by the only halt.
-/

import WorkflowEngine.Proofs.Execution.Counters
import WorkflowEngine.Proofs.Execution.Poise
import WorkflowEngine.Proofs.Execution.Soundness

namespace WorkflowEngine

namespace Run

/-- These are the answers that end a wait. -/
def Input.wakes : Input → Bool
  | .reported _ => true
  | .lost _ _ => true
  | .cancelled => true
  | .expired => true
  | _ => false

/-- A finalized run saves its verdict or has done so. -/
def Finalized (run : Run) : Prop :=
  run.phase = .closed ∨ ∃ ending, run.errand? = some (.closing ending)

/-- A dispatched run has started all that it can: it waits, sweeps up, or is finalized. -/
def Dispatched (run : Run) : Prop :=
  run.phase = .waiting ∨ run.Finalized ∨
    ∃ ending index rest, run.errand? = some (.sweeping ending index rest)

/-- All steps of a finalized run have settled. -/
theorem Finalized.settled {run : Run} {launched : List Nat} {reports : List StepReport}
    (finalized : run.Finalized) (valid : run.Valid launched reports) :
    ∀ index < run.plan.steps.length, (run.record index).status.isSettled = true := by
  have sweeps : run.Sweeps [] := by
    unfold Valid at valid
    rcases finalized with closed | ⟨ending, errand⟩
    · rw [closed] at valid
      exact valid.2
    · unfold errand? at errand
      split at errand
      · next phase =>
        cases errand
        rw [phase] at valid
        exact valid.2
      · next phase =>
        cases errand
        rw [phase] at valid
        exact valid.2
      · cases errand
  exact fun index bound => sweeps.settled index bound (by simp)

end Run

namespace Job

/-- An occurrence wakes the run if it ends its wait. -/
def Occurrence.wakes (occurrence : Occurrence) : Bool :=
  decide (occurrence.before.run.phase = .waiting) && occurrence.answer?.any Run.Input.wakes

def Occurrence.landed (occurrence : Occurrence) : List Nat :=
  match occurrence.before.run.phase, occurrence.answer? with
  | .waiting, some (.reported report) => [report.index]
  | .waiting, some (.lost index _) => [index]
  | _, _ => []

def landed (past : List Occurrence) : List Nat :=
  past.flatMap Occurrence.landed

/-- A wait that may still last is counted. -/
def waits (past : List Occurrence) (job : Job) : Nat :=
  past.countP Occurrence.wakes + if job.run.phase = .waiting then 1 else 0

section

variable {start job : Job} {past : List Occurrence} {now : Moment} {input : Input}

theorem landed_append (past later : List Occurrence) :
    landed (past ++ later) = landed past ++ landed later := by
  simp [landed]

theorem Sound.launched_next (sound : Sound start past job) (now : Moment) (input : Input) :
    launched (past ++ [⟨job, now, input⟩]) = launched past ++ job.launching now input := by
  rw [launched_append, ← effects_launched sound.valid now input]
  simp [launched, Occurrence.effects]

theorem Sound.inFlight_after (sound : Sound start past job) (now : Moment) (input : Input) :
    (job.advance now input).1.run.inFlight =
      (job.remaining now input).map StepTask.index ++ job.launching now input := by
  rw [← sound.flight_after, tasks_after sound.valid, List.map_append, touched_index,
    newTasks_index]

/-- What lands was in flight before. -/
theorem Sound.landed_remaining (sound : Sound start past job) (now : Moment) (input : Input) :
    (Occurrence.landed ⟨job, now, input⟩ ++
      (job.remaining now input).map StepTask.index).Perm job.run.inFlight := by
  rw [sound.remaining_flight]
  cases answered : job.answer? now input with
  | none => simp [Occurrence.landed, Occurrence.answer?, answered]
  | some answer =>
    cases answers_of_answer answered with
    | joined phase found ended =>
      have flies := (sound.flies answered _ rfl).2
      simp only [Occurrence.landed, Occurrence.answer?, answered, phase, Run.aloft]
      exact (List.perm_cons_erase flies).symm
    | @died task index detail phase found unended =>
      have flies : index ∈ job.run.inFlight := by
        rw [← sound.flight, ← (mem_of_task found).2]
        exact List.mem_map_of_mem (mem_of_task found).1
      simp only [Occurrence.landed, Occurrence.answer?, answered, phase, Run.aloft]
      exact (List.perm_cons_erase flies).symm
    | _ => simp [Occurrence.landed, Occurrence.answer?, answered, Run.aloft]

/-- Every step that was launched has landed or is still in flight. -/
theorem Sound.accounts_next (sound : Sound start past job)
    (accounts : (landed past ++ job.run.inFlight).Perm (launched past)) (now : Moment)
    (input : Input) : (landed (past ++ [⟨job, now, input⟩]) ++
      (job.advance now input).1.run.inFlight).Perm (launched (past ++ [⟨job, now, input⟩])) := by
  rw [landed_append, sound.inFlight_after, sound.launched_next]
  have last : landed [⟨job, now, input⟩] = Occurrence.landed ⟨job, now, input⟩ := by simp [landed]
  rw [last, List.append_assoc, ← List.append_assoc (Occurrence.landed _), ← List.append_assoc]
  exact (((sound.landed_remaining now input).append_left _).trans accounts).append_right _

/-- A wait ends with a step that lands or with a halt of a run that had none. -/
theorem wakes_cases (wakes : Occurrence.wakes ⟨job, now, input⟩ = true) :
    (∃ index, Occurrence.landed ⟨job, now, input⟩ = [index]) ∨
      (job.run.halted = none ∧ (job.advance now input).1.run.halted ≠ none ∧
        Occurrence.landed ⟨job, now, input⟩ = []) := by
  simp only [Occurrence.wakes, Occurrence.answer?, Bool.and_eq_true, decide_eq_true_eq] at wakes
  obtain ⟨phase, ends⟩ := wakes
  have halts {halt : Halt} : ((job.run.halt halt).run.proceed now).run.halted ≠ none := by
    rw [Run.proceed_halted]
    exact Run.halt_halted job.run halt
  have run := run_after job now input
  cases answered : job.answer? now input with
  | none => simp [answered] at ends
  | some answer =>
    simp only [answered] at run
    simp only [Occurrence.landed, Occurrence.answer?, answered, phase]
    cases answers_of_answer answered with
    | joined => exact .inl ⟨_, rfl⟩
    | died => exact .inl ⟨_, rfl⟩
    | cancelled hears =>
      have unhalted : job.run.halted = none := by
        simp only [hearsCancel, Bool.and_eq_true, Option.isNone_iff_eq_none] at hears
        exact hears.2
      refine .inr ⟨unhalted, ?_, rfl⟩
      rw [run]
      simp only [Run.advance, phase]
      exact halts
    | expired hears =>
      have unhalted : job.run.halted = none := by
        simp only [hearsDeadline, Bool.and_eq_true, Option.isNone_iff_eq_none] at hears
        exact hears.2
      refine .inr ⟨unhalted, ?_, rfl⟩
      rw [run]
      simp only [Run.advance, phase]
      exact halts
    | _ => simp [answered, Run.Input.wakes] at ends

/-- The steps that have landed pay for the waits that have ended. -/
theorem Sound.paid_next (sound : Sound start past job)
    (paid : past.countP Occurrence.wakes + (if job.run.halted = none then 1 else 0) ≤
      (landed past).length + 1) (now : Moment) (input : Input) :
    (past ++ [(⟨job, now, input⟩ : Occurrence)]).countP Occurrence.wakes +
        (if (job.advance now input).1.run.halted = none then 1 else 0) ≤
      (landed (past ++ [⟨job, now, input⟩])).length + 1 := by
  have last : landed [⟨job, now, input⟩] = Occurrence.landed ⟨job, now, input⟩ := by simp [landed]
  have still : (if (job.advance now input).1.run.halted = none then 1 else 0) ≤
      if job.run.halted = none then 1 else 0 := by
    cases halted : job.run.halted with
    | none =>
      split
      · exact Nat.le_refl 1
      · exact Nat.zero_le 1
    | some halt => simp [(sound.advances now input).halted_mono halted]
  rw [List.countP_append, landed_append, last, List.length_append, List.countP_singleton]
  by_cases wakes : Occurrence.wakes ⟨job, now, input⟩ = true
  · rcases wakes_cases wakes with ⟨index, lands⟩ | ⟨unhalted, halted, lands⟩
    · rw [lands, if_pos wakes, List.length_singleton]
      omega
    · rw [lands, if_pos wakes, if_neg halted, List.length_nil]
      rw [if_pos unhalted] at paid
      omega
  · rw [if_neg wakes]
    omega

end

/-- A job never waits in vain, and its counters are exact. -/
structure Progresses (plan : Plan) (past : List Occurrence) (job : Job) : Prop where
  flying : job.run.phase = .waiting → job.run.inFlight ≠ []
  finished : job.run.Dispatched → job.run.halted = none → job.run.inFlight = [] →
    job.run.Finalized ∧ ∀ index < plan.steps.length, (job.run.record index).status.isSettled = true
  bounded : waits past job ≤ plan.steps.length + 1
  spent : ∀ earlier occurrence later, past = earlier ++ occurrence :: later →
    occurrence.wakes = true →
      (∃ index ∈ occurrence.before.run.inFlight,
        (∀ other ∈ later, index ∉ other.before.run.inFlight) ∧ index ∉ job.run.inFlight) ∨
      (occurrence.before.run.halted = none ∧ occurrence.after.run.halted ≠ none)
  counted : ∀ (index : Nat) (step : PlanStep), plan.steps[index]? = some step →
    job.run.waitingOn[index]? = some (plan.awaited (job.run.spread (reports past)) step)
  unsaturated : ∀ index halt failures outcome,
    job.run.phase = .saving (.settling index true halt) failures →
      (job.run.checkSave "saving step" outcome).run.releaseSuccessors? index =
        some ((job.run.checkSave "saving step" outcome).run.releaseSuccessors index)

section

variable {plan : Plan} {executor : Executor} {infraRetry : RetryPolicy} {timeoutMs : Nat}
  {id tenantId : Uuid} {triggerInput : Json} {past : List Occurrence} {job : Job}

/-- No wait is vain, counters are exact, and the steps that landed pay for the waits. -/
structure Paced (past : List Occurrence) (job : Job) : Prop where
  poised : job.run.Poised
  counts : job.run.Counts (job.run.spread (reports past))
  accounts : (landed past ++ job.run.inFlight).Perm (launched past)
  paid : past.countP Occurrence.wakes + (if job.run.halted = none then 1 else 0) ≤
    (landed past).length + 1

theorem Paced.next {start : Job} (wellFormed : start.run.plan.WellFormed)
    (sound : Sound start past job) (paced : Paced past job) (now : Moment) (input : Input) :
    Paced (past ++ [⟨job, now, input⟩]) (job.advance now input).1 := by
  refine ⟨?_, ?_, sound.accounts_next paced.accounts now input, sound.paid_next paced.paid now input⟩
  · rw [run_after]
    cases job.answer? now input with
    | none => exact paced.poised
    | some answer => exact Run.advance_poised sound.valid paced.poised now answer
  · have reportsNext : reports (past ++ [⟨job, now, input⟩]) =
        reports past ++ Occurrence.reports ⟨job, now, input⟩ := by
      rw [reports_append]
      simp [reports]
    rw [run_after, reportsNext]
    cases answered : job.answer? now input with
    | none => simpa [Occurrence.reports, Occurrence.answer?, answered] using paced.counts
    | some answer =>
      simp only [Occurrence.reports, Occurrence.answer?, answered]
      exact Run.advance_counts (sound.plan ▸ wellFormed) sound.valid paced.counts now
        (sound.flies answered)

theorem Course.paced (wellFormed : plan.WellFormed)
    (course : Course (prepare executor plan infraRetry timeoutMs
      (.pending plan id tenantId triggerInput)) past job) : Paced past job := by
  induction course with
  | start =>
    refine ⟨?_, ?_, ?_, ?_⟩
    · exact Run.poised_of (by simp [prepare, Run.prepare]) (by simp [prepare, Run.prepare,
        Run.errand?])
    · exact Run.Fresh.counts ⟨rfl, rfl, rfl, rfl⟩
    · exact List.Perm.refl _
    · simp [prepare, Run.prepare, landed]
  | next course now input inductionHypothesis =>
    exact inductionHypothesis.next wellFormed (course.sound wellFormed) now input

/-- A step that has landed does not come back. -/
theorem Paced.landed_down (paced : Paced past job) (distinct : (launched past).Nodup) {index : Nat}
    (down : index ∈ landed past) : index ∉ job.run.inFlight := fun flies =>
  (List.nodup_append.mp (paced.accounts.nodup_iff.mpr distinct)).2.2 index down index flies rfl

theorem Sound.launched_distinct {start : Job} (sound : Sound start past job) :
    (launched past).Nodup := by
  obtain ⟨_, _, _, coherent⟩ := sound.valid.coherent
  exact coherent.launchedDistinct

theorem Paced.bounded {start : Job} (sound : Sound start past job) (paced : Paced past job) :
    waits past job ≤ start.run.plan.steps.length + 1 := by
  obtain ⟨_, _, _, coherent⟩ := sound.valid.coherent
  have fits : (launched past).length ≤ start.run.plan.steps.length := by
    have inside : launched past ⊆ List.range start.run.plan.steps.length := fun index member =>
      List.mem_range.mpr (sound.plan ▸ coherent.launchedInside index member)
    simpa using (coherent.launchedDistinct.subperm inside).length_le
  have accounted := paced.accounts.length_eq
  rw [List.length_append] at accounted
  have paid := paced.paid
  unfold waits
  split
  · next waiting =>
    have flies := List.length_pos_of_ne_nil (paced.poised.flying waiting)
    omega
  · omega

end

/-- A run that has nothing in flight and nothing to start is at its end. -/
theorem never_stuck {compiler : Compiler} {definition : Definition} {plan : Plan}
    (compiled : compiler.compile definition = .ok plan) {executor : Executor}
    {infraRetry : RetryPolicy} {timeoutMs : Nat} {id tenantId : Uuid} {triggerInput : Json}
    {past : List Occurrence} {job : Job}
    (course : Course (prepare executor plan infraRetry timeoutMs
      (.pending plan id tenantId triggerInput)) past job) : Progresses plan past job := by
  have wellFormed := Compiler.compile_wellFormed compiled
  have sound := course.sound wellFormed
  have paced := course.paced wellFormed
  have samePlan : job.run.plan = plan := sound.plan
  refine ⟨paced.poised.flying, ?_, paced.bounded sound, ?_, ?_, ?_⟩
  · intro dispatched unhalted landed
    have finalized : job.run.Finalized := by
      rcases dispatched with waiting | finalized | ⟨ending, index, rest, errand⟩
      · exact absurd landed (paced.poised.flying waiting)
      · exact finalized
      · exact absurd errand (paced.poised.unswept sound.valid unhalted ending index rest)
    exact ⟨finalized, fun index bound => finalized.settled sound.valid index (samePlan ▸ bound)⟩
  · intro earlier occurrence later listed wakes
    have before := course.upTo listed
    rcases wakes_cases wakes with ⟨index, lands⟩ | ⟨unhalted, halted, _⟩
    · left
      have flies : index ∈ occurrence.before.run.inFlight :=
        ((before.sound wellFormed).landed_remaining occurrence.now occurrence.input).subset
          (by simp [lands])
      have down (later : List Occurrence) : index ∈ landed (earlier ++ occurrence :: later) := by
        simp [landed, lands]
      refine ⟨index, flies, ?_, ?_⟩
      · intro other member
        obtain ⟨between, rest, rfl⟩ := List.append_of_mem member
        have there := course.upTo (listed.trans
          (List.append_assoc earlier (occurrence :: between) (other :: rest)).symm)
        exact (there.paced wellFormed).landed_down (there.sound wellFormed).launched_distinct
          (down between)
      · exact paced.landed_down sound.launched_distinct (listed ▸ down later)
    · exact .inr ⟨unhalted, halted⟩
  · intro index step found
    rw [← samePlan] at found ⊢
    exact paced.counts index step found
  · intro index halt failures outcome phase
    have valid := sound.valid
    simp only [Run.Valid, phase] at valid
    obtain ⟨earlier, report, last, rfl, releases, _, live⟩ := valid
    have kept := Run.checkSave_plan job.run "saving step" outcome
    apply (live.checkSave "saving step" outcome).release_checked _ last
    · rw [kept]
      exact releases.symm
    · rw [kept, samePlan]
      exact wellFormed

/-- The pair waits twice, once for each of its steps. -/
theorem pair_never_stuck :
    waits finishedPair.1 finishedPair.2 = 2 ∧
      (∀ index < 2, (finishedPair.2.run.record index).status.isSettled = true) ∧
      Progresses .pair finishedPair.1 finishedPair.2 := by
  have progresses := never_stuck Plan.pair_compiled
    (Course.start.replay _ : Course ofPair finishedPair.1 finishedPair.2)
  have closed : finishedPair.2.run.phase = .closed := by decide +kernel
  have settled := (progresses.finished (.inr (.inl (.inl closed))) (by decide +kernel)
    (by decide +kernel)).2
  exact ⟨by decide +kernel, settled, progresses⟩

end Job

end WorkflowEngine
