/-
This file proves that no step is started ahead of the store. What the start rests on has been
acknowledged before: the header, the record of the step as running, and the final records of the
steps whose outputs it reads. A save that fails for good ends all starts.
-/

import WorkflowEngine.Proofs.Execution.Acknowledged
import WorkflowEngine.Proofs.Execution.ScheduleIndependence
import WorkflowEngine.Proofs.Execution.TerminalStatus

namespace WorkflowEngine

namespace Errand

/-- These are the errands of a run that has come to its end. -/
def ends : Errand → Bool
  | .sweeping _ _ _ => true
  | .closing _ => true
  | _ => false

end Errand

namespace Run

/-- A grounded run starts nothing more: it has halted, or it has come to its end. -/
def Grounded (run : Run) : Prop :=
  run.halted ≠ none ∨ run.phase = .closed ∨
    ∃ errand, run.errand? = some errand ∧ errand.ends = true

section

variable {causes : Halt → Prop} {before after run : Run} {errand : Errand}

theorem Keeps.stays_halted (keeps : Keeps causes before after) (halted : before.halted ≠ none) :
    after.halted ≠ none := by
  obtain ⟨halt, same⟩ := Option.ne_none_iff_exists'.mp halted
  simp [keeps.halted_mono same]

/-- A save that has failed for good halts a run that has not come to its end. -/
theorem afterSave_halted (run : Run) (now : Moment) (error : StoreError)
    (under : errand.ends = false) :
    (run.afterSave now (.error error) errand).run.halted ≠ none := by
  have proceeds {run : Run} (halted : run.halted ≠ none) :
      (run.proceed now).run.halted ≠ none := by
    have onward : Turn.Onward (fun _ => True) run (run.proceed now) := proceed_onward run now
    exact onward.advances.toKeeps.stays_halted halted
  have settles {run : Run} (halt : Option Halt) (halted : run.halted ≠ none) :
      (run.settled now halt).run.halted ≠ none := by
    have onward : Turn.Onward (fun _ => True) run (run.settled now halt) :=
      settled_onward run now fun _ _ => trivial
    exact onward.advances.toKeeps.stays_halted halted
  have tells {run : Run} (halt : Option Halt) (skipped : List Nat) (halted : run.halted ≠ none) :
      (run.tellSkipped now halt skipped).run.halted ≠ none := by
    have onward : Turn.Onward (fun _ => True) run (run.tellSkipped now halt skipped) :=
      tellSkipped_onward run now (fun _ _ => trivial) skipped
    exact onward.advances.toKeeps.stays_halted halted
  have checked (activity : String) :
      (run.checkSave activity (.error error)).run.halted ≠ none :=
    halt_halted run _
  cases errand with
  | opening =>
    have entered := @enter_calm (fun _ => True)
      (run.checkSave "saving execution" (.error error)).run
    exact proceeds (entered.toKeeps.stays_halted (checked _))
  | dispatching index previous => exact proceeds (halt_halted _ _)
  | settling index released halt =>
    simp only [afterSave, Turn.andThen]
    split
    · have calm := @releaseSuccessors_calm (fun _ => True)
        (run.checkSave "saving step" (.error error)).run index
      exact settles halt (calm.toKeeps.stays_halted (checked _))
    · split
      · have calm := @skipFrom_calm (fun _ => True) now
          (run.checkSave "saving step" (.error error)).run.plan.edgeCount
          (run.checkSave "saving step" (.error error)).run
          ((run.checkSave "saving step" (.error error)).run.successors index)
        exact tells halt _ (calm.toKeeps.stays_halted (checked _))
      · exact settles halt (checked _)
  | skipping index rest halt => exact tells halt rest (checked _)
  | sweeping ending index rest => simp [Errand.ends] at under
  | closing ending => simp [Errand.ends] at under

/-- The end of a run leads to its close. -/
theorem afterSave_ends (run : Run) (now : Moment) (outcome : Except StoreError Unit)
    (ends : errand.ends = true) : (run.afterSave now outcome errand).run.Grounded := by
  cases errand with
  | sweeping ending index rest =>
    cases rest with
    | nil => exact .inr (.inr ⟨.closing ending, rfl, rfl⟩)
    | cons other rest => exact .inr (.inr ⟨.sweeping ending other rest, rfl, rfl⟩)
  | closing ending => exact .inr (.inl rfl)
  | _ => simp [Errand.ends] at ends

/-- What is grounded stays so. -/
theorem Grounded.advance (grounded : run.Grounded) {now : Moment} {input : Input}
    (advances : Advances causes run (run.advance now input).run) :
    (run.advance now input).run.Grounded := by
  rcases grounded with halted | closed | ⟨errand, own, ends⟩
  · exact .inl (advances.toKeeps.stays_halted halted)
  · rw [Job.advance_closed closed]
    exact .inr (.inl closed)
  · rcases advance_errand own now input with still | ⟨failures, outcome, _, _, after, _⟩
    · exact .inr (.inr ⟨errand, still, ends⟩)
    · rw [after]
      exact afterSave_ends run now outcome ends

end

end Run

namespace Job

/-- The store fails to save what the run has handed over as often as the run tries. -/
def Occurrence.Exhausts (occurrence : Occurrence) : Prop :=
  ∃ errand failures error, occurrence.before.run.phase = .saving errand failures ∧
    occurrence.input = .saved (.error error) ∧
    occurrence.before.run.infraRetry.attempts ≤ failures + 1

/-- All that was reported is saved, except what the run is saving. -/
structure Secured (past : List Occurrence) (job : Job) : Prop where
  header : job.run.phase ≠ .unopened → job.run.errand? ≠ some .opening →
    ∃ header, .header header ∈ acknowledged past ∧ header.id = job.run.execution.id ∧
      header.status = .running
  settled : ∀ report ∈ reports past,
    (∀ released halt, job.run.errand? ≠ some (.settling report.index released halt)) →
      .step job.run.execution.id (job.run.record report.index) ∈ acknowledged past

section

variable {start job : Job} {past : List Occurrence} {now : Moment} {input : Input}

theorem Sound.grounded_still (sound : Sound start past job) (grounded : job.run.Grounded)
    (now : Moment) (input : Input) : job.launching now input = [] := by
  rw [List.eq_nil_iff_forall_not_mem]
  intro index member
  obtain ⟨_, previous, failures, phase, _, unhalted, _⟩ := sound.launching_errand member
  rcases grounded with halted | closed | ⟨errand, own, ends⟩
  · exact halted unhalted
  · simp [phase] at closed
  · rw [Run.errand?, phase, Option.some.injEq] at own
    simp [← own, Errand.ends] at ends

theorem Sound.grounded_after (sound : Sound start past job) (grounded : job.run.Grounded)
    (now : Moment) (input : Input) : (job.advance now input).1.run.Grounded := by
  have advances := sound.advances now input
  rw [run_after] at advances ⊢
  split
  · next answer answered =>
    simp only [answered] at advances
    exact grounded.advance advances
  · exact grounded

/-- A save that fails for good grounds the run, and nothing is launched by it. -/
theorem Sound.exhausted (sound : Sound start past job)
    (exhausts : Occurrence.Exhausts ⟨job, now, input⟩) :
    (job.advance now input).1.run.Grounded ∧ job.launching now input = [] := by
  obtain ⟨errand, failures, error, phase, rfl, last⟩ := exhausts
  constructor
  · have after : (job.advance now (.saved (.error error))).1.run =
        (job.run.afterSave now (.error error) errand).run := by
      rw [run_after]
      exact congrArg Turn.run (Run.advance_last phase now fun _ _ => last)
    rw [after]
    cases under : errand.ends with
    | false => exact .inl (job.run.afterSave_halted now error under)
    | true => exact job.run.afterSave_ends now _ under
  · rw [List.eq_nil_iff_forall_not_mem]
    intro index member
    cases (sound.launching_errand member).1

theorem Course.exhausted (course : Course start past job)
    (sound : ∀ past job, Course start past job → Sound start past job)
    {earlier later : List Occurrence} {occurrence : Occurrence}
    (listed : past = earlier ++ occurrence :: later) (exhausts : occurrence.Exhausts) :
    job.run.Grounded ∧ launched (occurrence :: later) = [] := by
  induction course generalizing later with
  | start => simp at listed
  | @next past job course now input inductionHypothesis =>
    have known := sound past job course
    have told := effects_launched known.valid now input
    rcases List.eq_nil_or_concat later with rfl | ⟨front, other, rfl⟩
    · obtain ⟨rfl, same⟩ := List.append_inj' listed rfl
      cases same
      obtain ⟨grounded, still⟩ := known.exhausted exhausts
      rw [still] at told
      exact ⟨grounded, by simp [launched, Occurrence.effects, told]⟩
    · rw [List.concat_eq_append, ← List.cons_append, ← List.append_assoc] at listed
      obtain ⟨split, same⟩ := List.append_inj' listed rfl
      cases same
      obtain ⟨grounded, silent⟩ := inductionHypothesis split
      rw [known.grounded_still grounded] at told
      refine ⟨known.grounded_after grounded now input, ?_⟩
      rw [List.concat_eq_append, ← List.cons_append, launched_append, silent]
      simp [launched, Occurrence.effects, told]

/-- A run that goes on from an errand without a halt has saved what it handed over. -/
theorem acknowledged_of_left {errand : Errand} (own : job.run.errand? = some errand)
    (under : errand.ends = false) (unhalted : (job.advance now input).1.run.halted = none)
    (left : (job.advance now input).1.run.errand? ≠ some errand) :
    job.run.handed errand ∈ Occurrence.acknowledged ⟨job, now, input⟩ := by
  rw [run_after] at unhalted left
  cases answered : job.answer? now input with
  | none => exact absurd own (by simpa only [answered] using left)
  | some answer =>
    simp only [answered] at unhalted left
    rcases Run.advance_errand own now answer with stays | ⟨failures, outcome, phase, rfl, after, _⟩
    · exact absurd stays left
    · cases answers_of_answer answered
      cases outcome with
      | ok => exact mem_acknowledged.mpr ⟨errand, failures, phase, rfl, rfl⟩
      | error error =>
        rw [after] at unhalted
        exact absurd unhalted (job.run.afterSave_halted now error under)

/-- A run that takes a report saves the record of the step next. -/
theorem Sound.settling (sound : Sound start past job) {report : StepReport}
    (member : report ∈ Occurrence.reports ⟨job, now, input⟩) : ∃ released halt,
      (job.advance now input).1.run.errand? = some (.settling report.index released halt) := by
  unfold Occurrence.reports Occurrence.answer? at member
  cases answered : job.answer? now input with
  | none => simp [answered] at member
  | some answer =>
    have flies := sound.flies answered
    simp only [answered, Option.map_some, Option.getD_some] at member
    cases answer with
    | reported taken =>
      cases List.mem_singleton.mp member
      obtain ⟨phase, inFlight⟩ := flies report rfl
      have valid := sound.valid
      simp only [Run.Valid, phase] at valid
      have found := List.getElem?_eq_getElem
        (valid.launchedInside _ (valid.flightLaunched _ inFlight))
      rw [run_after]
      simp only [answered, Run.advance, phase, Run.settle, found]
      exact ⟨_, _, rfl⟩
    | _ => simp [Run.Input.reports] at member

theorem Secured.header_next (standing : Standing past job) (secured : Secured past job)
    (unhalted : (job.advance now input).1.run.halted = none)
    (opened : (job.advance now input).1.run.phase ≠ .unopened)
    (left : (job.advance now input).1.run.errand? ≠ some .opening) :
    ∃ header, .header header ∈ acknowledged (past ++ [⟨job, now, input⟩]) ∧
      header.id = job.run.execution.id ∧ header.status = .running := by
  rw [acknowledged_concat]
  by_cases unopened : job.run.phase = .unopened
  · obtain ⟨rfl, _⟩ := opened_after unopened opened
    have after : (job.advance now .opened).1.run = (job.run.start now).run := by
      rw [run_after]
      simp only [answer?, Run.advance, unopened]
    exact absurd (by rw [after]; rfl) left
  · by_cases own : job.run.errand? = some .opening
    · have saved := acknowledged_of_left own rfl unhalted left
      refine ⟨job.run.execution, List.mem_append_right _ saved, rfl, ?_⟩
      obtain ⟨errand, failures, phase, _⟩ := mem_acknowledged.mp saved
      rw [Run.errand?, phase, Option.some.injEq] at own
      cases standing with
      | closed closed => simp [phase] at closed
      | opened opened => exact opened.running phase (by simp [own])
    · obtain ⟨header, member, facts⟩ := secured.header unopened own
      exact ⟨header, List.mem_append_left _ member, facts⟩

theorem Secured.settled_next (wellFormed : start.run.plan.WellFormed)
    (sound : Sound start past job) (marked : job.run.Marked) (secured : Secured past job)
    (unhalted : (job.advance now input).1.run.halted = none) {report : StepReport}
    (member : report ∈ reports (past ++ [⟨job, now, input⟩]))
    (left : ∀ released halt,
      (job.advance now input).1.run.errand? ≠ some (.settling report.index released halt)) :
    .step job.run.execution.id ((job.advance now input).1.run.record report.index) ∈
      acknowledged (past ++ [⟨job, now, input⟩]) := by
  rw [acknowledged_concat]
  rw [reports_append, List.mem_append] at member
  rcases member with old | new
  · rw [(sound.faithful wellFormed marked now input).1 _ (sound.reported_settled old)]
    by_cases own : ∃ released halt, job.run.errand? = some (.settling report.index released halt)
    · obtain ⟨released, halt, own⟩ := own
      exact List.mem_append_right _ (acknowledged_of_left own rfl unhalted (left released halt))
    · simp only [not_exists] at own
      exact List.mem_append_left _ (secured.settled report old own)
  · obtain ⟨released, halt, own⟩ := sound.settling (by simpa [reports] using new)
    exact absurd own (left released halt)

/-- The store goes on to have what it has acknowledged. -/
theorem Secured.next (wellFormed : start.run.plan.WellFormed) (sound : Sound start past job)
    (standing : Standing past job) (marked : job.run.Marked) (secured : Secured past job)
    (unhalted : (job.advance now input).1.run.halted = none) :
    Secured (past ++ [⟨job, now, input⟩]) (job.advance now input).1 := by
  constructor <;> rw [id_after]
  · exact secured.header_next standing unhalted
  · exact fun report => secured.settled_next wellFormed sound marked unhalted

theorem Course.secured {plan : Plan} (wellFormed : plan.WellFormed) {executor : Executor}
    {infraRetry : RetryPolicy} {timeoutMs : Nat} {id tenantId : Uuid} {triggerInput : Json}
    (course : Course (prepare executor plan infraRetry timeoutMs
      (.pending plan id tenantId triggerInput)) past job) (unhalted : job.run.halted = none) :
    Secured past job := by
  induction course with
  | start => exact ⟨fun opened => absurd rfl opened, by simp [reports]⟩
  | @next past job course now input inductionHypothesis =>
    have sound := course.sound wellFormed
    have before : job.run.halted = none := by
      by_contra halted
      exact (sound.advances now input).toKeeps.stays_halted halted unhalted
    have marked := course.marked (fun _ _ course => course.sound wellFormed) wellFormed rfl
    exact (inductionHypothesis before).next wellFormed sound (course.standing wellFormed) marked
      unhalted

end

/-- The start of a step is backed by the records of the steps that it reads. -/
structure Backed (execution : Execution) (step : PlanStep) (run : Run) (saved : List Saved)
    (input : Json) : Prop where
  header : ∃ header, .header header ∈ saved ∧ header.id = execution.id ∧ header.status = .running
  running : ∃ record, .step execution.id record ∈ saved ∧ record.nodeId = step.nodeId ∧
    record.status = .running
  upstream : ∀ predecessor ∈ step.predecessors, run.Settled predecessor.index ∧
    .step execution.id (run.record predecessor.index) ∈ saved
  fed : input = step.feed execution.triggerInput fun index =>
    ((run.record index).output).getD .null

/-- What backs a start goes on to back it. -/
theorem Backed.later {execution : Execution} {step : PlanStep} {before after : Run}
    {saved more : List Saved} {input : Json} (backed : Backed execution step before saved input)
    (lasts : before.Lasts after) (kept : saved ⊆ more) :
    Backed execution step after more input := by
  obtain ⟨⟨header, headed, facts⟩, ⟨record, recorded, shown⟩, upstream, fed⟩ := backed
  refine ⟨⟨header, kept headed, facts⟩, ⟨record, kept recorded, shown⟩, ?_, ?_⟩
  · intro predecessor member
    obtain ⟨settled, known⟩ := upstream predecessor member
    rw [lasts _ settled]
    exact ⟨lasts.settled settled, kept known⟩
  · rw [fed]
    apply PlanStep.feed_congr
    intro predecessor member
    rw [lasts _ (upstream predecessor member).1]

section

variable {plan : Plan} {executor : Executor} {infraRetry : RetryPolicy} {timeoutMs : Nat}
  {id tenantId : Uuid} {triggerInput : Json} {past : List Occurrence} {job : Job}

/-- A start is backed when the step is launched. -/
theorem Course.launch_backed (wellFormed : plan.WellFormed)
    (course : Course (prepare executor plan infraRetry timeoutMs
      (.pending plan id tenantId triggerInput)) past job) {now : Moment} {input : Input}
    {index : Nat} (member : index ∈ job.launching now input) :
    ∃ step, plan.steps[index]? = some step ∧
      Backed (.pending plan id tenantId triggerInput) step job.run
        (acknowledged (past ++ [⟨job, now, input⟩])) (job.run.resolveInput index) := by
  have sound := course.sound wellFormed
  have samePlan : job.run.plan = plan := sound.plan
  have sameId : job.run.execution.id = id := course.id
  obtain ⟨rfl, previous, failures, phase, live, unhalted, inside, _, running, _⟩ :=
    sound.launching_errand member
  rw [samePlan] at inside
  obtain ⟨step, found⟩ : ∃ step, plan.steps[index]? = some step :=
    ⟨_, List.getElem?_eq_getElem inside⟩
  have secured := course.secured wellFormed unhalted
  have own : job.run.errand? = some (.dispatching index previous) := by
    simp only [Run.errand?, phase]
  rw [acknowledged_concat]
  refine ⟨step, found, ?_, ?_, ?_, ?_⟩
  · obtain ⟨header, headed, same, shown⟩ := secured.header (by simp [phase]) (by simp [own])
    exact ⟨header, List.mem_append_left _ headed, same.trans sameId, shown⟩
  · refine ⟨job.run.record index, List.mem_append_right _ ?_, sound.named found, running⟩
    exact mem_acknowledged.mpr ⟨_, _, phase, rfl, by rw [Run.handed, Run.target, sameId]; rfl⟩
  · intro predecessor reads
    have free := sound.awaited found (Or.inr (Or.inl running))
    obtain ⟨report, reported, same, _⟩ :=
      (Plan.released_iff ..).mp ((Plan.awaited_eq_zero ..).mp free predecessor reads)
    have kept := secured.settled report reported (by simp [own])
    rw [sameId, same] at kept
    exact ⟨same ▸ sound.reported_settled reported, List.mem_append_left _ kept⟩
  · rw [resolveInput_feed (samePlan ▸ found), sound.triggerInput]
    rfl

/-- A task is backed as long as it lives. -/
theorem Course.task_backed (wellFormed : plan.WellFormed)
    (course : Course (prepare executor plan infraRetry timeoutMs
      (.pending plan id tenantId triggerInput)) past job) :
    ∀ task ∈ job.tasks, ∃ step, plan.steps[task.index]? = some step ∧
      Backed (.pending plan id tenantId triggerInput) step job.run (acknowledged past)
        task.input := by
  induction course with
  | start => simp [prepare]
  | @next past job course now input inductionHypothesis =>
    have sound := course.sound wellFormed
    have marked := course.marked (fun _ _ course => course.sound wellFormed) wellFormed rfl
    have lasts := (sound.faithful wellFormed marked now input).1
    intro task member
    rcases sound.task_after member with ⟨earlier, old, rfl⟩ | ⟨index, launches, rfl⟩
    · have alike := touch_alike job input earlier
      obtain ⟨step, found, backed⟩ := inductionHypothesis earlier old
      rw [alike.index, alike.input]
      refine ⟨step, found, backed.later lasts ?_⟩
      rw [acknowledged_concat]
      exact List.subset_append_left _ _
    · obtain ⟨step, found, backed⟩ := course.launch_backed wellFormed launches
      exact ⟨step, found, backed.later lasts (List.Subset.refl _)⟩

/-- What is launched gets the input that the run resolves. -/
theorem Sound.launch_input {start : Job} (sound : Sound start past job) {now : Moment}
    {input : Input} {index : Nat} {given : Json}
    (member : .launch index given ∈ (job.advance now input).2) :
    index ∈ job.launching now input ∧ given = job.run.resolveInput index := by
  have launches : index ∈ job.launching now input := by
    rw [← effects_launched sound.valid]
    exact List.mem_filterMap.mpr ⟨_, member, rfl⟩
  refine ⟨launches, ?_⟩
  unfold launching at launches
  cases answered : job.answer? now input with
  | none => simp [answered] at launches
  | some answer =>
    simp only [answered] at launches
    rw [advance_answered answered] at member
    have quiet {effects : List Effect}
        (mild : ∀ effect ∈ effects, effect.Mild job.run.execution.status) :
        .launch index given ∉ effects := fun inside => mild _ inside
    cases (Run.advance_tells sound.valid now answer).2 with
    | mild nothing _ => simp [nothing] at launches
    | close _ nothing => simp [nothing] at launches
    | launch other later launching told mild =>
      rw [takeTurn, told, List.mem_append] at member
      rcases member with first | second
      · simp only [Run.announceStep, Run.snapshot, List.mem_cons, reduceCtorEq, false_or,
          Effect.launch.injEq, List.not_mem_nil, or_false] at first
        obtain ⟨rfl, rfl⟩ := first
        rfl
      · exact absurd second (quiet mild)

end

/-- Every step that is launched or attempted is backed by the store. -/
structure WritesAhead (plan : Plan) (execution : Execution) (past : List Occurrence) (job : Job) :
    Prop where
  launched : ∀ earlier occurrence later index input, past = earlier ++ occurrence :: later →
    .launch index input ∈ occurrence.effects → ∃ step, plan.steps[index]? = some step ∧
      Backed execution step job.run (acknowledged (earlier ++ [occurrence])) input
  tasks : ∀ task ∈ job.tasks, ∃ step, plan.steps[task.index]? = some step ∧
    Backed execution step job.run (acknowledged past) task.input
  stopped : ∀ earlier occurrence later, past = earlier ++ occurrence :: later →
    occurrence.Exhausts → Job.launched (occurrence :: later) = []

/-- Whichever saves fail, no step is started ahead of the store. -/
theorem writes_ahead {compiler : Compiler} {definition : Definition} {plan : Plan}
    (compiled : compiler.compile definition = .ok plan) {executor : Executor}
    {infraRetry : RetryPolicy} {timeoutMs : Nat} {id tenantId : Uuid} {triggerInput : Json}
    {past : List Occurrence} {job : Job}
    (course : Course (prepare executor plan infraRetry timeoutMs
      (.pending plan id tenantId triggerInput)) past job) :
    WritesAhead plan (.pending plan id tenantId triggerInput) past job := by
  have wellFormed := Compiler.compile_wellFormed compiled
  refine ⟨?_, course.task_backed wellFormed, ?_⟩
  · intro earlier occurrence later index input listed launches
    have before := course.upTo listed
    obtain ⟨member, rfl⟩ := (before.sound wellFormed).launch_input launches
    obtain ⟨step, found, backed⟩ := before.launch_backed wellFormed member
    have lasts := course.lasts (fun _ _ course => course.sound wellFormed) wellFormed rfl listed
    exact ⟨step, found, backed.later lasts (List.Subset.refl _)⟩
  · intro earlier occurrence later listed exhausts
    exact (course.exhausted (fun _ _ course => course.sound wellFormed) listed exhausts).2

/-- The second step of the pair is launched once the record of the first one is saved. -/
theorem pair_writes_ahead :
    WritesAhead .pair (.pending .pair .nil .nil .null) finishedPair.1 finishedPair.2 ∧
      launched finishedPair.1 = [0, 1] :=
  ⟨writes_ahead Plan.pair_compiled
    (Course.start.replay _ : Course ofPair finishedPair.1 finishedPair.2), by decide +kernel⟩

end Job

end WorkflowEngine
