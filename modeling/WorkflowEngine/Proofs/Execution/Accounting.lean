/-
This file proves that the events and the measurements of an execution account for all its steps.
Others are told once of each step that has settled, and once before that if the step was launched.
-/

import WorkflowEngine.Proofs.Execution.Acknowledged
import WorkflowEngine.Proofs.Execution.Notices
import WorkflowEngine.Proofs.Execution.Progress
import WorkflowEngine.Proofs.Execution.Skipping

namespace WorkflowEngine.Job

def Occurrence.events (occurrence : Occurrence) : List Event :=
  occurrence.effects.filterMap Effect.event?

def Occurrence.metrics (occurrence : Occurrence) : List Metric :=
  occurrence.effects.filterMap Effect.metric?

def events (past : List Occurrence) : List Event :=
  past.flatMap Occurrence.events

def metrics (past : List Occurrence) : List Metric :=
  past.flatMap Occurrence.metrics

section

variable {plan : Plan} {executor : Executor} {infraRetry : RetryPolicy} {timeoutMs : Nat}
  {id tenantId : Uuid} {triggerInput : Json} {past : List Occurrence} {job : Job} {now : Moment}
  {input : Input}

theorem events_concat (past : List Occurrence) (occurrence : Occurrence) :
    events (past ++ [occurrence]) = events past ++ occurrence.events := by
  simp [events]

theorem metrics_concat (past : List Occurrence) (occurrence : Occurrence) :
    metrics (past ++ [occurrence]) = metrics past ++ occurrence.metrics := by
  simp [metrics]

theorem eventsOf_append (steps later : List StepEvent) (nodeId : String) :
    eventsOf (steps ++ later) nodeId = eventsOf steps nodeId ++ eventsOf later nodeId :=
  List.filter_append steps later

/-- Two steps of a plan do not bear the same name. -/
theorem step_of_name (wellFormed : plan.WellFormed) {one two : Nat} {first second : PlanStep}
    (found : plan.steps[one]? = some first) (other : plan.steps[two]? = some second)
    (same : first.nodeId = second.nodeId) : one = two := by
  obtain ⟨inside, rfl⟩ := List.getElem?_eq_some_iff.mp found
  obtain ⟨bound, rfl⟩ := List.getElem?_eq_some_iff.mp other
  have distinct := List.pairwise_iff_getElem.mp (List.pairwise_map.mp wellFormed.namesDistinct)
  rcases Nat.lt_trichotomy one two with earlier | equal | later
  · exact absurd same (distinct one two inside bound earlier)
  · exact equal
  · exact absurd same.symm (distinct two one bound inside later)

/-- The events that show these steps bear their names. -/
def Names (plan : Plan) (indices : List Nat) (shown : Nat → StepEvent) : Prop :=
  ∀ index ∈ indices, ∃ step : PlanStep,
    plan.steps[index]? = some step ∧ (shown index).nodeId = step.nodeId

/-- Of the events of several steps those of one step are found by its name. -/
theorem eventsOf_names (wellFormed : plan.WellFormed) {indices : List Nat}
    (distinct : indices.Nodup) {shown : Nat → StepEvent} (named : Names plan indices shown)
    {index : Nat} {step : PlanStep} (found : plan.steps[index]? = some step) :
    eventsOf (indices.map shown) step.nodeId = if index ∈ indices then [shown index] else [] := by
  unfold eventsOf
  induction indices with
  | nil => rfl
  | cons first rest inductionHypothesis =>
    obtain ⟨absent, distinct⟩ := List.nodup_cons.mp distinct
    obtain ⟨other, place, name⟩ := named first List.mem_cons_self
    have later := inductionHypothesis distinct fun other member =>
      named other (List.mem_cons_of_mem _ member)
    by_cases same : index = first
    · subst same
      rw [found] at place
      cases place
      rw [List.map_cons, List.filter_cons_of_pos (by simp [name]), later, if_neg absent]
      simp
    · have different : (shown first).nodeId ≠ step.nodeId := by
        intro alike
        exact same (step_of_name wellFormed found place (alike.symm.trans name))
      rw [List.map_cons, List.filter_cons_of_neg (by simp [different]), later]
      simp [same]

theorem Names.inPlan {indices : List Nat} {shown : Nat → StepEvent}
    (named : Names plan indices shown) {event : StepEvent} (member : event ∈ indices.map shown) :
    ∃ step ∈ plan.steps, step.nodeId = event.nodeId := by
  obtain ⟨index, listed, rfl⟩ := List.mem_map.mp member
  obtain ⟨step, found, name⟩ := named index listed
  exact ⟨step, List.mem_of_getElem? found, name.symm⟩

/-- A launched step is shown as running, and was not launched before. -/
theorem Sound.launching_event (sound : Sound (prepare executor plan infraRetry timeoutMs
      (.pending plan id tenantId triggerInput)) past job) {index : Nat}
    (member : index ∈ job.launching now input) : ∃ step : PlanStep,
      plan.steps[index]? = some step ∧ job.run.stepEvent index =
        ⟨job.run.execution.id, job.run.execution.tenantId, step.nodeId, .running, 0⟩ ∧
      index ∉ launched past ∧ ¬job.run.Settled index := by
  obtain ⟨_, previous, failures, _, live, _, bound, fresh, running, _⟩ :=
    sound.launching_errand member
  have samePlan : job.run.plan = plan := sound.plan
  rw [samePlan] at bound
  have found := List.getElem?_eq_getElem bound
  obtain ⟨⟨unattempted, _⟩, _⟩ :=
    live.unresolved index (live.unreported (.inr (.inr (.inl running))))
  refine ⟨_, found, ?_, fresh, ?_⟩
  · rw [Run.stepEvent, sound.named found, running, unattempted]
  · simp [Run.Settled, running, StepStatus.isSettled]

theorem Sound.launching_unsettled (sound : Sound (prepare executor plan infraRetry timeoutMs
      (.pending plan id tenantId triggerInput)) past job) {index : Nat}
    (member : index ∈ job.launching now input) : ¬job.run.Settled index := by
  obtain ⟨_, _, _, _, unsettled⟩ := sound.launching_event member
  exact unsettled

/-- A step that has settled is one of the plan. -/
theorem Sound.settled_named (sound : Sound (prepare executor plan infraRetry timeoutMs
      (.pending plan id tenantId triggerInput)) past job) {index : Nat}
    (settled : job.run.Settled index) : ∃ step : PlanStep,
      plan.steps[index]? = some step ∧ (job.run.stepEvent index).nodeId = step.nodeId := by
  obtain ⟨_, _, _, coherent⟩ := sound.valid.coherent
  have samePlan : job.run.plan = plan := sound.plan
  have inside := settled.inside
  rw [coherent.recordCount, samePlan] at inside
  have found := List.getElem?_eq_getElem inside
  exact ⟨_, found, sound.named found⟩

/-- The events account for the steps in the order in which they have settled. -/
structure Narrated (plan : Plan) (past : List Occurrence) (job : Job) (order : List Nat)
    (steps : List StepEvent) : Prop where
  distinct : order.Nodup
  told : ∀ index, index ∈ order ↔ job.run.Told index
  settled : settledEvents steps = order.map job.run.stepEvent
  ofStep : ∀ (index : Nat) (step : PlanStep), plan.steps[index]? = some step →
    eventsOf steps step.nodeId =
      (if index ∈ launched past then
        [⟨job.run.execution.id, job.run.execution.tenantId, step.nodeId, .running, 0⟩] else []) ++
      (if index ∈ order then [job.run.stepEvent index] else [])
  named : ∀ event ∈ steps, ∃ step ∈ plan.steps, step.nodeId = event.nodeId

/-- An input goes on with the steps that it launches and settles. -/
theorem Narrated.next (wellFormed : plan.WellFormed)
    (course : Course (prepare executor plan infraRetry timeoutMs
      (.pending plan id tenantId triggerInput)) past job) {order : List Nat}
    {steps : List StepEvent} (narrated : Narrated plan past job order steps) {settled : List Nat}
    (reveals : job.run.Reveals (job.advance now input).1.run settled) :
    Narrated plan (past ++ [⟨job, now, input⟩]) (job.advance now input).1 (order ++ settled)
      (steps ++ (job.launching now input).map job.run.stepEvent ++
        settled.map (job.advance now input).1.run.stepEvent) := by
  have sound := course.sound wellFormed
  have later := (course.next now input).sound wellFormed
  have marked := course.marked (fun _ _ course => course.sound wellFormed) wellFormed rfl
  have lasts := (sound.faithful wellFormed marked now input).1
  have sameId := id_after job now input
  have sameTenant := tenantId_after job now input
  have launches := sound.launched_next now input
  have launchesOnce : (job.launching now input).Nodup := by
    have distinct := later.launched_distinct
    rw [launches] at distinct
    exact (List.nodup_append.mp distinct).2.1
  generalize afterJob : (job.advance now input).1 = after at *
  have kept (index : Nat) (told : job.run.Told index) :
      after.run.stepEvent index = job.run.stepEvent index := by
    simp only [Run.stepEvent, lasts index told.1, sameId, sameTenant]
  have final (index : Nat) (member : index ∈ settled) : after.run.Told index :=
    (reveals.told index).mpr (.inr member)
  have launchedNamed : Names plan (job.launching now input) job.run.stepEvent := by
    intro index member
    obtain ⟨step, found, event, _⟩ := sound.launching_event member
    exact ⟨step, found, congrArg StepEvent.nodeId event⟩
  have settledNamed : Names plan settled after.run.stepEvent :=
    fun index member => later.settled_named (final index member).1
  refine ⟨?_, ?_, ?_, ?_, ?_⟩
  · refine List.nodup_append.mpr ⟨narrated.distinct, reveals.distinct, ?_⟩
    rintro index earlier _ member rfl
    exact reveals.fresh index member ((narrated.told index).mp earlier)
  · intro index
    rw [List.mem_append, narrated.told, reveals.told]
  · have running (index : Nat) (member : index ∈ job.launching now input) :=
      sound.launching_unsettled member
    rw [reveals.settledEvents running, narrated.settled, List.map_append]
    congr 1
    exact List.map_congr_left fun index member =>
      (kept index ((narrated.told index).mp member)).symm
  · intro index step found
    have before := narrated.ofStep index step found
    have begun := eventsOf_names wellFormed launchesOnce launchedNamed found
    have ended := eventsOf_names wellFormed reveals.distinct settledNamed found
    rw [eventsOf_append, eventsOf_append, before, begun, ended, launches, sameId, sameTenant]
    have toldIff := narrated.told index
    have freshIff := reveals.fresh index
    by_cases launching : index ∈ job.launching now input
    · obtain ⟨other, place, event, fresh, unsettled⟩ := sound.launching_event launching
      have untold : index ∉ order := fun member => unsettled (toldIff.mp member).1
      have same : other = step := Option.some.inj (place.symm.trans found)
      subst same
      simp [launching, fresh, untold, event]
    · by_cases member : index ∈ order
      · have fresh : index ∉ settled := fun settled => freshIff settled (toldIff.mp member)
        simp [launching, member, fresh, kept index (toldIff.mp member)]
      · simp [launching, member]
  · intro event member
    rcases List.mem_append.mp member with early | late
    · rcases List.mem_append.mp early with old | begun
      · exact narrated.named event old
      · exact launchedNamed.inPlan begun
    · exact settledNamed.inPlan late

/-- All that others have been told is a story that accounts for the steps. -/
structure Published (plan : Plan) (past : List Occurrence) (job : Job) (order : List Nat)
    (steps : List StepEvent) : Prop where
  narrated : Narrated plan past job order steps
  silent : ¬job.run.Heralded → steps = []
  announced : events past = job.run.story steps
  measured : ∃ elapsedMs, metrics past = job.run.tally steps elapsedMs

/-- A run that saves its opening shows that the execution runs. -/
theorem Course.opening_running (wellFormed : plan.WellFormed)
    (course : Course (prepare executor plan infraRetry timeoutMs
      (.pending plan id tenantId triggerInput)) past job)
    (opening : job.run.errand? = some .opening) : job.run.execution.status = .running := by
  unfold Run.errand? at opening
  cases course.standing wellFormed with
  | opened opened =>
    unfold Run.Open at opened
    split at opening <;> simp_all
  | closed closed => simp [closed] at opening

/-- Whatever happens to a job, others are told what accounts for the steps. -/
theorem Course.published (wellFormed : plan.WellFormed)
    (course : Course (prepare executor plan infraRetry timeoutMs
      (.pending plan id tenantId triggerInput)) past job) :
    ∃ order steps, Published plan past job order steps := by
  induction course with
  | start =>
    have fresh : (prepare executor plan infraRetry timeoutMs
        (.pending plan id tenantId triggerInput)).run.Fresh := ⟨rfl, rfl, rfl, rfl⟩
    refine ⟨[], [], ⟨List.nodup_nil, fun index => ?_, rfl, fun _ _ _ => rfl, by simp⟩,
      fun _ => rfl, rfl, 0, rfl⟩
    exact iff_of_false List.not_mem_nil fun told => fresh.unsettled index told.1
  | @next past job course now input inductionHypothesis =>
    obtain ⟨order, steps, published⟩ := inductionHypothesis
    have sound := course.sound wellFormed
    have samePlan : job.run.plan = plan := sound.plan
    obtain ⟨answer, turn, route, run, effects, launches⟩ := course.route wellFormed now input
    have running : ∀ index ∈ job.run.launching answer, ¬job.run.Settled index :=
      fun index member => sound.launching_unsettled (launches ▸ member)
    have notifies := route.notifies (samePlan ▸ wellFormed.room)
    obtain ⟨settled, reveals, continues⟩ := notifies.continues (course.opening_running wellFormed)
      (run ▸ fixed_after Run.executionEvent_fixed job now input)
      (run ▸ tenantId_after job now input) running published.silent
    rw [← run] at reveals
    obtain ⟨silent, told, measures⟩ := continues
    rw [← launches, ← run, ← effects] at *
    obtain ⟨elapsedMs, measured⟩ := published.measured
    obtain ⟨later, tallied⟩ := measures elapsedMs
    refine ⟨order ++ settled, _, published.narrated.next wellFormed course reveals, silent, ?_, later,
      ?_⟩
    · rw [events_concat, published.announced, told]
      rfl
    · rw [metrics_concat, measured, tallied]
      rfl

theorem Standing.phase_of_terminal (standing : Standing past job)
    (terminal : job.snapshot.status.isTerminal = true) : job.run.phase = .closed := by
  cases standing with
  | opened opened unended =>
    rw [unended] at terminal
    cases terminal
  | closed closed => exact closed

/-- Once all steps have settled, others have been told of each of them. -/
theorem Narrated.complete {order : List Nat} {steps : List StepEvent}
    (narrated : Narrated plan past job order steps) (untold : job.run.untold = [])
    (settled : ∀ index < job.run.execution.steps.length, job.run.Settled index) :
    order.Perm (List.range job.run.execution.steps.length) := by
  apply (List.perm_ext_iff_of_nodup narrated.distinct List.nodup_range).mpr
  intro index
  rw [narrated.told, Run.told_iff untold, List.mem_range]
  exact ⟨Run.Settled.inside, settled index⟩

/-- The events of settled steps show the records of all steps, in some order. -/
theorem Narrated.settled_perm {order : List Nat} {steps : List StepEvent}
    (narrated : Narrated plan past job order steps)
    (complete : order.Perm (List.range job.run.execution.steps.length)) :
    ((settledEvents steps).map StepEvent.status).Perm
      (job.run.execution.steps.map StepRecord.status) := by
  have records : job.run.execution.steps.map StepRecord.status =
      (List.range job.run.execution.steps.length).map fun index =>
        (job.run.record index).status := by
    apply List.ext_getElem
    · simp
    · intro index inside _
      rw [List.length_map] at inside
      simp [Run.record, inside]
  rw [narrated.settled, List.map_map, records]
  exact complete.map _

/-- This event shows the state of an execution of the plan. -/
def executionEvent (plan : Plan) (id tenantId : Uuid) (status : ExecutionStatus) : Event :=
  .execution ⟨id, tenantId, plan.workflowId, status⟩

/-- This event shows the state of a step at the given attempt. -/
def stepEvent (id tenantId : Uuid) (step : PlanStep) (status : StepStatus) (attempt : UInt32) :
    StepEvent :=
  ⟨id, tenantId, step.nodeId, status, attempt⟩

/-- The notices account for an execution if they say what its snapshot shows. -/
structure Accounts (plan : Plan) (id tenantId : Uuid) (past : List Occurrence)
    (snapshot : Execution) (steps : List StepEvent) : Prop where
  events : events past = executionEvent plan id tenantId .running ::
    (steps.map Event.step ++ [executionEvent plan id tenantId snapshot.status])
  ofStep : ∀ (index : Nat) (step : PlanStep) (record : StepRecord),
    plan.steps[index]? = some step → snapshot.steps[index]? = some record →
      record.status.isSettled = true ∧ eventsOf steps step.nodeId =
        (if index ∈ launched past then [stepEvent id tenantId step .running 0] else []) ++
          [stepEvent id tenantId step record.status record.attempt]
  named : ∀ event ∈ steps, ∃ step ∈ plan.steps, step.nodeId = event.nodeId
  metrics : ∃ completions elapsedMs, metrics past = .executionStarted tenantId ::
      (completions ++ [.executionCompleted tenantId snapshot.status,
        .executionDuration tenantId elapsedMs]) ∧
    completions.Perm (snapshot.steps.map fun record => .stepCompleted tenantId record.status)

end

/-- The notices of an ended execution tell all that has happened to it, and no more. -/
theorem notices_accounted {compiler : Compiler} {definition : Definition} {plan : Plan}
    (compiled : compiler.compile definition = .ok plan) {executor : Executor}
    {infraRetry : RetryPolicy} {timeoutMs : Nat} {id tenantId : Uuid} {triggerInput : Json}
    {past : List Occurrence} {job : Job}
    (course : Course (prepare executor plan infraRetry timeoutMs
      (.pending plan id tenantId triggerInput)) past job)
    (terminal : job.snapshot.status.isTerminal = true) :
    job.snapshot.steps.length = plan.steps.length ∧
      ∃ steps, Accounts plan id tenantId past job.snapshot steps := by
  have wellFormed := Compiler.compile_wellFormed compiled
  have sound := course.sound wellFormed
  have standing := course.standing wellFormed
  have closed := standing.phase_of_terminal terminal
  obtain ⟨same, ended, sweeps⟩ := standing.ended sound terminal
  have samePlan : job.run.plan = plan := sound.plan
  have counted : job.run.execution.steps.length = plan.steps.length := samePlan ▸ ended.recordCount
  have shown : job.run.executionEvent = executionEvent plan id tenantId :=
    course.fixed Run.executionEvent_fixed
  have sameId : job.run.execution.id = id := course.id
  have sameTenant : job.run.execution.tenantId = tenantId := course.fixed Run.tenantId_fixed
  have errand : job.run.errand? = none := by simp [Run.errand?, closed]
  have heralded : job.run.Heralded := ⟨by simp [closed], by simp [errand]⟩
  obtain ⟨order, steps, narrated, _, announced, elapsedMs, measured⟩ := course.published wellFormed
  have complete := narrated.complete (by simp [Run.untold, errand]) fun index inside =>
    sweeps.settled index (by rwa [ended.recordCount] at inside) (by simp)
  rw [same]
  refine ⟨counted, steps, ?_, ?_, narrated.named, ?_⟩
  · rw [announced, Run.story, if_pos heralded, if_pos closed, shown]
    rfl
  · intro index step record found stored
    have recorded : job.run.record index = record := by simp [Run.record, stored]
    have inside := (List.getElem?_eq_some_iff.mp stored).1
    have member : index ∈ order := complete.mem_iff.mpr (List.mem_range.mpr inside)
    have settled := ((narrated.told index).mp member).1
    rw [Run.Settled, recorded] at settled
    refine ⟨settled, ?_⟩
    rw [narrated.ofStep index step found, if_pos member, Run.stepEvent, sound.named found, recorded,
      sameId, sameTenant]
    rfl
  · have completions := (narrated.settled_perm complete).map (Metric.stepCompleted tenantId)
    rw [List.map_map, List.map_map] at completions
    refine ⟨_, elapsedMs, ?_, completions⟩
    rw [measured, Run.tally, if_neg heralded.1, if_pos closed, sameTenant]
    rfl

/-- The first step fails, and the second one is told of only as it is skipped. -/
theorem broken_notices_accounted : brokenPair.2.snapshot.status.isTerminal = true ∧
    launched brokenPair.1 = [0] ∧
      ∃ steps, Accounts .pair .nil .nil brokenPair.1 brokenPair.2.snapshot steps ∧
        eventsOf steps "second" = [⟨.nil, .nil, "second", .skipped, 0⟩] := by
  have terminal : brokenPair.2.snapshot.status.isTerminal = true := by decide +kernel
  have launches : launched brokenPair.1 = [0] := by decide +kernel
  have course : Course ofPair brokenPair.1 brokenPair.2 := Course.start.replay _
  obtain ⟨_, steps, accounts⟩ := notices_accounted Plan.pair_compiled course terminal
  have found : Plan.pair.steps[1]?.map PlanStep.nodeId = some "second" := by decide +kernel
  obtain ⟨step, place, name⟩ := Option.map_eq_some_iff.mp found
  have stored : brokenPair.2.snapshot.steps[1]? =
      some ⟨"second", .skipped, 0, none, none, none, some ⟨0, 0⟩⟩ := by decide +kernel
  obtain ⟨_, events⟩ := accounts.ofStep 1 step _ place stored
  rw [launches, name] at events
  refine ⟨terminal, launches, steps, accounts, events.trans ?_⟩
  simp [stepEvent, name]

end WorkflowEngine.Job
