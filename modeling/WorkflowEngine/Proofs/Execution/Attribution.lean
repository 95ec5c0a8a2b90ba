/-
This file proves what a turn passes on and what it tells. A halt that comes about in a turn has its
cause in the answer or in a report that was taken before.
-/

import WorkflowEngine.Proofs.Execution.Validity

namespace WorkflowEngine

namespace Run

/-- Reports have a cause pending until the records of their step are saved. -/
inductive Cause (run : Run) (reports : List StepReport) : Input → Halt → Prop where
  | cancelled (phase : run.phase = .waiting) : Cause run reports .cancelled .cancelled
  | expired (phase : run.phase = .waiting) :
    Cause run reports .expired (.failed .executionTimeout)
  | lost (index : Nat) (detail message : String) :
    Cause run reports (.lost index detail) (.failed (.infrastructureError message))
  | exhausted {errand : Errand} {failures : UInt32} {error : StoreError} (message : String)
    (phase : run.phase = .saving errand failures)
    (last : run.infraRetry.attempts ≤ failures + 1) :
    Cause run reports (.saved (.error error)) (.failed (.infrastructureError message))
  | reported {input : Input} {report : StepReport} {halt : Halt} (member : report ∈ reports)
    (halts : run.plan.haltOf report = some halt) : Cause run reports input halt

/-- A turn tells mild things, launches a step first, or closes the run at last. -/
inductive Tells (run : Run) (input : Input) (turn : Turn) : Prop where
  | mild (quiet : run.launching input = [])
    (mild : ∀ effect ∈ turn.effects, effect.Mild run.execution.status)
  | launch (index : Nat) (later : List Effect) (launching : run.launching input = [index])
    (told : turn.effects =
      [run.announceStep index, run.snapshot, .launch index (run.resolveInput index)] ++ later)
    (mild : ∀ effect ∈ later, effect.Mild run.execution.status)
  | close (earlier : List Effect) (quiet : run.launching input = [])
    (closed : turn.run.phase = .closed) (told : turn.effects = earlier ++ [turn.run.snapshot])
    (mild : ∀ effect ∈ earlier, effect.Mild run.execution.status)

end Run

theorem Turn.Onward.tells {causes : Halt → Prop} {run : Run} {input : Run.Input} {turn : Turn}
    (onward : Onward causes run turn) (quiet : run.launching input = []) :
    Run.Advances causes run turn.run ∧ run.Tells input turn :=
  ⟨onward.advances, .mild quiet onward.mild⟩

namespace Run

section

variable {run : Run} {launched : List Nat} {reports : List StepReport} {causes : Halt → Prop}

theorem closeDown_advances (run : Run) (ending : Ending) (outcome : Except StoreError Unit) :
    Advances causes run (run.closeDown ending outcome).run := by
  cases outcome with
  | ok =>
    exact ⟨⟨rfl, rfl, rfl, rfl, Or.inl rfl, fun _ => ⟨by simp [closeDown], rfl⟩⟩,
      fun _ _ running => running⟩
  | error error =>
    exact ⟨⟨rfl, rfl, rfl, rfl, Or.inl rfl, fun _ => ⟨by simp [closeDown], rfl⟩⟩,
      fun _ _ running => running⟩

/-- An errand that neither launches a step nor closes the run ends in an onward turn. -/
theorem afterSave_onward {errand : Errand} (valid : run.AtErrand launched reports errand)
    (now : Moment) (outcome : Except StoreError Unit) (quiet : launches errand outcome = [])
    (unclosed : ∀ ending, errand ≠ .closing ending)
    (exhausted : ∀ error message, outcome = .error error →
      causes (.failed (.infrastructureError message)))
    (reported : ∀ report ∈ reports, ∀ halt, run.plan.haltOf report = some halt → causes halt) :
    Turn.Onward causes run (run.afterSave now outcome errand) := by
  have checked {activity : String} {next : Run → Turn}
      (later : Turn.Onward causes (run.checkSave activity outcome).run
        (next (run.checkSave activity outcome).run)) :
      Turn.Onward causes run ((run.checkSave activity outcome).andThen next) :=
    Turn.onward_andThen (checkSave_calm run activity exhausted)
      (checkSave_mild run activity outcome _) later
  cases errand with
  | opening =>
    simp only [afterSave]
    apply checked
    refine Turn.onward_andThen (enter_calm _) ?_ ?_
    · simp [announceExecution, snapshot, Effect.Mild]
    · exact proceed_onward _ now
  | dispatching index previous =>
    cases outcome with
    | ok => simp [launches] at quiet
    | error error =>
      obtain ⟨_, _, _, _, _, named, ready, _⟩ := valid
      have back : Calm causes run (run.modifyRecord index fun _ => previous) :=
        modifyRecord_calm run named (by simp [ready])
      simp only [afterSave, haltOnStore]
      refine Turn.onward_andThen (back.trans (halt_calm _ (exhausted error _ rfl)))
        (halt_mild _ _ _) ?_
      exact proceed_onward _ now
  | settling index released halt =>
    obtain ⟨earlier, report, last, _, _, rfl, _⟩ := valid
    have caused := reported report (by simp [last])
    simp only [afterSave]
    apply checked
    split
    · exact (settled_onward _ now caused).after (releaseSuccessors_calm _ index)
    · split
      · exact (tellSkipped_onward _ now caused _).after (skipFrom_calm now _ _ _)
      · exact settled_onward _ now caused
  | skipping index rest halt =>
    obtain ⟨⟨report, member, _, rfl⟩, _⟩ := valid
    simp only [afterSave]
    apply checked
    exact tellSkipped_onward _ now (reported report member) rest
  | sweeping ending index rest => exact sweep_onward run ending rest
  | closing ending => exact absurd rfl (unclosed ending)

/-- A step that is launched gets the input that its records resolve to. -/
theorem launched_tells {index : Nat} {previous : StepRecord} {failures : UInt32}
    (phase : run.phase = .saving (.dispatching index previous) failures) (now : Moment) :
    Advances causes run (run.afterSave now (.ok ()) (.dispatching index previous)).run ∧
      run.Tells (.saved (.ok ())) (run.afterSave now (.ok ()) (.dispatching index previous)) := by
  have flown : Calm causes run { run with inFlight := run.inFlight ++ [index] } :=
    calm_of_same rfl rfl rfl rfl rfl id
  have onward := @proceed_onward causes { run with inFlight := run.inFlight ++ [index] } now
  refine ⟨flown.andAdvances onward.advances, .launch index _ ?_ rfl onward.mild⟩
  simp [launching, phase, launches]

theorem closed_tells {ending : Ending} {failures : UInt32} {outcome : Except StoreError Unit}
    (phase : run.phase = .saving (.closing ending) failures) :
    Advances causes run (run.closeDown ending outcome).run ∧
      run.Tells (.saved outcome) (run.closeDown ending outcome) := by
  refine ⟨closeDown_advances run ending outcome,
    .close ((run.closeDown ending outcome).effects.take 4) ?_ rfl rfl ?_⟩
  · simp [launching, phase, launches]
  · simp [closeDown, announceExecution, Effect.Mild]

theorem saved_tells {errand : Errand} {failures : UInt32}
    (phase : run.phase = .saving errand failures) (valid : run.AtErrand launched reports errand)
    (now : Moment) (outcome : Except StoreError Unit) :
    Advances (run.Cause reports (.saved outcome)) run (run.saved now errand failures outcome).run ∧
      run.Tells (.saved outcome) (run.saved now errand failures outcome) := by
  have reported : ∀ report ∈ reports, ∀ halt, run.plan.haltOf report = some halt →
      run.Cause reports (.saved outcome) halt := fun report member halt halts =>
    .reported member halts
  have quiet (silent : launches errand outcome = []) : run.launching (.saved outcome) = [] := by
    simp [launching, phase, silent]
  cases outcome with
  | ok =>
    by_cases silent : launches errand (.ok ()) = []
    · by_cases closing : ∃ ending, errand = .closing ending
      · obtain ⟨ending, rfl⟩ := closing
        exact closed_tells phase
      · exact (afterSave_onward valid now (.ok ()) silent
          (fun ending same => closing ⟨ending, same⟩) (by simp) reported).tells (quiet silent)
    · cases errand with
      | dispatching index previous => exact launched_tells phase now
      | _ => exact absurd rfl silent
  | error error =>
    have silent : launches errand (.error error) = [] := by cases errand <;> rfl
    unfold saved
    dsimp only
    split
    · next last =>
      by_cases closing : ∃ ending, errand = .closing ending
      · obtain ⟨ending, rfl⟩ := closing
        exact closed_tells phase
      · exact (afterSave_onward valid now (.error error) silent
          (fun ending same => closing ⟨ending, same⟩)
          (fun _ message same => by cases same; exact .exhausted message phase last)
          reported).tells (quiet silent)
    · have paused : Calm (run.Cause reports (.saved (.error error))) run
          { run with phase := .pausing errand (failures + 1) } :=
        calm_of_same rfl rfl rfl rfl rfl (fun _ => by simp)
      exact (onward_quiet paused).tells (quiet silent)

/-- Every answer passes on what is kept, and every halt has its cause. -/
theorem advance_tells (valid : run.Valid launched reports) (now : Moment) (input : Input) :
    Advances (run.Cause reports input) run (run.advance now input).run ∧
      run.Tells input (run.advance now input) := by
  have halts {input : Input} {before : Run} (calm : Calm (run.Cause reports input) run before)
      {halt : Halt} (caused : run.Cause reports input halt) :
      Turn.Onward (run.Cause reports input) run
        ((before.halt halt).andThen fun run => run.proceed now) := by
    refine (Turn.onward_andThen (halt_calm before caused) (halt_mild before halt _) ?_).after calm
    exact proceed_onward _ now
  have takes := run.advance_takes now input
  generalize run.advance now input = turn at takes ⊢
  cases takes with
  | opened phase =>
    have started : Turn.Onward (run.Cause reports .opened) run (run.start now) :=
      ⟨⟨⟨rfl, rfl, rfl, rfl, Or.inl rfl, fun opened => absurd phase opened⟩,
        fun _ _ running => running⟩, by simp [start, Effect.Mild]⟩
    exact started.tells (by simp [launching, phase])
  | @saved errand failures outcome phase =>
    simp only [Valid, phase] at valid
    exact saved_tells phase valid now outcome
  | @rested errand failures phase =>
    have again : Calm (run.Cause reports .rested) run
        { run with phase := .saving errand failures } :=
      calm_of_same rfl rfl rfl rfl rfl (fun _ => by simp)
    exact (onward_quiet again).tells (by simp [launching, phase])
  | @reported report phase =>
    exact (settle_onward run now report).tells (by simp [launching, phase])
  | @lost index detail phase =>
    have landed : Calm (run.Cause reports (.lost index detail)) run
        { run with inFlight := run.inFlight.erase index } :=
      calm_of_same rfl rfl rfl rfl rfl id
    exact (halts landed (.lost index detail _)).tells (by simp [launching, phase])
  | cancelled phase =>
    exact (halts (Calm.refl run) (.cancelled phase)).tells (by simp [launching, phase])
  | expired phase =>
    exact (halts (Calm.refl run) (.expired phase)).tells (by simp [launching, phase])
  | idle unsaved => exact (onward_quiet (Calm.refl run)).tells (launching_unsaved unsaved)

end

end Run

end WorkflowEngine
