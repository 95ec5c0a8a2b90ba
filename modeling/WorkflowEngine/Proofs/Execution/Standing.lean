/-
This file proves that a snapshot shows an ended execution only once the run is closed, and that it
then shows the records and the verdict of the run.
-/

import WorkflowEngine.Proofs.Execution.Soundness

namespace WorkflowEngine.Job

/-- The verdict has been saved, or the save of it has failed for good. -/
structure Occurrence.Concludes (occurrence : Occurrence) (run : Run) : Prop where
  saving : ∃ ending, occurrence.before.run.phase =
    .saving (.closing ending) occurrence.before.run.failures
  shown : ∃ outcome, occurrence.input = .saved outcome ∧
    run.shown = Run.finalVerdict run.halted outcome ∧
    (∀ error, outcome = .error error →
      occurrence.before.run.infraRetry.attempts ≤ occurrence.before.run.failures + 1)

/-- The snapshot of a closed job shows the end of its run. -/
inductive Standing (past : List Occurrence) (job : Job) : Prop where
  | opened (opened : job.run.Open) (unended : job.snapshot.status.isTerminal = false)
  | closed (closed : job.run.phase = .closed) (snapshot : job.snapshot = job.run.execution)
    (last : ∃ occurrence ∈ past, occurrence.Concludes job.run)

section

variable {start job : Job} {past : List Occurrence} {now : Moment} {input : Input}

/-- A closed run takes no answer. -/
theorem advance_closed {run : Run} (closed : run.phase = .closed) (now : Moment)
    (answer : Run.Input) : run.advance now answer = ⟨run, []⟩ := by
  cases answer <;> simp [Run.advance, closed]

/-- What a turn that enters another phase publishes is not ended. -/
theorem tells_unended {run : Run} {answer : Run.Input} {turn : Turn}
    (tells : run.Tells answer turn) (unclosed : turn.run.phase ≠ .closed)
    (unended : run.execution.status.isTerminal = false)
    (before : job.snapshot.status.isTerminal = false) :
    (job.takeTurn turn).1.snapshot.status.isTerminal = false := by
  have mild (other : Job) (still : other.snapshot.status.isTerminal = false)
      {effects : List Effect} (mild : ∀ effect ∈ effects, effect.Mild run.execution.status) :
      (effects.foldl absorb other).snapshot.status.isTerminal = false := by
    rcases (foldl_absorb_mild other mild).2 with same | shown
    · rw [same, still]
    · rw [shown, unended]
  unfold takeTurn
  cases tells with
  | mild quiet quietly => exact mild { job with run := turn.run } before quietly
  | launch index later launching told quietly =>
    rw [told, List.foldl_append]
    exact mild _ unended quietly
  | close earlier quiet closed told quietly => exact absurd closed unclosed

theorem Standing.next (sound : Sound start past job) (standing : Standing past job)
    (now : Moment) (input : Input) :
    Standing (past ++ [⟨job, now, input⟩]) (job.advance now input).1 := by
  cases answered : job.answer? now input with
  | none =>
    rw [advance_unanswered answered]
    cases standing with
    | opened opened unended => exact .opened opened unended
    | closed closed snapshot last =>
      obtain ⟨occurrence, member, concludes⟩ := last
      exact .closed closed snapshot ⟨occurrence, List.mem_append_left _ member, concludes⟩
  | some answer =>
    obtain ⟨run, _⟩ := (job.relieved input).takeTurn_rest (job.run.advance now answer)
    obtain ⟨snapshot, _⟩ := relieved_rest job input
    rw [advance_answered answered]
    cases standing with
    | closed closed same last =>
      obtain ⟨occurrence, member, concludes⟩ := last
      rw [advance_closed closed] at run ⊢
      refine .closed (run ▸ closed) ?_ ⟨occurrence, List.mem_append_left _ member, run ▸ concludes⟩
      rw [run]
      exact snapshot.trans same
    | opened opened unended =>
      have tells := (Run.advance_tells sound.valid now answer).2
      cases Run.advance_passage opened now answer with
      | entered earlier entered =>
        have unclosed : (job.run.advance now answer).run.phase ≠ .closed := by
          intro closed
          have opened := entered.opened
          simp only [Run.Open, closed] at opened
        exact .opened (run ▸ entered.opened)
          (tells_unended tells unclosed earlier (snapshot ▸ unended))
      | keeping keeping =>
        refine .opened (run ▸ keeping.opened) ?_
        rw [takeTurn, keeping.silent]
        exact snapshot ▸ unended
      | closed closes =>
        obtain ⟨earlier, told⟩ := closes.told
        obtain ⟨ending, outcome, phase, rfl, shown, exhausted⟩ := closes.last
        cases answers_of_answer answered with
        | saved =>
          refine .closed (run ▸ closes.closed) ?_ ⟨⟨job, now, .saved outcome⟩, by simp,
            ⟨ending, phase⟩, outcome, rfl, run ▸ shown, exhausted⟩
          rw [run, takeTurn, told, List.foldl_append]
          rfl

theorem Course.standing {plan : Plan} (wellFormed : plan.WellFormed) {executor : Executor}
    {infraRetry : RetryPolicy} {timeoutMs : Nat} {id tenantId : Uuid} {triggerInput : Json}
    (course : Course (prepare executor plan infraRetry timeoutMs
      (.pending plan id tenantId triggerInput)) past job) : Standing past job := by
  induction course with
  | start => exact .opened rfl rfl
  | next course now input inductionHypothesis =>
    exact inductionHypothesis.next (course.sound wellFormed) now input

end

end WorkflowEngine.Job
