/-
This file proves that a run gives its slot back exactly when it closes. Until then nothing that it
publishes has ended, and the last that it publishes has.
-/

import WorkflowEngine.Proofs.Execution.Standing

namespace WorkflowEngine

/-- A holding effect keeps the slot, and what it publishes has not ended. -/
def Effect.Holding : Effect → Prop
  | .publish snapshot => snapshot.status.isTerminal = false
  | .releaseSlot => False
  | _ => True

def Effect.snapshot? : Effect → Option Execution
  | .publish snapshot => some snapshot
  | _ => none

/-- A turn holds on if all its effects do. -/
def Turn.Holding (turn : Turn) : Prop :=
  ∀ effect ∈ turn.effects, effect.Holding

theorem Turn.Holding.andThen {turn : Turn} {next : Run → Turn} (first : turn.Holding)
    (second : (next turn.run).Holding) : (turn.andThen next).Holding := by
  intro effect member
  rcases List.mem_append.mp member with early | late
  · exact first effect early
  · exact second effect late

namespace Run

section

variable {run : Run}

theorem quiet_holding (run : Run) : (Turn.mk run []).Holding :=
  fun _ member => absurd member List.not_mem_nil

theorem stepSettled_holding (run before : Run) (index : Nat) :
    (Turn.mk run (before.stepSettled index)).Holding := by
  simp [Turn.Holding, stepSettled, announceStep, Effect.Holding]

theorem halt_holding (run : Run) (halt : Halt) : (run.halt halt).Holding := by
  unfold Run.halt
  split
  · exact quiet_holding run
  · simp [Turn.Holding, Effect.Holding]

theorem checkSave_holding (run : Run) (activity : String) (outcome : Except StoreError Unit) :
    (run.checkSave activity outcome).Holding := by
  cases outcome with
  | ok => exact quiet_holding run
  | error error => exact halt_holding run _

theorem sweep_holding (run : Run) (ending : Ending) (rest : List Nat) :
    (run.sweep ending rest).Holding := by
  cases rest with
  | nil => exact quiet_holding _
  | cons index rest => exact stepSettled_holding _ _ index

theorem proceed_holding (run : Run) (now : Moment) : (run.proceed now).Holding := by
  unfold proceed
  split
  · split
    · exact quiet_holding _
    · split
      · exact sweep_holding run _ _
      · exact quiet_holding _
  · split
    · exact sweep_holding run _ _
    · exact quiet_holding _

theorem snapshot_holding (running : run.execution.status = .running) :
    (Turn.mk run [run.snapshot]).Holding := by
  simp [Turn.Holding, snapshot, Effect.Holding, running, ExecutionStatus.isTerminal]

theorem settled_holding (running : run.execution.status = .running) (now : Moment)
    (halt : Option Halt) : (run.settled now halt).Holding := by
  cases halt with
  | none =>
    exact (quiet_holding run).andThen ((snapshot_holding running).andThen (proceed_holding _ now))
  | some halt =>
    have calm := @halt_calm (fun _ => True) run halt trivial
    exact (halt_holding run halt).andThen
      ((snapshot_holding (calm.status.trans running)).andThen (proceed_holding _ now))

theorem tellSkipped_holding (running : run.execution.status = .running) (now : Moment)
    (halt : Option Halt) (skipped : List Nat) : (run.tellSkipped now halt skipped).Holding := by
  cases skipped with
  | nil => exact settled_holding running now halt
  | cons index rest => exact stepSettled_holding _ run index

theorem settle_holding (run : Run) (now : Moment) (report : StepReport) :
    (run.settle now report).Holding := by
  unfold settle
  split
  · exact quiet_holding run
  · exact stepSettled_holding _ _ _

/-- What follows a save holds on unless it was the last one. -/
theorem afterSave_holding (running : run.execution.status = .running) (now : Moment)
    (outcome : Except StoreError Unit) {errand : Errand}
    (unclosed : ∀ ending, errand ≠ .closing ending) :
    (run.afterSave now outcome errand).Holding := by
  have checked (activity : String) :
      (run.checkSave activity outcome).run.execution.status = .running := by
    have calm := @checkSave_calm (fun _ => True) run activity outcome (fun _ _ _ => trivial)
    exact calm.status.trans running
  cases errand with
  | opening =>
    refine (checkSave_holding run _ outcome).andThen (Turn.Holding.andThen ?_ (proceed_holding _ now))
    simp [Turn.Holding, announceExecution, snapshot, Effect.Holding, checked,
      ExecutionStatus.isTerminal]
  | dispatching index previous =>
    cases outcome with
    | ok =>
      refine Turn.Holding.andThen ?_ (proceed_holding _ now)
      simp [Turn.Holding, announceStep, snapshot, Effect.Holding, running,
        ExecutionStatus.isTerminal]
    | error error => exact (halt_holding _ _).andThen (proceed_holding _ now)
  | settling index released halt =>
    refine (checkSave_holding run _ outcome).andThen ?_
    dsimp only
    split
    · have calm := @releaseSuccessors_calm (fun _ => True)
        (run.checkSave "saving step" outcome).run index
      exact settled_holding (calm.status.trans (checked _)) now halt
    · split
      · have calm := @skipFrom_calm (fun _ => True) now
          (run.checkSave "saving step" outcome).run.plan.edgeCount
          (run.checkSave "saving step" outcome).run
          ((run.checkSave "saving step" outcome).run.successors index)
        exact tellSkipped_holding (calm.status.trans (checked _)) now halt _
      · exact settled_holding (checked _) now halt
  | skipping index rest halt =>
    exact (checkSave_holding run _ outcome).andThen (tellSkipped_holding (checked _) now halt rest)
  | sweeping ending index rest => exact sweep_holding run ending rest
  | closing ending => exact absurd rfl (unclosed ending)

/-- An answer leaves an open run open, or it is the last one to the last save. -/
inductive Ends (run : Run) (turn : Turn) : Prop where
  | held (opened : turn.run.Open) (holding : turn.Holding)
  | closed (ending : Ending) (outcome : Except StoreError Unit)
    (verdict : run.shown = Run.verdict run.halted) (turned : turn = run.closeDown ending outcome)

theorem saved_ends {errand : Errand} {failures : UInt32} (opened : run.Open)
    (phase : run.phase = .saving errand failures) (now : Moment)
    (outcome : Except StoreError Unit) : run.Ends (run.saved now errand failures outcome) := by
  have ends (outcome : Except StoreError Unit) : run.Ends (run.afterSave now outcome errand) := by
    by_cases closing : ∃ ending, errand = .closing ending
    · obtain ⟨ending, rfl⟩ := closing
      simp only [Open, phase] at opened
      exact .closed ending outcome opened rfl
    · have unclosed (ending : Ending) : errand ≠ .closing ending := fun same =>
        closing ⟨ending, same⟩
      have running := opened.running phase unclosed
      exact .held (afterSave_entered running now outcome unclosed).opened
        (afterSave_holding running now outcome unclosed)
  cases outcome with
  | ok => exact ends (.ok ())
  | error error =>
    unfold saved
    dsimp only
    split
    · exact ends (.error error)
    · refine .held ?_ (quiet_holding _)
      unfold Open at opened ⊢
      rw [phase] at opened
      cases errand <;> exact opened

/-- An answer other than that of the store leaves an open run open. -/
theorem advance_open (opened : run.Open) (now : Moment) (input : Input)
    (unsaved : ∀ errand failures, run.phase ≠ .saving errand failures) :
    (run.advance now input).run.Open := by
  cases advance_passage opened now input with
  | entered _ entered => exact entered.opened
  | keeping keeping => exact keeping.opened
  | closed closes =>
    obtain ⟨ending, _, phase, _⟩ := closes.last
    exact absurd phase (unsaved _ _)

/-- Every answer to an open run ends in one of these two ways. -/
theorem advance_ends (opened : run.Open) (now : Moment) (input : Input) :
    run.Ends (run.advance now input) := by
  have takes := run.advance_takes now input
  have stays := advance_open opened now input
  have halts (before : Run) (halt : Halt) :
      ((before.halt halt).andThen fun run => run.proceed now).Holding :=
    (halt_holding before halt).andThen (proceed_holding _ now)
  generalize run.advance now input = turn at takes stays ⊢
  cases takes with
  | opened phase => exact .held (stays (by simp [phase])) (by simp [Turn.Holding, start, Effect.Holding])
  | saved phase => exact saved_ends opened phase now _
  | rested phase => exact .held (stays (by simp [phase])) (quiet_holding _)
  | reported phase => exact .held (stays (by simp [phase])) (settle_holding run now _)
  | lost phase => exact .held (stays (by simp [phase])) (halts _ _)
  | cancelled phase => exact .held (stays (by simp [phase])) (halts run _)
  | expired phase => exact .held (stays (by simp [phase])) (halts run _)
  | idle => exact .held opened (quiet_holding run)

theorem closeDown_terminal {run : Run} (verdict : run.shown = Run.verdict run.halted)
    (ending : Ending) (outcome : Except StoreError Unit) :
    (run.closeDown ending outcome).run.execution.status.isTerminal = true := by
  cases outcome with
  | ok =>
    have status : run.execution.status = (Run.verdict run.halted).1 := congrArg Prod.fst verdict
    simp only [closeDown, status]
    cases run.halted with
    | none => rfl
    | some halt => cases halt <;> rfl
  | error error => rfl

end

end Run

namespace Job

/-- A job holds its slot while its run is open and its snapshot has not ended. -/
structure Holds (job : Job) : Prop where
  opened : job.run.Open
  unended : job.snapshot.status.isTerminal = false

/-- A job is done once its run is closed and its snapshot has ended. -/
structure Done (job : Job) : Prop where
  closed : job.run.phase = .closed
  ended : job.snapshot.status.isTerminal = true

/-- A closing input gives the slot back once and publishes the end after that. -/
structure Gives (after : Job) (effects : List Effect) : Prop where
  done : after.Done
  told : ∃ earlier, effects = earlier ++ [.releaseSlot, .publish after.snapshot] ∧
    ∀ effect ∈ earlier, effect.Holding ∧ ∀ snapshot, effect ≠ .publish snapshot

theorem prepare_holds (executor : Executor) (plan : Plan) (infraRetry : RetryPolicy)
    (timeoutMs : Nat) (id tenantId : Uuid) (triggerInput : Json) :
    (prepare executor plan infraRetry timeoutMs (.pending plan id tenantId triggerInput)).Holds :=
  ⟨rfl, rfl⟩

theorem tenantId_after (job : Job) (now : Moment) (input : Input) :
    (job.advance now input).1.run.execution.tenantId = job.run.execution.tenantId :=
  fixed_after Run.tenantId_fixed job now input

theorem foldl_absorb_holding (job : Job) {effects : List Effect}
    (holding : ∀ effect ∈ effects, effect.Holding)
    (unended : job.snapshot.status.isTerminal = false) :
    (effects.foldl absorb job).snapshot.status.isTerminal = false := by
  induction effects generalizing job with
  | nil => exact unended
  | cons effect rest inductionHypothesis =>
    apply inductionHypothesis _ fun other member => holding other (List.mem_cons_of_mem _ member)
    have first := holding effect List.mem_cons_self
    cases effect <;> first | exact first | exact unended

/-- An input leaves a held slot alone, or closes the job. -/
theorem Holds.next {job : Job} (holds : job.Holds) (now : Moment) (input : Input) :
    ((job.advance now input).1.Holds ∧
      ∀ effect ∈ (job.advance now input).2, effect.Holding) ∨
    Gives (job.advance now input).1 (job.advance now input).2 := by
  cases answered : job.answer? now input with
  | none =>
    rw [advance_unanswered answered]
    exact .inl ⟨⟨holds.opened, holds.unended⟩, by simp⟩
  | some answer =>
    obtain ⟨run, _⟩ := (job.relieved input).takeTurn_rest (job.run.advance now answer)
    obtain ⟨snapshot, _⟩ := relieved_rest job input
    rw [advance_answered answered]
    cases Run.advance_ends holds.opened now answer with
    | held opened holding =>
      refine .inl ⟨⟨run ▸ opened, foldl_absorb_holding _ holding ?_⟩, holding⟩
      exact (congrArg (fun shown => shown.status.isTerminal) snapshot).trans holds.unended
    | closed ending outcome verdict turned =>
      rw [turned]
      have ended := Run.closeDown_terminal verdict ending outcome
      refine .inr ⟨⟨rfl, ended⟩, (job.run.closeDown ending outcome).effects.take 3, rfl, ?_⟩
      simp [Run.closeDown, Run.announceExecution, Effect.Holding]

/-- A job that is done tells nothing more and keeps its snapshot. -/
theorem Done.next {job : Job} (done : job.Done) (now : Moment) (input : Input) :
    (job.advance now input).1.Done ∧ (job.advance now input).1.snapshot = job.snapshot ∧
      (job.advance now input).2 = [] := by
  cases answered : job.answer? now input with
  | none =>
    rw [advance_unanswered answered]
    exact ⟨⟨done.closed, done.ended⟩, rfl, rfl⟩
  | some answer =>
    obtain ⟨snapshot, _⟩ := relieved_rest job input
    rw [advance_answered answered, advance_closed done.closed]
    exact ⟨⟨done.closed, snapshot ▸ done.ended⟩, snapshot, rfl⟩

theorem foldl_absorb_snapshot (job : Job) (effects : List Effect) :
    (effects.foldl absorb job).snapshot =
      (effects.filterMap Effect.snapshot?).getLast?.getD job.snapshot := by
  induction effects generalizing job with
  | nil => rfl
  | cons effect rest inductionHypothesis =>
    rw [List.foldl_cons, inductionHypothesis]
    cases effect <;> simp [absorb, Effect.snapshot?, List.getLast?_cons]

/-- Others see the last snapshot that a job has published. -/
theorem snapshot_after (job : Job) (now : Moment) (input : Input) :
    (job.advance now input).1.snapshot =
      ((job.advance now input).2.filterMap Effect.snapshot?).getLast?.getD job.snapshot := by
  cases answered : job.answer? now input with
  | none =>
    rw [advance_unanswered answered]
    rfl
  | some answer =>
    rw [advance_answered answered, ← (relieved_rest job input).1]
    exact foldl_absorb_snapshot _ _

theorem executor_after (job : Job) (now : Moment) (input : Input) :
    (job.advance now input).1.executor = job.executor := by
  have folded (before : Job) (effects : List Effect) :
      (effects.foldl absorb before).executor = before.executor := by
    induction effects generalizing before with
    | nil => rfl
    | cons effect rest inductionHypothesis =>
      rw [List.foldl_cons, inductionHypothesis]
      cases effect <;> rfl
  have relieved : (job.relieved input).executor = job.executor := by
    cases input <;> rfl
  cases answered : job.answer? now input with
  | none => rw [advance_unanswered answered]
  | some answer =>
    rw [advance_answered answered, ← relieved]
    exact folded _ _

end Job

end WorkflowEngine
