/-
This file proves which way every turn of a valid run takes. The run is opened, stays as it is,
settles a step, tells of a skipped one, sweeps one, or closes; in all other turns it draws the
consequences of an answer and then starts what it can.
-/

import WorkflowEngine.Proofs.Execution.Closing
import WorkflowEngine.Proofs.Execution.Finality

namespace WorkflowEngine

/-- A notice goes to the observers of the execution. -/
def Effect.isNotice : Effect → Bool
  | .measure _ => true
  | .announce _ => true
  | _ => false

theorem Turn.andThen_assoc (turn : Turn) (next last : Run → Turn) :
    (turn.andThen next).andThen last = turn.andThen fun run => (next run).andThen last := by
  simp [Turn.andThen]

namespace Run

/-- These steps are marked as skipped, but nobody has been told. -/
def untold (run : Run) : List Nat :=
  match run.errand? with
  | some (.skipping _ rest _) => rest
  | _ => []

/-- Others have been told of a step if it has settled and is not left to be told. -/
def Told (run : Run) (index : Nat) : Prop :=
  run.Settled index ∧ index ∉ run.untold

def starting (run : Run) : List Nat :=
  match run.errand? with
  | some (.dispatching index _) => [index]
  | _ => []

/-- A run that goes on heralds that the execution runs, or that a step does. -/
def heralds (run : Run) (input : Input) : List Effect :=
  if run.errand? = some .opening then [run.announceExecution]
  else (run.launching input).map run.announceStep

/-- An open run is amid its work if no start and no opening is being saved. -/
structure Amid (run : Run) (input : Input) : Prop where
  opened : run.phase ≠ .unopened
  unclosed : run.phase ≠ .closed
  entered : run.errand? ≠ some .opening
  idle : run.starting = []
  quiet : run.launching input = []

/-- A run that stays changes at most between a save and a pause. -/
structure Stays (run : Run) (phase : Phase) : Prop where
  errand : ({ run with phase := phase } : Run).errand? = run.errand?
  unopened : phase = .unopened ↔ run.phase = .unopened
  waiting : phase = .waiting → run.phase = .waiting
  closed : phase = .closed ↔ run.phase = .closed

/-- What is shown is how the records stood or how they stand. -/
structure Between (run : Run) (turn : Turn) : Prop where
  calm : Calm (fun _ => True) run turn.run
  shown : ∀ snapshot, .publish snapshot ∈ turn.effects →
    snapshot = run.execution ∨ snapshot = turn.run.execution

/-- The skipped steps that are left to tell are named once each. -/
structure TellsNext (run mid : Run) (index : Nat) (rest : List Nat) : Prop where
  distinct : rest.Nodup
  fresh : ¬run.Told index
  told : ∀ other, mid.Settled other ∧ other ∉ rest ↔ run.Told other ∨ other = index

/-- These are the ways that a turn may take. -/
inductive Route (run : Run) (now : Moment) (launched : List Nat) (reports : List StepReport) :
    Input → Turn → Prop where
  | start (phase : run.phase = .unopened) : Route run now launched reports .opened (run.start now)
  | stay {input : Input} {phase : Phase} (quiet : run.launching input = [])
    (stays : run.Stays phase) : Route run now launched reports input ⟨{ run with phase := phase }, []⟩
  | settle {report : StepReport} (phase : run.phase = .waiting)
    (live : run.Live ⟨launched, reports, reports, none, none⟩)
    (flies : report.index ∈ run.inFlight) :
    Route run now launched reports (.reported report) (run.settle now report)
  | skip {input : Input} {between : Turn} {index : Nat} {rest : List Nat} {halt : Option Halt}
    (amid : run.Amid input) (passes : run.Between between)
    (silent : between.effects.filter Effect.isNotice = [])
    (tells : run.TellsNext between.run index rest) :
    Route run now launched reports input (between.andThen fun mid =>
      ⟨mid.save (.skipping index rest halt), mid.stepSettled index⟩)
  | sweep {input : Input} {ending : Ending} {index : Nat} {rest : List Nat}
    (quiet : run.launching input = [])
    (errand : run.errand? = some (.sweeping ending index rest))
    (ended : run.Ended ⟨launched, reports, reports, none, none⟩) (sweeps : run.Sweeps rest) :
    Route run now launched reports input (run.sweep ending rest)
  | close {ending : Ending} {outcome : Except StoreError Unit}
    (quiet : run.launching (.saved outcome) = [])
    (errand : run.errand? = some (.closing ending)) :
    Route run now launched reports (.saved outcome) (run.closeDown ending outcome)
  | proceed {input : Input} {between : Turn} (passes : run.Between between)
    (heralds : between.effects.filter Effect.isNotice = run.heralds input)
    (live : between.run.Live ⟨launched ++ run.launching input, reports, reports, none, none⟩)
    (settled : ∀ index, between.run.Settled index ↔ run.Told index)
    (kept : between.run.halted = none → run.launching input = run.starting)
    (opened : run.phase ≠ .unopened ∧ run.phase ≠ .closed) :
    Route run now launched reports input (between.andThen fun mid => mid.proceed now)

section

variable {run : Run} {launched : List Nat} {reports : List StepReport}

/-- The settled steps of a live run have reported or are cut off. -/
theorem Live.settled_iff {ledger : Ledger} (live : run.Live ledger) (index : Nat) :
    run.Settled index ↔ index ∈ ledger.reported ∨ run.plan.CutOff ledger.spread index := by
  rw [← live.skippedIff]
  constructor
  · intro settled
    by_cases reported : index ∈ ledger.reported
    · exact .inl reported
    · right
      obtain ⟨_, unsucceeded, unfailed⟩ := live.unresolved index reported
      have uncancelled := mt (live.cancelledReported index) reported
      unfold Settled at settled
      cases status : (run.record index).status <;> simp_all [StepStatus.isSettled]
  · rintro (reported | skipped)
    · unfold Settled
      rcases live.reported_status reported with status | status | status <;> rw [status] <;> rfl
    · rw [Settled, skipped]
      rfl

/-- The same reports and consequences make the same steps settled. -/
theorem Live.settled_congr {mid : Run} {one two : Ledger} (before : run.Live one)
    (after : mid.Live two) (plan : mid.plan = run.plan) (reported : two.reported = one.reported)
    (cutOff : ∀ index, run.plan.CutOff two.spread index ↔ run.plan.CutOff one.spread index)
    (index : Nat) : mid.Settled index ↔ run.Settled index := by
  rw [after.settled_iff, before.settled_iff, reported, plan, cutOff]

/-- What is launched is the step whose start was being saved. -/
theorem launching_cases (run : Run) (input : Input) :
    run.launching input = [] ∨ run.launching input = run.starting ∧ run.starting.length = 1 := by
  unfold launching
  split
  · next errand failures outcome phase =>
    unfold launches
    split
    · exact .inr (by simp [starting, errand?, phase])
    · exact .inl rfl
  · exact .inl rfl

theorem told_iff (told : run.untold = []) (index : Nat) : run.Told index ↔ run.Settled index := by
  simp [Told, told]

theorem halt_interrupts (run : Run) (halt : Halt) :
    ∀ effect ∈ (run.halt halt).effects, effect = .interrupt := by
  unfold Run.halt
  split <;> simp

theorem checkSave_interrupts (run : Run) (activity : String) (outcome : Except StoreError Unit) :
    ∀ effect ∈ (run.checkSave activity outcome).effects, effect = .interrupt := by
  cases outcome with
  | ok => simp [checkSave]
  | error error => exact halt_interrupts run _

/-- Interruptions tell the observers nothing. -/
theorem interrupts_silent {effects : List Effect} (interrupts : ∀ effect ∈ effects,
    effect = .interrupt) : effects.filter Effect.isNotice = [] := by
  rw [List.filter_eq_nil_iff]
  intro effect member
  simp [interrupts effect member, Effect.isNotice]

theorem interrupts_unshown {effects : List Effect} (interrupts : ∀ effect ∈ effects,
    effect = .interrupt) (snapshot : Execution) : .publish snapshot ∉ effects := by
  intro member
  cases interrupts _ member

theorem halt_execution (run : Run) (halt : Halt) :
    (run.halt halt).run.execution = run.execution := by
  unfold Run.halt
  split <;> rfl

theorem checkSave_execution (run : Run) (activity : String) (outcome : Except StoreError Unit) :
    (run.checkSave activity outcome).run.execution = run.execution := by
  cases outcome with
  | ok => rfl
  | error error => exact halt_execution run _

theorem checked_calm (run : Run) (activity : String) (outcome : Except StoreError Unit) :
    Calm (fun _ => True) run (run.checkSave activity outcome).run :=
  checkSave_calm run activity fun _ _ _ => trivial

/-- The end of a settlement halts the run if there is a reason. -/
theorem settled_passes {after : Run} {halt : Option Halt}
    (live : after.Live ⟨launched, reports, reports, none, halt⟩) (now : Moment) :
    ∃ between : Turn, after.settled now halt = between.andThen (fun mid => mid.proceed now) ∧
      after.Between between ∧ between.effects.filter Effect.isNotice = [] ∧
      between.run.Live ⟨launched, reports, reports, none, none⟩ ∧
      between.run.execution = after.execution := by
  cases halt with
  | none =>
    refine ⟨⟨after, [after.snapshot]⟩, rfl, ⟨.refl after, ?_⟩, rfl, live, rfl⟩
    simp [snapshot]
  | some halt =>
    have interrupts := halt_interrupts after halt
    have execution := halt_execution after halt
    refine ⟨(after.halt halt).andThen fun mid => ⟨mid, [mid.snapshot]⟩, ?_, ⟨?_, ?_⟩, ?_,
      live.halt halt none, execution⟩
    · exact (Turn.andThen_assoc (after.halt halt) (fun mid => ⟨mid, [mid.snapshot]⟩) _).symm
    · exact halt_calm after trivial
    · intro snapshot member
      rcases List.mem_append.mp member with early | last
      · exact absurd early (interrupts_unshown interrupts snapshot)
      · simp only [Run.snapshot, List.mem_singleton, Effect.publish.injEq] at last
        exact .inr last
    · simp [Turn.andThen, interrupts_silent interrupts, snapshot, Effect.isNotice]

/-- What comes before a change of the records is passed through, too. -/
theorem Between.after {mid : Run} {turn : Turn} (between : mid.Between turn)
    (calm : Calm (fun _ => True) run mid)
    (execution : turn.run.execution = mid.execution) {early : List Effect}
    (interrupts : ∀ effect ∈ early, effect = .interrupt) :
    run.Between ⟨turn.run, early ++ turn.effects⟩ := by
  refine ⟨calm.trans between.calm, fun snapshot member => ?_⟩
  rcases List.mem_append.mp member with first | second
  · exact absurd first (interrupts_unshown interrupts snapshot)
  · right
    rcases between.shown snapshot second with same | same
    · rw [same, execution]
    · exact same

/-- A settlement goes on once its consequences are drawn, if it settles no other step. -/
theorem settled_route {run after : Run} {activity : String} {outcome : Except StoreError Unit}
    {input : Input} {halt : Option Halt} (now : Moment)
    (calm : Calm (fun _ => True) (run.checkSave activity outcome).run after)
    (live : after.Live ⟨launched, reports, reports, none, halt⟩)
    (settled : ∀ index, after.Settled index ↔ run.Told index)
    (amid : run.Amid input) :
    run.Route now launched reports input
      ((run.checkSave activity outcome).andThen fun _ => after.settled now halt) := by
  obtain ⟨between, same, passes, silent, goes, execution⟩ := settled_passes live now
  have interrupts := checkSave_interrupts run activity outcome
  have turned : (run.checkSave activity outcome).andThen (fun _ => after.settled now halt) =
      (Turn.mk between.run ((run.checkSave activity outcome).effects ++ between.effects)).andThen
        fun mid => mid.proceed now := by
    simp [same, Turn.andThen]
  rw [turned]
  refine .proceed (passes.after ((checked_calm run activity outcome).trans calm) execution
    interrupts) ?_ ?_ ?_ (fun _ => amid.quiet.trans amid.idle.symm) ⟨amid.opened, amid.unclosed⟩
  · simp [interrupts_silent interrupts, silent, heralds, amid.entered, amid.quiet]
  · simpa [amid.quiet] using goes
  · intro index
    rw [← settled]
    simp only [Settled, record, execution]

/-- The settlement ends with the last skipped step. -/
theorem tellSkipped_route {run after : Run} {activity : String} {outcome : Except StoreError Unit}
    {input : Input} {halt : Option Halt} {skipped : List Nat} (now : Moment)
    (calm : Calm (fun _ => True) (run.checkSave activity outcome).run after)
    (live : after.Live ⟨launched, reports, reports, none, halt⟩)
    (distinct : skipped.Nodup) (fresh : ∀ index ∈ skipped, ¬run.Told index)
    (settled : ∀ index, after.Settled index ↔ run.Told index ∨ index ∈ skipped)
    (amid : run.Amid input) :
    run.Route now launched reports input
      ((run.checkSave activity outcome).andThen fun _ => after.tellSkipped now halt skipped) := by
  cases skipped with
  | nil => exact settled_route now calm live (by simpa using settled) amid
  | cons index rest =>
    obtain ⟨absent, distinct⟩ := List.nodup_cons.mp distinct
    have interrupts := checkSave_interrupts run activity outcome
    have turned : (run.checkSave activity outcome).andThen
        (fun _ => after.tellSkipped now halt (index :: rest)) =
          (Turn.mk after (run.checkSave activity outcome).effects).andThen fun mid =>
            ⟨mid.save (.skipping index rest halt), mid.stepSettled index⟩ := rfl
    rw [turned]
    refine .skip amid ⟨(checked_calm run activity outcome).trans calm, ?_⟩
      (interrupts_silent interrupts)
      ⟨distinct, fresh index List.mem_cons_self, fun other => ?_⟩
    · exact fun snapshot member => absurd member (interrupts_unshown interrupts snapshot)
    · rw [settled, List.mem_cons]
      constructor
      · rintro ⟨told | same | later, apart⟩
        · exact .inl told
        · exact .inr same
        · exact absurd later apart
      · rintro (told | rfl)
        · exact ⟨.inl told, fun later => fresh other (List.mem_cons_of_mem _ later) told⟩
        · exact ⟨.inr (.inl rfl), absent⟩

/-- A run that has been opened heralds it and makes its entry steps ready. -/
theorem opening_route (wellFormed : run.plan.WellFormed) {failures : UInt32}
    (phase : run.phase = .saving .opening failures) (fresh : run.Fresh) (now : Moment)
    (outcome : Except StoreError Unit) : run.Route now [] [] (.saved outcome)
      (run.afterSave now outcome .opening) := by
  have interrupts := checkSave_interrupts run "saving execution" outcome
  have execution := checkSave_execution run "saving execution" outcome
  have plan := checkSave_plan run "saving execution" outcome
  have checked : (run.checkSave "saving execution" outcome).run.Fresh := by
    refine ⟨by rw [execution, plan]; exact fresh.steps, ?_, ?_, ?_⟩
    · rw [waitingOn_steady.checkSave, plan]
      exact fresh.waitingOn
    · cases outcome with
      | ok => exact fresh.ready
      | error error =>
        simp only [checkSave, haltOnStore, Run.halt]
        split <;> exact fresh.ready
    · rw [inFlight_steady.checkSave]
      exact fresh.inFlight
  have errand : run.errand? = some .opening := by simp [errand?, phase]
  have quiet : run.launching (.saved outcome) = [] := by simp [launching, phase, launches]
  have entered := checked.enter_live (plan ▸ wellFormed)
  have turned : run.afterSave now outcome .opening =
      ((run.checkSave "saving execution" outcome).andThen fun mid =>
        ⟨mid.enter, [mid.announceExecution, mid.snapshot]⟩).andThen fun mid => mid.proceed now :=
    (Turn.andThen_assoc (run.checkSave "saving execution" outcome)
      (fun mid => ⟨mid.enter, [mid.announceExecution, mid.snapshot]⟩) _).symm
  rw [turned]
  refine .proceed ⟨(checked_calm run _ outcome).trans (enter_calm _), ?_⟩ ?_ ?_ ?_ ?_
    (by simp [phase])
  · intro snapshot member
    rcases List.mem_append.mp member with early | last
    · exact absurd early (interrupts_unshown interrupts snapshot)
    · simp only [announceExecution, Run.snapshot, List.mem_cons, reduceCtorEq,
        Effect.publish.injEq, List.not_mem_nil, or_false, false_or] at last
      exact .inl (last.trans execution)
  · simp only [Turn.andThen, List.filter_append, interrupts_silent interrupts, heralds, errand,
      announceExecution, execution]
    rfl
  · rw [quiet, List.append_nil]
    exact entered
  · intro index
    rw [told_iff (by simp [untold, errand])]
    refine iff_of_false ?_ (fresh.unsettled index)
    exact enter_unsettled checked.unsettled index
  · exact fun _ => quiet.trans (by simp [starting, errand])

/-- A step whose start is saved is heralded; if the save has failed it is ready again. -/
theorem dispatching_route {index : Nat} {previous : StepRecord} {failures : UInt32}
    (phase : run.phase = .saving (.dispatching index previous) failures)
    (valid : run.AtErrand launched reports (.dispatching index previous)) (now : Moment)
    (outcome : Except StoreError Unit) : run.Route now launched reports (.saved outcome)
      (run.afterSave now outcome (.dispatching index previous)) := by
  obtain ⟨live, unhalted, bound, fresh, running, named, ready, blank⟩ := valid
  have errand : run.errand? = some (.dispatching index previous) := by simp [errand?, phase]
  have told (other : Nat) : run.Told other ↔ run.Settled other :=
    told_iff (by simp [untold, errand]) other
  cases outcome with
  | ok =>
    have quiet : run.launching (.saved (.ok ())) = [index] := by
      simp [launching, phase, launches]
    have launch := live.launch rfl bound running fresh
    refine @Route.proceed run now launched reports _
      ⟨{ run with inFlight := run.inFlight ++ [index] },
        [run.announceStep index, run.snapshot, .launch index (run.resolveInput index)]⟩
      ⟨calm_of_same rfl rfl rfl rfl rfl id, ?_⟩ ?_ ?_ (fun other => (told other).symm)
      (fun _ => quiet.trans (by simp [starting, errand])) (by simp [phase])
    · simp [announceStep, snapshot]
    · simp only [heralds, errand, quiet, Option.some.injEq, reduceCtorEq, if_false]
      rfl
    · rw [quiet]
      exact launch
  | error error =>
    have quiet : run.launching (.saved (.error error)) = [] := by
      simp [launching, phase, launches]
    have back : Calm (fun _ => True) run (run.modifyRecord index fun _ => previous) :=
      modifyRecord_calm run named (by simp [ready])
    have rollback := live.rollback unhalted bound running fresh ready blank
      (.failed (.infrastructureError ("saving step: " ++ error.message)))
    refine .proceed ⟨back.trans (halt_calm _ trivial), ?_⟩ ?_ ?_ ?_
      (fun unhalted => absurd unhalted (halt_halted _ _)) (by simp [phase])
    · exact fun snapshot member =>
        absurd member (interrupts_unshown (halt_interrupts _ _) snapshot)
    · simp only [heralds, errand, quiet, Option.some.injEq, reduceCtorEq, if_false, List.map_nil]
      exact interrupts_silent (halt_interrupts _ _)
    · rw [quiet, List.append_nil]
      exact rollback
    · intro other
      rw [told]
      exact live.settled_congr rollback (halt_plan _ _) rfl (fun _ => Iff.rfl) other

/-- The consequences of a report settle the steps that are skipped, and no others. -/
theorem settling_route (wellFormed : run.plan.WellFormed) {index : Nat} {released : Bool}
    {halt : Option Halt} {failures : UInt32}
    (phase : run.phase = .saving (.settling index released halt) failures)
    (valid : run.AtErrand launched reports (.settling index released halt)) (now : Moment)
    (outcome : Except StoreError Unit) : run.Route now launched reports (.saved outcome)
      (run.afterSave now outcome (.settling index released halt)) := by
  obtain ⟨earlier, report, last, rfl, rfl, rfl, live⟩ := valid
  have errand : run.errand? = some (.settling report.index (run.plan.releases report)
      (run.plan.haltOf report)) := by simp [errand?, phase]
  have amid : run.Amid (.saved outcome) := ⟨by simp [phase], by simp [phase], by simp [errand],
    by simp [starting, errand], by simp [launching, phase, launches]⟩
  have told (other : Nat) : run.Told other ↔ run.Settled other :=
    told_iff (by simp [untold, errand]) other
  have plan := checkSave_plan run "saving step" outcome
  have execution := checkSave_execution run "saving step" outcome
  have checked := live.checkSave "saving step" outcome
  simp only [afterSave, Turn.andThen]
  generalize checkedRun : (run.checkSave "saving step" outcome).run = after at *
  have before (other : Nat) : after.Settled other ↔ run.Told other := by
    rw [told]
    simp only [Settled, record, execution]
  rw [← plan] at wellFormed checked ⊢
  -- a report that does not block cuts nothing off
  have spared {mid : Run} {pending : Option Halt}
      (goes : mid.Live ⟨launched, reports, reports, none, pending⟩)
      (kept : mid.plan = after.plan) (unblocked : after.plan.blocks report = false) (other : Nat) :
      mid.Settled other ↔ run.Told other := by
    rw [← before]
    refine checked.settled_congr goes kept rfl (fun target => ?_) other
    simp [last, Plan.cutOff_append, unblocked]
  split
  · next releases =>
    have calm : Calm (fun _ => True) after (after.releaseSuccessors report.index) :=
      releaseSuccessors_calm after report.index
    have release := checked.release wellFormed last releases
    exact settled_route now (checkedRun ▸ calm) release
      (spared release calm.plan (Plan.releases_ne_blocks _ releases)) amid
  · next unreleased =>
    have resolved := congrArg StepOutcome.status (checked.resolved report (by simp [last]))
    have blocksIff := after.plan.blocks_iff_failed (Bool.eq_false_iff.mpr unreleased)
    rw [← resolved] at blocksIff
    split
    · next failed =>
      have blocks := blocksIff.mpr failed
      have calm : Calm (fun _ => True) after (after.skipSuccessors now report.index).1 :=
        skipFrom_calm now _ after _
      obtain ⟨skips, _⟩ := checked.skips wellFormed now report.index
      have skip := checked.skip wellFormed now last blocks
      refine tellSkipped_route now (checkedRun ▸ calm) skip skips.distinct ?_ ?_ amid
      · intro other member
        rw [← before]
        rcases (isSkippable_iff after other).mp (skips.skippable other member) with status | status
          <;> simp [Settled, status, StepStatus.isSettled]
      · intro other
        rw [← before]
        rcases skips.status other with ⟨skipped, member⟩ | ⟨same, absent⟩
        · exact iff_of_true (by rw [Settled, skipped]; rfl) (.inr member)
        · simp only [Settled, same, absent, or_false]
    · next unfailed =>
      have unblocked := Bool.eq_false_iff.mpr (mt blocksIff.mp unfailed)
      have pass := checked.pass last (Bool.eq_false_iff.mpr unreleased) unblocked
      exact settled_route now (by rw [checkedRun]; exact .refl after) pass
        (spared pass rfl unblocked) amid

/-- The next of the skipped steps is told of once the last one is saved. -/
theorem skipping_route {index : Nat} {rest : List Nat} {halt : Option Halt} {failures : UInt32}
    (phase : run.phase = .saving (.skipping index rest halt) failures)
    (valid : run.AtErrand launched reports (.skipping index rest halt)) (marked : run.Marked)
    (distinct : run.untold.Nodup) (now : Moment) (outcome : Except StoreError Unit) :
    run.Route now launched reports (.saved outcome)
      (run.afterSave now outcome (.skipping index rest halt)) := by
  have errand : run.errand? = some (.skipping index rest halt) := by simp [errand?, phase]
  have untold : run.untold = rest := by simp [Run.untold, errand]
  have execution := checkSave_execution run "saving step" outcome
  have settled (other : Nat) (member : other ∈ rest) : run.Settled other :=
    marked other (by simp [Run.marked, errand, member])
  refine tellSkipped_route now (.refl _) (valid.2.checkSave "saving step" outcome)
    (untold ▸ distinct) ?_ ?_ ⟨by simp [phase], by simp [phase], by simp [errand],
      by simp [starting, errand], by simp [launching, phase, launches]⟩
  · exact fun other member told => told.2 (untold ▸ member)
  · intro other
    have same : (run.checkSave "saving step" outcome).run.Settled other ↔ run.Settled other := by
      simp only [Settled, record, execution]
    rw [same, Told, untold]
    by_cases member : other ∈ rest
    · simp [member, settled other member]
    · simp [member]

theorem afterSave_route (wellFormed : run.plan.WellFormed) {errand : Errand} {failures : UInt32}
    (phase : run.phase = .saving errand failures) (valid : run.AtErrand launched reports errand)
    (marked : run.Marked) (distinct : run.untold.Nodup) (now : Moment)
    (outcome : Except StoreError Unit) :
    run.Route now launched reports (.saved outcome) (run.afterSave now outcome errand) := by
  have own : run.errand? = some errand := by simp [errand?, phase]
  cases errand with
  | opening =>
    obtain ⟨fresh, _, rfl, rfl⟩ := valid
    exact opening_route wellFormed phase fresh now outcome
  | dispatching index previous => exact dispatching_route phase valid now outcome
  | settling index released halt => exact settling_route wellFormed phase valid now outcome
  | skipping index rest halt => exact skipping_route phase valid marked distinct now outcome
  | sweeping ending index rest =>
    exact .sweep (by simp [launching, phase, launches]) own valid.1 valid.2
  | closing ending => exact .close (by simp [launching, phase, launches]) own

theorem saved_route (wellFormed : run.plan.WellFormed) {errand : Errand} {failures : UInt32}
    (phase : run.phase = .saving errand failures) (valid : run.AtErrand launched reports errand)
    (marked : run.Marked) (distinct : run.untold.Nodup) (now : Moment)
    (outcome : Except StoreError Unit) :
    run.Route now launched reports (.saved outcome) (run.saved now errand failures outcome) := by
  have ends := afterSave_route wellFormed phase valid marked distinct now
  cases outcome with
  | ok => exact ends (.ok ())
  | error error =>
    unfold saved
    dsimp only
    split
    · exact ends (.error error)
    · refine .stay ?_ ⟨by simp [errand?, phase], by simp [phase], by simp, by simp [phase]⟩
      cases errand <;> simp [launching, phase, launches]

/-- Every answer to a valid run takes one of these ways. -/
theorem advance_route (wellFormed : run.plan.WellFormed) (valid : run.Valid launched reports)
    (marked : run.Marked) (distinct : run.untold.Nodup) (now : Moment) {input : Input}
    (flies : ∀ report, input = .reported report →
      run.phase = .waiting ∧ report.index ∈ run.inFlight) :
    run.Route now launched reports input (run.advance now input) := by
  have takes := run.advance_takes now input
  generalize run.advance now input = turn at takes ⊢
  have halts {before : Run} {halt : Halt} {input : Input} (phase : run.phase = .waiting)
      (calm : Calm (fun _ => True) run before) (execution : before.execution = run.execution)
      (quiet : run.launching input = [])
      (goes : (before.halt halt).run.Live ⟨launched, reports, reports, none, none⟩) :
      run.Route now launched reports input
        ((before.halt halt).andThen fun mid => mid.proceed now) := by
    have errand : run.errand? = none := by simp [errand?, phase]
    refine .proceed ⟨calm.trans (halt_calm before trivial), ?_⟩ ?_ ?_ ?_
      (fun unhalted => absurd unhalted (halt_halted _ _)) (by simp [phase])
    · exact fun snapshot member =>
        absurd member (interrupts_unshown (halt_interrupts _ _) snapshot)
    · simp only [heralds, errand, quiet, reduceCtorEq, if_false, List.map_nil]
      exact interrupts_silent (halt_interrupts _ _)
    · rw [quiet, List.append_nil]
      exact goes
    · intro index
      rw [told_iff (by simp [untold, errand])]
      simp only [Settled, record, halt_execution, execution]
  cases takes with
  | opened phase => exact .start phase
  | saved phase =>
    simp only [Valid, phase] at valid
    exact saved_route wellFormed phase valid marked distinct now _
  | rested phase =>
    refine .stay (by simp [launching, phase]) ⟨?_, ?_, ?_, ?_⟩ <;> simp [errand?, phase]
  | @reported report phase =>
    simp only [Valid, phase] at valid
    exact .settle phase valid (flies report rfl).2
  | @lost index detail phase =>
    simp only [Valid, phase] at valid
    exact halts phase (calm_of_same rfl rfl rfl rfl rfl id) rfl (by simp [launching, phase])
      (lost_live valid index _)
  | cancelled phase =>
    simp only [Valid, phase] at valid
    exact halts phase (.refl run) rfl (by simp [launching, phase]) (valid.halt _ none)
  | expired phase =>
    simp only [Valid, phase] at valid
    exact halts phase (.refl run) rfl (by simp [launching, phase]) (valid.halt _ none)
  | idle unsaved => exact .stay (launching_unsaved unsaved) ⟨rfl, Iff.rfl, id, Iff.rfl⟩

/-- A way that leaves more to tell names it once. -/
theorem Route.distinct {now : Moment} {input : Input} {turn : Turn}
    (route : run.Route now launched reports input turn) (distinct : run.untold.Nodup) :
    turn.run.untold.Nodup := by
  have sweeps (run : Run) (ending : Ending) (rest : List Nat) :
      (run.sweep ending rest).run.untold = [] := by
    cases rest <;> rfl
  cases route with
  | start => exact List.nodup_nil
  | @stay _ phase _ stays =>
    unfold untold
    rw [stays.errand]
    exact distinct
  | settle =>
    unfold Run.settle
    split
    · exact distinct
    · exact List.nodup_nil
  | skip _ _ _ tells => exact tells.distinct
  | @sweep _ ending _ rest => simp [sweeps run ending rest]
  | close => exact List.nodup_nil
  | @proceed _ between =>
    have silent : (between.run.proceed now).run.untold = [] := by
      unfold Run.proceed
      split
      · split
        · rfl
        · split
          · exact sweeps ..
          · rfl
      · split
        · exact sweeps ..
        · rfl
    simp [Turn.andThen, silent]

end

/-- A run that goes on starts the least ready step while there is room. -/
inductive Proceeds (run : Run) (now : Moment) : Turn → Prop where
  | dispatch {index : Nat} {rest : List Nat} (unhalted : run.halted = none)
    (ready : run.ready = index :: rest) (room : run.inFlight.length < run.plan.maxConcurrency) :
    Proceeds run now (run.dispatch now index rest)
  | finish (landed : run.inFlight = []) (drained : run.halted = none → run.ready = []) :
    Proceeds run now (run.finish now)
  | wait (flying : run.inFlight ≠ [])
    (spent : run.halted = none → run.ready = [] ∨ run.plan.maxConcurrency ≤ run.inFlight.length) :
    Proceeds run now ⟨{ run with phase := .waiting }, []⟩

theorem proceed_proceeds {run : Run} (room : 1 ≤ run.plan.maxConcurrency) (now : Moment) :
    run.Proceeds now (run.proceed now) := by
  unfold proceed
  split
  · next index rest unhalted ready =>
    split
    · next free => exact .dispatch unhalted ready free
    · next full =>
      split
      · next empty =>
        -- a run without steps in flight has room for one
        rw [List.isEmpty_iff.mp empty, List.length_nil] at full
        omega
      · next filled =>
        exact .wait (mt List.isEmpty_iff.mpr filled) fun _ => .inr (Nat.le_of_not_lt full)
  · next other =>
    have drained (unhalted : run.halted = none) : run.ready = [] := by
      cases ready : run.ready with
      | nil => rfl
      | cons index rest => exact absurd ready (other index rest unhalted)
    split
    · next empty => exact .finish (List.isEmpty_iff.mp empty) drained
    · next filled =>
      exact .wait (mt List.isEmpty_iff.mpr filled) fun unhalted => .inl (drained unhalted)

end Run

namespace Job

section

variable {plan : Plan} {executor : Executor} {infraRetry : RetryPolicy} {timeoutMs : Nat}
  {id tenantId : Uuid} {triggerInput : Json} {past : List Occurrence} {job : Job}

theorem Course.untold_distinct (wellFormed : plan.WellFormed)
    (course : Course (prepare executor plan infraRetry timeoutMs
      (.pending plan id tenantId triggerInput)) past job) : job.run.untold.Nodup := by
  induction course with
  | start => exact List.nodup_nil
  | @next past job course now input inductionHypothesis =>
    have sound := course.sound wellFormed
    have marked := course.marked (fun _ _ course => course.sound wellFormed) wellFormed rfl
    rw [run_after]
    split
    · next answer answered =>
      exact (Run.advance_route (sound.plan ▸ wellFormed) sound.valid marked inductionHypothesis now
        (sound.flies answered)).distinct inductionHypothesis
    · exact inductionHypothesis

/-- Whatever happens to a job takes its run one of these ways. -/
theorem Course.route (wellFormed : plan.WellFormed)
    (course : Course (prepare executor plan infraRetry timeoutMs
      (.pending plan id tenantId triggerInput)) past job) (now : Moment) (input : Input) :
    ∃ answer turn, job.run.Route now (launched past) (reports past) answer turn ∧
      (job.advance now input).1.run = turn.run ∧ (job.advance now input).2 = turn.effects ∧
      job.launching now input = job.run.launching answer := by
  have sound := course.sound wellFormed
  have marked := course.marked (fun _ _ course => course.sound wellFormed) wellFormed rfl
  have run := run_after job now input
  cases answered : job.answer? now input with
  | none =>
    have quiet : job.run.launching .opened = [] := Run.launching_unsaved (by simp)
    refine ⟨.opened, ⟨job.run, []⟩, .stay quiet ⟨rfl, Iff.rfl, fun waits => waits, Iff.rfl⟩, ?_, ?_, ?_⟩
    · simpa only [answered] using run
    · rw [advance_unanswered answered]
    · simp only [launching, answered, quiet]
  | some answer =>
    refine ⟨answer, _, Run.advance_route (sound.plan ▸ wellFormed) sound.valid marked
      (course.untold_distinct wellFormed) now (sound.flies answered), ?_, ?_, ?_⟩
    · simpa only [answered] using run
    · rw [advance_answered answered]
      rfl
    · simp only [launching, answered]

end

end Job

end WorkflowEngine
