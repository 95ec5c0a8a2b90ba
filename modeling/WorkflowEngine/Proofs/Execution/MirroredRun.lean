/-
This file proves that the store mirrors a run as long as no save has exhausted its retries. A save
that is under way leaves the store behind by the records that wait for it, and by nothing when the
run waits.
-/

import WorkflowEngine.Proofs.Execution.Advancement
import WorkflowEngine.Proofs.Execution.WriteAhead

namespace WorkflowEngine

/-- A step that becomes ready is not saved for this. -/
def StepRecord.recorded (record : StepRecord) : StepRecord :=
  if record.status = .ready then { record with status := .pending } else record

def Execution.recorded (execution : Execution) : Execution :=
  { execution with steps := execution.steps.map StepRecord.recorded }

/-- The header stands for a record that was never saved for itself. -/
def Saved.stored (saved : List Saved) (nodeId : String) : StepRecord :=
  (Saved.lastRecord saved nodeId).getD (.pending nodeId)

namespace StepRecord

variable {record : StepRecord}

theorem recorded_nodeId (record : StepRecord) : record.recorded.nodeId = record.nodeId := by
  unfold recorded
  split <;> rfl

theorem recorded_of_unready (unready : record.status ≠ .ready) : record.recorded = record :=
  if_neg unready

/-- A step that becomes ready is recorded as before. -/
theorem recorded_ready (unbegun : record.status = .pending ∨ record.status = .ready) :
    ({ record with status := .ready } : StepRecord).recorded = record.recorded := by
  rcases unbegun with status | status
  · have still : record.recorded = record := recorded_of_unready (by simp [status])
    rw [still, recorded, if_pos rfl, ← status]
  · simp [recorded, status]

end StepRecord

namespace Run

def header (run : Run) : Execution :=
  { run.execution with steps := run.execution.steps.map fun record => .pending record.nodeId }

/-- A change alters some records at most, as far as they are saved. -/
structure Alters (before after : Run) (changed : List Nat) : Prop where
  header : after.header = before.header
  records : ∀ index ∉ changed, (after.execution.steps[index]?).map StepRecord.recorded =
    (before.execution.steps[index]?).map StepRecord.recorded

/-- The store keeps the records of a run but for some that it is behind with. -/
def Kept (run : Run) (saved : List Saved) (behind : List Nat) : Prop :=
  ∀ index record, run.execution.steps[index]? = some record → index ∉ behind →
    Saved.stored saved record.nodeId = record.recorded

/-- The store has the header, but may still lack some records. -/
structure Trails (run : Run) (saved : List Saved) (behind : List Nat) : Prop where
  header : Saved.lastHeader saved = some run.header
  kept : run.Kept saved behind

section

variable {run first second third : Run} {changed other behind : List Nat} {saved : List Saved}

theorem Alters.of_same (execution : second.execution = first.execution) :
    Alters first second [] :=
  ⟨by simp only [Run.header, execution], fun index _ => by rw [execution]⟩

theorem Alters.trans (one : Alters first second changed) (two : Alters second third other) :
    Alters first third (changed ++ other) := by
  refine ⟨two.header.trans one.header, fun index absent => ?_⟩
  simp only [List.mem_append, not_or] at absent
  exact (two.records index absent.2).trans (one.records index absent.1)

theorem map_modify_same {A : Type} {view : StepRecord → A} {steps : List StepRecord} {index : Nat}
    {change : StepRecord → StepRecord}
    (same : ∀ record, steps[index]? = some record → view (change record) = view record) :
    (steps.modify index change).map view = steps.map view := by
  apply List.ext_getElem?
  intro other
  rw [List.getElem?_map, List.getElem?_map, List.getElem?_modify]
  split
  · next own =>
    subst own
    cases found : steps[index]? with
    | none => rfl
    | some record => simp [same record found]
  · simp

/-- A change of one record that keeps the name alters this record at most. -/
theorem modifyRecord_alters {index : Nat} {change : StepRecord → StepRecord}
    (named : (change (run.record index)).nodeId = (run.record index).nodeId) :
    Alters run (run.modifyRecord index change) [index] := by
  constructor
  · have names := @map_modify_same _ (fun record => StepRecord.pending record.nodeId)
      run.execution.steps index change fun record found => by
        rw [record_of_found found] at named
        rw [named]
    exact congrArg (fun steps => { run.execution with steps := steps }) names
  · intro place absent
    have different : index ≠ place := fun same => absent (by simp [same])
    simp [modifyRecord, different]

theorem makeReady_alters {index : Nat} (unbegun : run.Unbegun index) :
    Alters run (run.makeReady index) [] := by
  have written : Alters run
      (run.modifyRecord index fun record => { record with status := .ready }) [index] :=
    modifyRecord_alters rfl
  refine ⟨written.header, fun place _ => ?_⟩
  have same := @map_modify_same _ StepRecord.recorded run.execution.steps index
    (fun record => { record with status := .ready }) fun record found => by
      rw [Unbegun, record_of_found found] at unbegun
      exact StepRecord.recorded_ready unbegun
  rw [← List.getElem?_map, ← List.getElem?_map]
  exact congrArg (fun steps => steps[place]?) same

/-- The entry steps become ready unseen by the store. -/
theorem enter_alters (unbegun : ∀ index, run.Unbegun index) : Alters run run.enter [] := by
  unfold enter
  induction run.plan.steps.filter (fun step => step.predecessors.isEmpty) generalizing run with
  | nil => exact .of_same rfl
  | cons first rest inductionHypothesis =>
    exact (makeReady_alters (unbegun first.index)).trans
      (inductionHypothesis (makeReady_unbegun unbegun first.index))

theorem releaseStep_alters (run : Run) (index : Nat) : Alters run (run.releaseStep index) [] := by
  have counted : Alters run
      { run with waitingOn := run.waitingOn.set index ((run.waitingOn[index]?).getD 0 - 1) } [] :=
    .of_same rfl
  unfold releaseStep
  dsimp only
  split
  · next wakes =>
    simp only [Bool.and_eq_true, beq_iff_eq] at wakes
    exact counted.trans (makeReady_alters (.inl wakes.1.2))
  · exact counted

theorem releaseSuccessors_alters (run : Run) (index : Nat) :
    Alters run (run.releaseSuccessors index) [] :=
  foldl_related (fun before after => Alters before after []) (fun _ => .of_same rfl)
    (fun one two => one.trans two) releaseStep_alters _ run

/-- A skip alters the records of the steps that it lists. -/
theorem skipFrom_alters (now : Moment) (count : Nat) (run : Run) (queue : List Nat) :
    Alters run (skipFrom now count run queue).1 (skipFrom now count run queue).2 := by
  induction count generalizing run queue with
  | zero => exact .of_same rfl
  | succ count inductionHypothesis =>
    cases queue with
    | nil => exact .of_same rfl
    | cons index rest =>
      unfold skipFrom
      split
      · have written : Alters run (run.modifyRecord index fun record =>
            { record with status := .skipped, finishedAt := some now.wall }) [index] :=
          modifyRecord_alters rfl
        have marked : Alters run (run.markSkipped now index) [index] :=
          ⟨written.header, written.records⟩
        exact marked.trans (inductionHypothesis _ _)
      · exact inductionHypothesis run rest

theorem Kept.alters (kept : first.Kept saved behind) (alters : Alters first second changed) :
    second.Kept saved (changed ++ behind) := by
  intro index record found absent
  simp only [List.mem_append, not_or] at absent
  have same := alters.records index absent.1
  rw [found, Option.map_some] at same
  obtain ⟨earlier, known, recorded⟩ := Option.map_eq_some_iff.mp same.symm
  have named : record.nodeId = earlier.nodeId := by
    rw [← record.recorded_nodeId, ← recorded, earlier.recorded_nodeId]
  rw [named, kept index earlier known absent.2, recorded]

theorem Trails.alters (trails : first.Trails saved behind) (alters : Alters first second changed) :
    second.Trails saved (changed ++ behind) :=
  ⟨alters.header.symm ▸ trails.header, trails.kept.alters alters⟩

theorem Trails.same (trails : first.Trails saved behind)
    (execution : second.execution = first.execution) : second.Trails saved behind :=
  trails.alters (.of_same execution)

/-- A record that is saved is one that the store is not behind with any more. -/
theorem Trails.catchUp (trails : run.Trails saved (index :: behind))
    (distinct : (run.execution.steps.map StepRecord.nodeId).Nodup)
    (inside : index < run.execution.steps.length) (unready : (run.record index).status ≠ .ready)
    (id : Uuid) : run.Trails (saved ++ [.step id (run.record index)]) behind := by
  refine ⟨?_, fun place record found absent => ?_⟩
  · rw [Saved.lastHeader_concat]
    exact trails.header
  · rw [Saved.stored, Saved.lastRecord_concat, Saved.record?]
    by_cases same : place = index
    · subst same
      rw [record_of_found found] at unready ⊢
      rw [if_pos rfl, StepRecord.recorded_of_unready unready]
      rfl
    · have different : (run.record index).nodeId ≠ record.nodeId := by
        intro named
        have known := List.getElem?_eq_getElem inside
        refine same (((List.getElem?_inj (by simpa using inside) distinct).mp ?_).symm)
        rw [List.getElem?_map, List.getElem?_map, known, found, Option.map_some, Option.map_some,
          ← named, record_of_found known]
      rw [if_neg different]
      exact trails.kept place record found (by simp [same, absent])

end

/-- This is what the store holds of a run while the save of an errand is under way. -/
def MirroredAt (run : Run) (saved : List Saved) : Errand → Prop
  | .opening => run.Kept saved []
  | .dispatching index _ => run.Trails saved [index]
  | .settling index _ _ => run.Trails saved [index]
  | .skipping index rest _ => run.Trails saved (index :: rest)
  | .sweeping _ index _ => run.Trails saved [index]
  | .closing _ => run.Kept saved []

/-- The store mirrors a run if it is behind with nothing but what is being saved. -/
def Mirrored (run : Run) (saved : List Saved) : Prop :=
  match run.phase with
  | .unopened => run.Kept saved []
  | .saving errand _ => run.MirroredAt saved errand
  | .pausing errand _ => run.MirroredAt saved errand
  | .waiting => run.Trails saved []
  | .closed => Saved.lastHeader saved = some run.execution ∧ run.Kept saved []

section

variable {run : Run} {saved : List Saved}

theorem sweep_mirrored (trails : run.Trails saved []) (ending : Ending) (rest : List Nat) :
    (run.sweep ending rest).run.Mirrored saved := by
  cases rest with
  | nil => exact trails.kept
  | cons index rest =>
    have written : Alters run (run.modifyRecord index fun record =>
        { record with status := .cancelled, finishedAt := some ending.finishedAt }) [index] :=
      modifyRecord_alters rfl
    exact (trails.alters written).same rfl

theorem dispatch_mirrored (trails : run.Trails saved []) (now : Moment) (index : Nat)
    (rest : List Nat) : (run.dispatch now index rest).run.Mirrored saved := by
  have written : Alters run (run.modifyRecord index fun record =>
      { record with status := .running, startedAt := some now.wall }) [index] :=
    modifyRecord_alters rfl
  exact (trails.alters written).same rfl

theorem proceed_mirrored (trails : run.Trails saved []) (now : Moment) :
    (run.proceed now).run.Mirrored saved := by
  have waits : ({ run with phase := .waiting } : Run).Trails saved [] := trails.same rfl
  unfold proceed
  split
  · split
    · exact dispatch_mirrored trails now _ _
    · split
      · exact sweep_mirrored trails _ _
      · exact waits
  · split
    · exact sweep_mirrored trails _ _
    · exact waits

theorem settled_mirrored (trails : run.Trails saved []) (now : Moment) (halt : Option Halt) :
    (run.settled now halt).run.Mirrored saved := by
  cases halt with
  | none => exact proceed_mirrored trails now
  | some halt => exact proceed_mirrored (trails.same (halt_execution run halt)) now

theorem tellSkipped_mirrored {skipped : List Nat} (trails : run.Trails saved skipped)
    (now : Moment) (halt : Option Halt) :
    (run.tellSkipped now halt skipped).run.Mirrored saved := by
  cases skipped with
  | nil => exact settled_mirrored trails now halt
  | cons index rest =>
    have saving : (run.save (.skipping index rest halt)).Trails saved (index :: rest) :=
      trails.same rfl
    exact saving

theorem Fresh.header (fresh : run.Fresh) : run.header = run.execution := by
  have steps : (run.execution.steps.map fun record => StepRecord.pending record.nodeId) =
      run.execution.steps := by
    simp [fresh.steps, StepRecord.pending]
  simp only [Run.header, steps]

/-- Nothing that changes before the first start is saved. -/
theorem opened_mirrored (fresh : run.Fresh) (kept : run.Kept saved []) (now : Moment) :
    (run.afterSave now (.ok ()) .opening).run.Mirrored (saved ++ [.header run.execution]) := by
  have unbegun (index : Nat) : run.Unbegun index := .inl (fresh.record index).1
  have trails : run.Trails (saved ++ [.header run.execution]) [] := by
    refine ⟨?_, fun index record found absent => ?_⟩
    · rw [Saved.lastHeader_concat, fresh.header]
      rfl
    · rw [Saved.stored, Saved.lastRecord_concat]
      exact kept index record found absent
  exact proceed_mirrored (trails.alters (enter_alters unbegun)) now

theorem settling_mirrored (trails : run.Trails saved []) (now : Moment) (index : Nat)
    (released : Bool) (halt : Option Halt) :
    (run.afterSave now (.ok ()) (.settling index released halt)).run.Mirrored saved := by
  have checked : (run.checkSave "saving step" (.ok ())).run.Trails saved [] := trails
  simp only [afterSave, Turn.andThen]
  generalize (run.checkSave "saving step" (.ok ())).run = after at checked ⊢
  split
  · exact settled_mirrored (checked.alters (after.releaseSuccessors_alters index)) now halt
  · split
    · have skips := checked.alters
        (skipFrom_alters now after.plan.edgeCount after (after.successors index))
      rw [List.append_nil] at skips
      exact tellSkipped_mirrored skips now halt
    · exact settled_mirrored checked now halt

/-- A saved errand leaves the store behind with the next one at most. -/
theorem afterSave_mirrored {errand : Errand} {launched : List Nat} {reports : List StepReport}
    (distinct : (run.execution.steps.map StepRecord.nodeId).Nodup)
    (valid : run.AtErrand launched reports errand) (mirrored : run.MirroredAt saved errand)
    (inside : ∀ index, target errand = some index → index < run.execution.steps.length)
    (unready : ∀ index, target errand = some index → (run.record index).status ≠ .ready)
    (now : Moment) :
    (run.afterSave now (.ok ()) errand).run.Mirrored (saved ++ [run.handed errand]) := by
  have catchUp {index : Nat} {behind : List Nat} (same : target errand = some index)
      (trails : run.Trails saved (index :: behind)) :
      run.Trails (saved ++ [.step run.execution.id (run.record index)]) behind :=
    trails.catchUp distinct (inside index same) (unready index same) run.execution.id
  cases errand with
  | opening => exact opened_mirrored valid.1 mirrored now
  | dispatching index previous =>
    have launched : ({ run with inFlight := run.inFlight ++ [index] } : Run).Trails
        (saved ++ [.step run.execution.id (run.record index)]) [] :=
      (catchUp rfl mirrored).same rfl
    exact proceed_mirrored launched now
  | settling index released halt =>
    exact settling_mirrored (catchUp rfl mirrored) now index released halt
  | skipping index rest halt => exact tellSkipped_mirrored (catchUp rfl mirrored) now halt
  | sweeping ending index rest => exact sweep_mirrored (catchUp rfl mirrored) ending rest
  | closing ending =>
    refine ⟨?_, fun index record found absent => ?_⟩
    · rw [Saved.lastHeader_concat]
      rfl
    · rw [Saved.stored, Saved.lastRecord_concat]
      exact mirrored index record found absent

theorem settle_mirrored (trails : run.Trails saved []) (waits : run.phase = .waiting) (now : Moment)
    (report : StepReport) : (run.settle now report).run.Mirrored saved := by
  unfold settle
  split
  · simpa only [Mirrored, waits] using trails
  · next step _ =>
    have named := (concluded_calm step { run.record report.index with
      attempt := report.attempts, finishedAt := some now.wall } report.result).1
    have landed : ({ run with inFlight := run.inFlight.erase report.index } : Run).Trails saved
        [] := trails.same rfl
    exact (landed.alters (modifyRecord_alters named)).same rfl

/-- Without an acknowledgement the store stays a mirror unless a save is exhausted. -/
theorem advance_mirrored (mirrored : run.Mirrored saved) (now : Moment) {input : Input}
    (refused : ∀ errand failures outcome, run.phase = .saving errand failures →
      input = .saved outcome → outcome ≠ .ok () ∧ ¬run.infraRetry.attempts ≤ failures + 1) :
    (run.advance now input).run.Mirrored saved := by
  have takes := run.advance_takes now input
  generalize run.advance now input = turn at takes ⊢
  have rephase {errand : Errand} (mirroredAt : run.MirroredAt saved errand) (phase : Phase) :
      ({ run with phase := phase } : Run).MirroredAt saved errand := by
    cases errand with
    | opening => exact mirroredAt
    | closing ending => exact mirroredAt
    | _ => exact Trails.same mirroredAt rfl
  have halts {before : Run} (trails : before.Trails saved []) (halt : Halt) :
      ((before.halt halt).andThen fun run => run.proceed now).run.Mirrored saved :=
    proceed_mirrored (trails.same (halt_execution before halt)) now
  cases takes with
  | opened phase =>
    simp only [Mirrored, phase] at mirrored
    exact mirrored
  | @saved errand failures outcome phase =>
    simp only [Mirrored, phase] at mirrored
    obtain ⟨failed, again⟩ := refused errand failures outcome phase rfl
    cases outcome with
    | ok => exact absurd rfl failed
    | error error =>
      simp only [Run.saved, if_neg again]
      exact rephase mirrored _
  | rested phase =>
    simp only [Mirrored, phase] at mirrored
    exact rephase mirrored _
  | reported phase =>
    have trails : run.Trails saved [] := by simpa only [Mirrored, phase] using mirrored
    exact settle_mirrored trails phase now _
  | @lost index detail phase =>
    simp only [Mirrored, phase] at mirrored
    have erased : ({ run with inFlight := run.inFlight.erase index } : Run).Trails saved [] :=
      mirrored.same rfl
    exact halts erased _
  | cancelled phase =>
    simp only [Mirrored, phase] at mirrored
    exact halts mirrored _
  | expired phase =>
    simp only [Mirrored, phase] at mirrored
    exact halts mirrored _
  | idle => exact mirrored

/-- A store that does not trail behind gives back the execution as it is saved. -/
theorem Trails.assembled (trails : run.Trails saved []) :
    Saved.assembled saved = some run.execution.recorded := by
  have steps : (run.header.steps.map fun step => (Saved.lastRecord saved step.nodeId).getD step) =
      run.execution.steps.map StepRecord.recorded := by
    simp only [Run.header, List.map_map]
    refine List.map_congr_left fun record listed => ?_
    obtain ⟨index, found⟩ := List.mem_iff_getElem?.mp listed
    exact trails.kept index record found List.not_mem_nil
  simp only [Saved.assembled, trails.header, Option.map_some, steps]
  rfl

end

end Run

namespace Job

section

variable {executor : Executor} {plan : Plan} {infraRetry : RetryPolicy} {timeoutMs : Nat}
  {id tenantId : Uuid} {triggerInput : Json} {past : List Occurrence} {job : Job}

/-- A step whose record is being saved is not ready. -/
theorem Sound.target_unready {start : Job} (sound : Sound start past job)
    (marked : job.run.Marked) {errand : Errand} {failures : UInt32}
    (phase : job.run.phase = .saving errand failures) {index : Nat}
    (target : Run.target errand = some index) : (job.run.record index).status ≠ .ready := by
  have unready (settled : job.run.Settled index) : (job.run.record index).status ≠ .ready := by
    intro ready
    simp [Run.Settled, ready, StepStatus.isSettled] at settled
  have valid := sound.valid
  simp only [Run.Valid, phase] at valid
  have own : job.run.errand? = some errand := by simp only [Run.errand?, phase]
  cases errand <;> simp only [Run.target, reduceCtorEq, Option.some.injEq] at target
  case dispatching other previous =>
    obtain ⟨_, _, _, _, running, _⟩ := valid
    rw [← target, running]
    decide
  case settling other released halt =>
    obtain ⟨earlier, report, last, same, _⟩ := valid
    rw [← target, ← same] at unready ⊢
    exact unready (sound.reported_settled (by simp [last]))
  case skipping other rest halt => exact unready (marked index (by simp [Run.marked, own, target]))
  case sweeping ending other rest =>
    exact unready (marked index (by simp [Run.marked, own, target]))

/-- The store stays a mirror of the run unless a save exhausts its retries. -/
theorem Course.mirrored_next (wellFormed : plan.WellFormed)
    (course : Course (prepare executor plan infraRetry timeoutMs
      (.pending plan id tenantId triggerInput)) past job) {saved : List Saved}
    (mirrored : job.run.Mirrored saved) (now : Moment) (input : Input)
    (unexhausted : ¬Occurrence.Exhausts ⟨job, now, input⟩) :
    (job.advance now input).1.run.Mirrored
      (saved ++ Occurrence.acknowledged ⟨job, now, input⟩) := by
  rw [run_after]
  rcases acknowledged_cases job now input with silent | ⟨errand, failures, phase, rfl, handed⟩
  · rw [silent, List.append_nil]
    split
    · next answer answered =>
      refine Run.advance_mirrored mirrored now fun errand failures outcome phase answers => ?_
      subst answers
      have given : input = .saved outcome := by
        cases answers_of_answer answered
        rfl
      subst given
      cases outcome with
      | ok => simp [Occurrence.acknowledged, phase] at silent
      | error error => exact ⟨by simp, fun last => unexhausted ⟨_, _, error, phase, rfl, last⟩⟩
    · exact mirrored
  · have sound := course.sound wellFormed
    have marked := course.marked (fun _ _ course => course.sound wellFormed) wellFormed rfl
    have valid := sound.valid
    simp only [Run.Valid, phase] at valid
    simp only [Run.Mirrored, phase] at mirrored
    have last : job.run.advance now (.saved (.ok ())) = job.run.afterSave now (.ok ()) errand :=
      Run.advance_last phase now (by simp)
    rw [handed]
    simp only [answer?, last]
    exact Run.afterSave_mirrored (sound.names_distinct wellFormed) valid mirrored
      (fun _ target => sound.target_inside marked phase target)
      (fun _ target => sound.target_unready marked phase target) now

/-- A mirror of a closed run gives back the end of the execution. -/
theorem Course.assembled_closed (wellFormed : plan.WellFormed)
    (course : Course (prepare executor plan infraRetry timeoutMs
      (.pending plan id tenantId triggerInput)) past job) {saved : List Saved}
    (mirrored : job.run.Mirrored saved) (closed : job.run.phase = .closed) :
    Saved.assembled saved = some job.snapshot := by
  obtain ⟨shown, settled⟩ := course.shown_closed wellFormed closed
  simp only [Run.Mirrored, closed] at mirrored
  obtain ⟨header, kept⟩ := mirrored
  have steps : (job.run.execution.steps.map fun step =>
      (Saved.lastRecord saved step.nodeId).getD step) = job.run.execution.steps := by
    refine (List.map_congr_left fun record listed => ?_).trans (List.map_id _)
    obtain ⟨index, found⟩ := List.mem_iff_getElem?.mp listed
    have unready : record.status ≠ .ready := by
      intro ready
      simpa [ready, StepStatus.isSettled] using settled record listed
    have stored := kept index record found List.not_mem_nil
    rw [StepRecord.recorded_of_unready unready, Saved.stored] at stored
    cases last : Saved.lastRecord saved record.nodeId with
    | none => rfl
    | some newest =>
      rw [last] at stored
      exact stored
  simp only [Saved.assembled, header, Option.map_some, steps, shown]

end

end Job

end WorkflowEngine
