/-
This file proves the retry loop of a save as a whole: how often a run saves, how long it pauses in
between, how the loop ends, and how many failures of a store in memory it outlasts.
-/

import WorkflowEngine.Proofs.Engine.StoredRecords
import WorkflowEngine.Proofs.Execution.RepeatedSaves
import WorkflowEngine.Proofs.Simulation.RunPauses

namespace WorkflowEngine

open Job

def SaveDeed.outcome? : SaveDeed → Option (Except StoreError Unit)
  | .saved _ outcome => some outcome
  | .rested _ => none

def Job.saveAnswers (past : List Occurrence) : List (Except StoreError Unit) :=
  (saveDeeds past).filterMap SaveDeed.outcome?

/-- So many of the next writes fail. -/
def MemoryStore.answer (failing number : Nat) : Except StoreError Unit :=
  if number ≤ failing then .error injectedFailure else .ok ()

theorem MemoryStore.answer_ok {failing number : Nat} :
    answer failing number = .ok () ↔ failing < number := by
  unfold answer
  split
  · next fails => exact iff_of_false nofun (by omega)
  · next succeeds => exact iff_of_true rfl (by omega)

/-- The failures that are left answer as those that there were at first. -/
theorem MemoryStore.answer_left (failing made : Nat) :
    answer (failing - made) 1 = answer failing (made + 1) := by
  unfold answer
  congr 1
  rw [eq_iff_iff]
  omega

theorem MemoryStore.put_answer (item : Saved) (store : MemoryStore) :
    (item.put store).1 = answer store.failingWrites 1 ∧
      (item.put store).2.failingWrites = store.failingWrites - 1 := by
  have writes : item.put store = store.write (keep item) := by
    cases item <;> rfl
  rw [writes, write]
  cases failing : store.failingWrites with
  | zero =>
    refine ⟨rfl, ?_⟩
    cases item <;> exact failing
  | succ left => exact ⟨rfl, rfl⟩

namespace Engine

/-- Anything else may happen as long as nobody else writes to the store. -/
inductive SaveHistory {S : Type} [ExecutionStore S] (first : Engine S) (id : Uuid) :
    List Job.Occurrence → Engine S → Prop where
  | start : SaveHistory first id [] first
  | saved {past : List Job.Occurrence} {engine : Engine S} {job : Job} {errand : Errand}
    {failures : UInt32} (history : SaveHistory first id past engine)
    (found : engine.jobs.get? id = some job) (phase : job.run.phase = .saving errand failures)
    (now : Moment) : SaveHistory first id
      (past ++ [⟨job, now, .saved (performSave job.run errand engine.store).1⟩])
      (engine.save now id).1
  | advanced {past : List Job.Occurrence} {engine : Engine S} {job : Job}
    (history : SaveHistory first id past engine) (found : engine.jobs.get? id = some job)
    (now : Moment) {input : Job.Input} (unsaved : ∀ outcome, input ≠ .saved outcome) :
    SaveHistory first id (past ++ [⟨job, now, input⟩]) (engine.advance now id input).1
  | elsewhere {past : List Job.Occurrence} {engine after : Engine S}
    (history : SaveHistory first id past engine)
    (jobs : after.jobs.get? id = engine.jobs.get? id) (store : after.store = engine.store) :
    SaveHistory first id past after

section

variable {S : Type} {engine : Engine S} {id : Uuid} {job : Job} {errand : Errand}
  {failures : UInt32}

theorem advance_found (found : engine.jobs.get? id = some job) (now : Moment)
    (input : Job.Input) : (engine.advance now id input).1.jobs.get? id =
      some (job.advance now input).1 := by
  rw [(advance_moves found now input).2.jobs, Table.getInsertSame]

/-- A save takes the answer of the store to the run. -/
theorem save_found [ExecutionStore S] (found : engine.jobs.get? id = some job)
    (phase : job.run.phase = .saving errand failures) (now : Moment) :
    (engine.save now id).1.jobs.get? id = some (job.advance now
      (.saved (performSave job.run errand engine.store).1)).1 ∧
    (engine.save now id).1.store = (performSave job.run errand engine.store).2 := by
  have saves : engine.save now id =
      { engine with store := (performSave job.run errand engine.store).2 }.advance now id
        (.saved (performSave job.run errand engine.store).1) := by
    simp only [save, found, phase]
  rw [saves]
  constructor
  · apply advance_found
    exact found
  · rw [advance_store]

end

section

variable {first engine : Engine MemoryStore} {id : Uuid} {past : List Job.Occurrence}
  {start job : Job} {errand : Errand}

theorem saveAnswers_concat (past : List Job.Occurrence) (job : Job) (now : Moment)
    (input : Job.Input) : saveAnswers (past ++ [⟨job, now, input⟩]) =
      saveAnswers past ++ ((job.saveDeed? input).bind SaveDeed.outcome?).toList := by
  rw [saveAnswers, saveDeeds_concat, List.filterMap_append]
  cases job.saveDeed? input with
  | none => simp [saveAnswers]
  | some deed => cases deed <;> simp [saveAnswers, SaveDeed.outcome?]

/-- Every save consumes one of the failures, as long as there are any. -/
theorem SaveHistory.consumes (history : SaveHistory first id past engine) :
    saveAnswers past = (List.range' 1 (saveAnswers past).length).map
      (MemoryStore.answer first.store.failingWrites) ∧
    engine.store.failingWrites =
      first.store.failingWrites - (saveAnswers past).length := by
  induction history with
  | start => exact ⟨rfl, rfl⟩
  | @saved past engine job errand failures history found phase now inductionHypothesis =>
    obtain ⟨answers, left⟩ := inductionHypothesis
    obtain ⟨outcome, consumed⟩ :=
      MemoryStore.put_answer (job.run.handed errand) engine.store
    rw [← Run.performSave_handed] at outcome consumed
    have grown : saveAnswers (past ++
        [⟨job, now, .saved (performSave job.run errand engine.store).1⟩]) =
          saveAnswers past ++ [MemoryStore.answer engine.store.failingWrites 1] := by
      rw [saveAnswers_concat, ← outcome]
      simp only [saveDeed?, phase]
      rfl
    rw [(save_found found phase now).2, consumed, grown, left, MemoryStore.answer_left,
      List.length_append, List.length_singleton, List.range'_1_concat, List.map_append, ← answers,
      Nat.add_comm 1]
    exact ⟨rfl, Nat.sub_sub _ _ _⟩
  | @advanced past engine job history found now input unsaved inductionHypothesis =>
    have same : saveAnswers (past ++ [⟨job, now, input⟩]) = saveAnswers past := by
      rw [saveAnswers_concat]
      cases input with
      | saved outcome => exact absurd rfl (unsaved outcome)
      | _ => cases phase : job.run.phase <;> simp [saveDeed?, phase, SaveDeed.outcome?]
    rw [same, advance_store]
    exact inductionHypothesis
  | elsewhere history jobs store inductionHypothesis =>
    rw [store]
    exact inductionHypothesis

theorem saveRounds_answers (policy : RetryPolicy) (outcomes : Nat → Except StoreError Unit)
    (failed : Nat) : (policy.saveRounds outcomes failed).filterMap SaveDeed.outcome? =
      (List.range' 1 failed).map outcomes := by
  induction failed with
  | zero => rfl
  | succ failed inductionHypothesis =>
    rw [RetryPolicy.saveRounds_succ, List.filterMap_append, inductionHypothesis,
      List.range'_1_concat, List.map_append, Nat.add_comm 1]
    rfl

/-- The answers to the saves of one errand are the outcomes up to the last one. -/
theorem saveAnswers_ended {outcomes : Nat → Except StoreError Unit}
    {outcome : Except StoreError Unit} (ended : SaveEnded start errand outcomes past job outcome) :
    saveAnswers past =
      (List.range' 1 (start.run.infraRetry.lastSave outcomes)).map outcomes := by
  have positive := (start.run.infraRetry.lastSave_isLast outcomes).positive
  obtain ⟨failed, last⟩ := Nat.exists_eq_add_of_lt positive
  rw [Nat.zero_add] at last
  rw [saveAnswers, ended.deeds, ended.last, last, Nat.add_sub_cancel, List.filterMap_append,
    saveRounds_answers, List.range'_1_concat, List.map_append, Nat.add_comm 1]
  rfl

/-- A save outlasts fewer failures than the policy allows attempts. -/
theorem SaveHistory.outlasts {outcomes : Nat → Except StoreError Unit}
    {outcome : Except StoreError Unit} (history : SaveHistory first id past engine)
    (ended : SaveEnded start errand outcomes past job outcome) :
    (outcome = .ok () ↔
      first.store.failingWrites < start.run.infraRetry.limit) ∧
    engine.store.failingWrites = first.store.failingWrites -
      min first.store.failingWrites start.run.infraRetry.limit := by
  obtain ⟨answers, left⟩ := history.consumes
  obtain ⟨positive, allowed, _, _⟩ := start.run.infraRetry.lastSave_isLast outcomes
  rw [saveAnswers_ended ended, List.length_map, List.length_range'] at answers left
  have same {number : Nat} (above : 0 < number)
      (below : number ≤ start.run.infraRetry.lastSave outcomes) :
      outcomes number = .ok () ↔ first.store.failingWrites < number := by
    rw [List.map_inj_left.mp answers number (List.mem_range'_1.mpr ⟨above, by omega⟩),
      MemoryStore.answer_ok]
  have succeeds := same positive (Nat.le_refl _)
  have before : start.run.infraRetry.lastSave outcomes ≤ first.store.failingWrites + 1 := by
    by_contra many
    have fails : outcomes (first.store.failingWrites + 1) ≠ .ok () :=
      RetryPolicy.lastSave_earlier (Nat.succ_pos _) (Nat.lt_of_not_le many)
    rw [Ne, same (Nat.succ_pos _) (by omega)] at fails
    omega
  have spent (fails : ¬first.store.failingWrites < start.run.infraRetry.lastSave outcomes) :
      start.run.infraRetry.lastSave outcomes = start.run.infraRetry.limit := by
    rw [← succeeds] at fails
    exact RetryPolicy.lastSave_fails fails
  rw [left, ended.last, succeeds]
  omega

/-- Wherever a save stands, the store or the end of a pause carries it on. -/
theorem SaveHistory.follows (history : SaveHistory first id past engine)
    (found : engine.jobs.get? id = some job)
    (stands : AtSave start errand (MemoryStore.answer first.store.failingWrites) past job) :
    ∃ now input deed, (∃ after, SaveHistory first id (past ++ [⟨job, now, input⟩]) after ∧
        after.jobs.get? id = some (job.advance now input).1) ∧
      job.saveDeed? input = some deed ∧ ∀ number outcome, deed = .saved number outcome →
        outcome = MemoryStore.answer first.store.failingWrites number := by
  have saves := stands.saves
  generalize phase : job.run.phase = current at saves
  generalize deeds : saveDeeds past = done at saves
  cases saves with
  | @saving failed more =>
    have made : (saveAnswers past).length = failed := by
      rw [saveAnswers, deeds, saveRounds_answers, List.length_map, List.length_range']
    have outcome : (performSave job.run errand engine.store).1 =
        MemoryStore.answer first.store.failingWrites (failed + 1) := by
      rw [Run.performSave_handed, (MemoryStore.put_answer _ _).1, history.consumes.2, made,
        MemoryStore.answer_left]
    refine ⟨⟨⟨0, 0⟩, 0⟩, .saved (performSave job.run errand engine.store).1, _,
      ⟨_, history.saved found phase _, (save_found found phase _).1⟩,
      saveDeed_saving phase more _, ?_⟩
    intro number answer same
    cases same
    exact outcome
  | @pausing failed more =>
    exact ⟨⟨⟨0, 0⟩, 0⟩, .rested, _, ⟨_, history.advanced found _ (by simp),
      advance_found found _ _⟩, saveDeed_pausing phase, by simp⟩

/-- On a store in memory every save comes to its end. -/
theorem save_ends (found : first.jobs.get? id = some start)
    (begun : start.run.phase = .saving errand 0) :
    ∃ past engine last outcome, SaveHistory first id past engine ∧
      engine.jobs.get? id = some last ∧ SaveCourse start past last (some outcome) ∧
      SaveEnded start errand (MemoryStore.answer first.store.failingWrites) past last outcome := by
  have stands : AtSave start errand (MemoryStore.answer first.store.failingWrites) [] start :=
    SaveCourse.stands begun .start nofun
  let reached (past : List Job.Occurrence) (job : Job) : Prop :=
    ∃ engine, SaveHistory first id past engine ∧ engine.jobs.get? id = some job
  obtain ⟨past, last, outcome, course, ended, engine, history, there⟩ :=
    SaveCourse.start.ends reached (fun _ _ ⟨_, history, found⟩ => history.follows found) stands
      ⟨first, .start, found⟩
  exact ⟨past, engine, last, outcome, history, there, course, ended⟩

/-- The bounds of the loop hold whatever the policy is. -/
structure SaveBounds (policy : RetryPolicy) (outcomes : Nat → Except StoreError Unit) : Prop where
  first : ∀ first, RetryPolicy.FirstSuccess outcomes first →
    policy.lastSave outcomes = min first policy.limit ∧
    (outcomes (policy.lastSave outcomes) = .ok () ↔ first ≤ policy.limit)
  never : (∀ number, 0 < number → outcomes number ≠ .ok ()) →
    policy.lastSave outcomes = policy.limit ∧
    outcomes (policy.lastSave outcomes) ≠ .ok ()
  delays : ∀ failed : UInt32, (policy.backoff failed).toNat =
    min (policy.baseDelayMs.toNat * 2 ^ min (failed.toNat - 1) 32) policy.maxDelayMs.toNat
  longer : ∀ earlier later, earlier ≤ later → policy.delay earlier ≤ policy.delay later
  longest : ∀ failed, policy.delay failed ≤ policy.maxDelayMs.toNat

theorem saveBounds (policy : RetryPolicy) (outcomes : Nat → Except StoreError Unit) :
    SaveBounds policy outcomes where
  first _ success := ⟨RetryPolicy.lastSave_first success, RetryPolicy.lastSave_succeeds success⟩
  never fails := ⟨RetryPolicy.lastSave_never fails,
    fails _ (policy.lastSave_isLast outcomes).positive⟩
  delays := policy.backoff_toNat
  longer _ _ := policy.delay_mono
  longest := policy.delay_le

/-- The loop stands as its deeds tell, and it can be carried on to its end. -/
structure SaveLoop (start : Job) (errand : Errand) (outcomes : Nat → Except StoreError Unit)
    (past : List Job.Occurrence) (job : Job) (result : Option (Except StoreError Unit)) :
    Prop where
  stands : SaveStands start errand outcomes past job result
  carried : result = none → ∃ later last outcome,
    SaveCourse start (past ++ later) last (some outcome) ∧
    SaveEnded start errand outcomes (past ++ later) last outcome ∧
    ∀ occurrence ∈ later, occurrence.input.CarriesSaveOn outcomes
  pauses : result = none → ∀ failures, job.run.phase = .pausing errand failures →
    ∀ (S : Type) [ExecutionStore S] (simulation : Simulation S) (id : Uuid),
      simulation.engine.jobs.get? id = some job →
      simulation.PauseMove id (start.run.infraRetry.delay failures.toNat)
        (simulation.moveRun id).simulation
  outlasts : ∀ outcome, result = some outcome → ∀ (id : Uuid) (first engine : Engine MemoryStore),
    SaveHistory first id past engine →
    (outcome = .ok () ↔
      first.store.failingWrites < start.run.infraRetry.limit) ∧
    engine.store.failingWrites = first.store.failingWrites -
      min first.store.failingWrites start.run.infraRetry.limit

/-- A run saves until the first success or until its policy is exhausted. -/
theorem save_loop_exact {start : Job} {errand : Errand}
    (begun : start.run.phase = .saving errand 0) :
    (∀ outcomes past job result, SaveCourse start past job result →
      (∀ number outcome, .saved number outcome ∈ saveDeeds past → outcome = outcomes number) →
      SaveLoop start errand outcomes past job result) ∧
    (∀ outcomes, SaveBounds start.run.infraRetry outcomes) ∧
    ∀ (id : Uuid) (first : Engine MemoryStore), first.jobs.get? id = some start →
      ∃ past engine last outcome, SaveHistory first id past engine ∧
        engine.jobs.get? id = some last ∧ SaveCourse start past last (some outcome) ∧
        (outcome = .ok () ↔
          first.store.failingWrites < start.run.infraRetry.limit) ∧
        engine.store.failingWrites = first.store.failingWrites -
          min first.store.failingWrites start.run.infraRetry.limit := by
  refine ⟨?_, saveBounds start.run.infraRetry, ?_⟩
  · intro outcomes past job result course obeys
    have stands := course.stands begun obeys
    refine ⟨stands, ?_, ?_, ?_⟩
    · rintro rfl
      exact course.carried stands
    · rintro rfl failures phase S _ simulation id present
      rw [← AtSave.infraRetry stands]
      exact Simulation.moveRun_pause present phase
    · rintro outcome rfl id first engine history
      exact history.outlasts stands
  · intro id first found
    obtain ⟨past, engine, last, outcome, history, there, course, ended⟩ := save_ends found begun
    exact ⟨past, engine, last, outcome, history, there, course, history.outlasts ended⟩

end

/-- A job that has just been opened, with its header to be saved. -/
def openedPair : Job :=
  (ofPair.advance ⟨⟨0, 0⟩, 0⟩ .opened).1

/-- The store fails to save the header, and saves it after a pause. -/
def repeatedSave : List Job.Occurrence × Job :=
  Job.replay [] openedPair
    (atOnce [.saved (.error MemoryStore.injectedFailure), .rested, .saved (.ok ())])

/-- This engine holds the opened job, and its store is to fail three writes. -/
def flakyEngine : Engine MemoryStore :=
  { create {} .builtin { failingWrites := 3 } ⟨0⟩ with jobs := [(.nil, openedPair)] }

/-- In this loop there are two saves, with the base delay between them. -/
theorem repeatedSave_exact :
    saveDeeds repeatedSave.1 =
      [.saved 1 (.error MemoryStore.injectedFailure), .rested 100, .saved 2 (.ok ())] ∧
    SaveLoop openedPair .opening (MemoryStore.answer 1) repeatedSave.1 repeatedSave.2
      (some (.ok ())) ∧
    SaveBounds openedPair.run.infraRetry (MemoryStore.answer 1) ∧
    ∃ past engine last outcome,
      SaveHistory flakyEngine .nil past engine ∧ engine.jobs.get? .nil = some last ∧
      SaveCourse openedPair past last (some outcome) ∧
      outcome ≠ .ok () ∧ engine.store.failingWrites = 0 := by
  obtain ⟨loop, bounds, ends⟩ := @save_loop_exact openedPair .opening rfl
  have deeds : saveDeeds repeatedSave.1 =
      [.saved 1 (.error MemoryStore.injectedFailure), .rested 100, .saved 2 (.ok ())] := by
    decide +kernel
  have failed := (@SaveCourse.start openedPair).next ⟨⟨0, 0⟩, 0⟩
    (.saved (.error MemoryStore.injectedFailure))
  have rested := SaveCourse.next failed ⟨⟨0, 0⟩, 0⟩ .rested
  have answer : (Job.replay [] openedPair (atOnce [.saved (.error MemoryStore.injectedFailure),
      .rested])).2.lastAnswer? ⟨⟨0, 0⟩, 0⟩ (.saved (.ok ())) = some (.ok ()) := by
    decide +kernel
  have course : SaveCourse openedPair repeatedSave.1 repeatedSave.2 (some (.ok ())) :=
    answer ▸ SaveCourse.next rested ⟨⟨0, 0⟩, 0⟩ (.saved (.ok ()))
  refine ⟨deeds, loop _ _ _ _ course ?_, bounds _, ?_⟩
  · intro number outcome member
    rw [deeds] at member
    simp at member
    rcases member with ⟨rfl, rfl⟩ | ⟨rfl, rfl⟩ <;> rfl
  · obtain ⟨past, engine, last, outcome, history, found, ended, succeeds, left⟩ :=
      ends .nil flakyEngine rfl
    refine ⟨past, engine, last, outcome, history, found, ended, ?_, left.trans (by decide)⟩
    rw [Ne, succeeds]
    decide

end Engine

end WorkflowEngine
