/-
This file proves that a store in memory mirrors the executions of an engine. As long as no save of
an execution has exhausted its retries, the store gives back what its run has come to whenever it
waits, and its end once it has ended.
-/

import WorkflowEngine.Proofs.Engine.TerminalReads
import WorkflowEngine.Proofs.Execution.Dispatch
import WorkflowEngine.Proofs.Execution.MirroredRun

namespace WorkflowEngine

/-- The store has nothing of a job that was prepared, and its run has nothing to save. -/
theorem Job.prepare_mirrored (executor : Executor) (plan : Plan) (infraRetry : RetryPolicy)
    (timeoutMs : Nat) (id tenantId : Uuid) (triggerInput : Json) :
    (prepare executor plan infraRetry timeoutMs
      (.pending plan id tenantId triggerInput)).run.Mirrored [] := by
  intro index record found _
  have pending : record ∈ plan.steps.map fun step => StepRecord.pending step.nodeId :=
    List.mem_of_getElem? found
  obtain ⟨step, _, rfl⟩ := List.mem_map.mp pending
  rfl

namespace Engine

section

variable {past : List (Occurrence MemoryStore)} {occurrence : Occurrence MemoryStore} {id : Uuid}
  {engine : Engine MemoryStore}

/-- An execution in memory is mirrored by its saves, and its end after that. -/
structure Reflected (past : List (Occurrence MemoryStore)) (engine : Engine MemoryStore)
    (id : Uuid) : Prop where
  held : ∀ job, engine.jobs.get? id = some job → job.run.Mirrored (acknowledged past id)
  gone : engine.jobs.get? id = none → ∀ shown, Ends past id shown →
    Saved.assembled (acknowledged past id) = some shown

/-- A call that exhausts no save of an execution leaves it reflected. -/
theorem Reflected.next (reflected : Reflected past occurrence.before id)
    (chronicled : Chronicled past occurrence.before id) (balanced : Balanced past occurrence.before)
    (distinct : ((admitted (past ++ [occurrence])).map Prod.fst).Nodup)
    (fate : Fate occurrence id) (unexhausted : occurrence.exhausts id = false) :
    Reflected (past ++ [occurrence]) occurrence.after id := by
  have ended (missing : occurrence.after.jobs.get? id = none) {shown : Execution}
      (ends : Ends (past ++ [occurrence]) id shown) : Ends past id shown :=
    ⟨published_same (Occurrence.published_missing missing) ▸ ends.last, ends.terminal⟩
  cases fate with
  | still jobs silent =>
    have same : acknowledged (past ++ [occurrence]) id = acknowledged past id :=
      acknowledged_same silent
    constructor
    · intro job found
      rw [same]
      exact reflected.held job (jobs.symm.trans found)
    · intro missing shown ends
      rw [same]
      exact reflected.gone (jobs.symm.trans missing) shown (ended missing ends)
  | begun plan wellFormed tenantId input drawn admission found silent =>
    obtain ⟨billed, admission⟩ := admission
    have fresh := admission_fresh distinct admission
    refine ⟨fun job known => ?_, fun missing => by simp [found] at missing⟩
    cases chronicled with
    | held _ _ chronicle => exact absurd chronicle.admitted fresh
    | gone _ _ _ _ chronicle => exact absurd chronicle.admitted fresh
    | unknown _ quiet =>
      rw [found, Option.some.injEq] at known
      rw [acknowledged_same silent, quiet, ← known]
      exact Job.prepare_mirrored _ plan _ _ _ tenantId input
  | moved job now input found after saved exhausts =>
    refine ⟨fun last known => ?_, fun missing => by simp [after] at missing⟩
    obtain ⟨_, _, _, _, _, _, _, wellFormed, course, _⟩ := (chronicled.of_found found).course
    rw [after, Option.some.injEq] at known
    rw [acknowledged_concat, saved, ← known]
    exact course.mirrored_next wellFormed (reflected.held job found) now input
      fun exhausted => by simp [exhausts exhausted] at unexhausted
  | forgotten job found closed missing silent =>
    refine ⟨fun last known => by simp [missing] at known, fun _ shown ends => ?_⟩
    obtain ⟨_, _, _, _, _, _, _, wellFormed, course, _⟩ := (chronicled.of_found found).course
    have last := (balanced.accounted id job found).shown
    rw [(ended missing ends).last, Option.some.injEq] at last
    rw [acknowledged_same silent, last]
    exact course.assembled_closed wellFormed (reflected.held job found) closed

end

section

variable {config : EngineConfig} {catalog : Catalog} {first : MemoryStore} {ids : IdSource}
  {past : List (Occurrence MemoryStore)} {engine : Engine MemoryStore} {id : Uuid}

/-- All along a course that exhausts no save of an execution this execution is reflected. -/
theorem Course.reflected (course : Course (create config catalog first ids) past engine)
    (genuine : ∀ occurrence ∈ past, occurrence.Genuine)
    (distinct : ((admitted past).map Prod.fst).Nodup)
    (unexhausted : ∀ occurrence ∈ past, occurrence.exhausts id = false) :
    Reflected past engine id := by
  induction course with
  | start =>
    refine ⟨fun _ found => ?_, fun _ _ ends => nomatch ends.last⟩
    simp [create, Table.get?] at found
  | @next past engine course call inductionHypothesis =>
    have earlier := admitted_distinct distinct
    have before (occurrence : Occurrence MemoryStore) (member : occurrence ∈ past) :
        occurrence.Genuine ∧ occurrence.exhausts id = false :=
      ⟨genuine occurrence (List.mem_append_left _ member),
        unexhausted occurrence (List.mem_append_left _ member)⟩
    have reflected := inductionHypothesis (fun occurrence member => (before occurrence member).1)
      earlier fun occurrence member => (before occurrence member).2
    have chronicled := (course.chronicled (fun occurrence member => (before occurrence member).1)
      earlier).2 id
    have fate : Fate ⟨engine, call⟩ id :=
      perform_fate (genuine ⟨engine, call⟩ (by simp)) course.wellPlanned id
    exact reflected.next chronicled (course.balanced earlier) distinct fate
      (unexhausted ⟨engine, call⟩ (by simp))

/-- The store gives back what the run has come to whenever it waits. -/
structure StoreMirrors (past : List (Occurrence MemoryStore)) (engine : Engine MemoryStore)
    (id : Uuid) : Prop where
  waiting : ∀ job, engine.jobs.get? id = some job → job.run.phase = .waiting →
    engine.store.execution id = .ok job.run.execution.recorded
  closed : ∀ job, engine.jobs.get? id = some job → job.run.phase = .closed →
    engine.store.execution id = .ok job.snapshot ∧ job.snapshot.status.isTerminal = true
  evicted : engine.jobs.get? id = none → ∀ shown, Ends past id shown →
    engine.store.execution id = .ok shown

/-- Saves that are repeated, but do not exhaust their retries, mirror the execution. -/
theorem store_mirrors (course : Course (create config catalog first ids) past engine)
    (genuine : ∀ occurrence ∈ past, occurrence.Genuine)
    (distinct : ((admitted past).map Prod.fst).Nodup) (unheard : first.Unheard id)
    (unexhausted : ∀ occurrence ∈ past, occurrence.exhausts id = false) :
    StoreMirrors past engine id := by
  have reflected := course.reflected genuine distinct unexhausted
  obtain ⟨mirrors, chronicled⟩ := course.chronicled genuine distinct
  have given {execution : Execution}
      (together : Saved.assembled (acknowledged past id) = some execution) :
      engine.store.execution id = .ok execution := by
    rw [mirrors.execution unheard, together]
  refine ⟨fun job found waits => given ?_, fun job found closed => ?_,
    fun missing shown ends => given (reflected.gone missing shown ends)⟩
  · have mirrored := reflected.held job found
    simp only [Run.Mirrored, waits] at mirrored
    exact mirrored.assembled
  · obtain ⟨_, _, _, _, _, _, _, wellFormed, course, _⟩ :=
      ((chronicled id).of_found found).course
    refine ⟨given (course.assembled_closed wellFormed (reflected.held job found) closed), ?_⟩
    rcases course.holds_or_done with holds | done
    · have opened := holds.opened
      simp [Run.Open, closed] at opened
    · exact done.ended

end

/-- The save of the header is repeated before the first step runs. -/
def retriedTwins : List (Occurrence MemoryStore) × Engine MemoryStore :=
  replay [] (create {} [("passthrough", .passthrough)] { failingWrites := 1 } ⟨0⟩)
    (.startExecution .twins .nil .null :: scripted (Job.atOnce
      [.opened, .saved (.ok ()), .rested, .saved (.ok ()), .saved (.ok ())]))

/-- What the store gives back of the waiting twins shows the second one as pending. -/
theorem retriedTwins_store_mirrors :
    (∀ occurrence ∈ retriedTwins.1, occurrence.Genuine) ∧
    ((admitted retriedTwins.1).map Prod.fst).Nodup ∧
    ({ failingWrites := 1 } : MemoryStore).Unheard ⟨0⟩ ∧
    (∀ occurrence ∈ retriedTwins.1, occurrence.exhausts ⟨0⟩ = false) ∧
    StoreMirrors retriedTwins.1 retriedTwins.2 ⟨0⟩ ∧
    ∃ job, retriedTwins.2.jobs.get? ⟨0⟩ = some job ∧
      job.run.execution.steps.map StepRecord.status = [.running, .ready] ∧
      retriedTwins.2.store.execution ⟨0⟩ = .ok job.run.execution.recorded ∧
      job.run.execution.recorded.steps.map StepRecord.status = [.running, .pending] := by
  have course : Course (create {} [("passthrough", .passthrough)] { failingWrites := 1 } ⟨0⟩)
      retriedTwins.1 retriedTwins.2 := Course.start.replay _
  have genuine : ∀ occurrence ∈ retriedTwins.1, occurrence.Genuine :=
    started_genuine (Compiler.compile_wellFormed Plan.twins_compiled) _ _
  have known : (admitted retriedTwins.1).map Prod.fst = [⟨0⟩] := by decide +kernel
  have distinct : ((admitted retriedTwins.1).map Prod.fst).Nodup := by
    rw [known]
    decide
  have unheard : ({ failingWrites := 1 } : MemoryStore).Unheard ⟨0⟩ := ⟨rfl, fun _ => rfl⟩
  have unexhausted : ∀ occurrence ∈ retriedTwins.1, occurrence.exhausts ⟨0⟩ = false := by
    decide +kernel
  have mirrors : StoreMirrors retriedTwins.1 retriedTwins.2 ⟨0⟩ :=
    store_mirrors course genuine distinct unheard unexhausted
  have shown : (retriedTwins.2.jobs.get? ⟨0⟩).map (fun job =>
      (job.run.phase, job.run.execution.steps.map StepRecord.status,
        job.run.execution.recorded.steps.map StepRecord.status)) =
      some (.waiting, [.running, .ready], [.running, .pending]) := by decide +kernel
  obtain ⟨job, found, same⟩ := Option.map_eq_some_iff.mp shown
  obtain ⟨waits, states⟩ := Prod.mk.inj same
  obtain ⟨ready, pending⟩ := Prod.mk.inj states
  exact ⟨genuine, distinct, unheard, unexhausted, mirrors, job, found, ready,
    mirrors.waiting job found waits, pending⟩

end Engine

end WorkflowEngine
