/-
This file proves what is read of an execution that has ended. As long as it is in memory every read
gives its end, and after that the store gives its end exactly if it was saved through.
-/

import WorkflowEngine.Proofs.Engine.Chronicle

namespace WorkflowEngine

/-- A closing input publishes the end and nothing else. -/
theorem Job.Gives.snapshots {after : Job} {effects : List Effect} (gives : Gives after effects) :
    effects.filterMap Effect.snapshot? = [after.snapshot] := by
  obtain ⟨earlier, rfl, quiet⟩ := gives.told
  have silent : earlier.filterMap Effect.snapshot? = [] := by
    apply List.filterMap_eq_nil_iff.mpr
    intro effect member
    cases effect with
    | publish snapshot => exact absurd rfl ((quiet _ member).2 snapshot)
    | _ => rfl
  rw [List.filterMap_append, silent]
  rfl

/-- Holding effects publish no end. -/
theorem Effect.Holding.snapshots {effects : List Effect}
    (holding : ∀ effect ∈ effects, effect.Holding) {snapshot : Execution}
    (member : snapshot ∈ effects.filterMap Effect.snapshot?) :
    snapshot.status.isTerminal = false := by
  obtain ⟨effect, told, shows⟩ := List.mem_filterMap.mp member
  cases effect with
  | publish other =>
    cases shows
    exact holding _ told
  | _ => cases shows

/-- Stores that took the same writes for an execution give the same back. -/
theorem MemoryStore.Mirrors.execution_same {first one two : MemoryStore}
    {saved savedLater : Uuid → List Saved} (before : first.Mirrors one saved)
    (after : first.Mirrors two savedLater) {id : Uuid} (same : savedLater id = saved id) :
    two.execution id = one.execution id := by
  have header : two.executions.get? id = one.executions.get? id := by
    rw [after.header, before.header, same]
  have record (nodeId : String) : two.stepRecord? id nodeId = one.stepRecord? id nodeId := by
    rw [stepRecord?, stepRecord?, after.record, before.record, same]
  rw [MemoryStore.execution, MemoryStore.execution, header]
  simp only [record]

namespace Engine

section

variable {S : Type} [ExecutionStore S]

/-- A course goes on with another one. -/
theorem Course.append {start between engine : Engine S} {earlier later : List (Occurrence S)}
    (first : Course start earlier between) (rest : Course between later engine) :
    Course start (earlier ++ later) engine := by
  induction rest with
  | start => rwa [List.append_nil]
  | next rest call inductionHypothesis =>
    rw [← List.append_assoc]
    exact inductionHypothesis.next call

/-- A wait that watches a job answers with the first end that it sees. -/
def waited (engine : Engine S) (later : List (Occurrence S)) (id : Uuid) :
    Option (Except EngineError Execution) :=
  match engine.job? engine.executor.name id with
  | some job =>
    ((job.snapshot :: published later id).find? fun snapshot => snapshot.status.isTerminal).map .ok
  | none => some (engine.status id).1

/-- The status is this answer, and every wait that begins now gives it. -/
structure Reads (engine : Engine S) (id : Uuid) (answer : Except EngineError Execution) :
    Prop where
  status : (engine.status id).1 = answer
  waits : ∀ later, waited engine later id = some answer

/-- A store answers with what it has acknowledged of the execution. -/
def restored (saved : List Saved) (id : Uuid) : Except EngineError Execution :=
  match Saved.assembled saved with
  | some execution => .ok execution
  | none => .error (.unknownExecution id)

/-- An execution ends with the snapshot that is published last if that one has ended. -/
structure Ends (past : List (Occurrence S)) (id : Uuid) (shown : Execution) : Prop where
  last : (published past id).getLast? = some shown
  terminal : shown.status.isTerminal = true

end

section

variable {past : List (Occurrence MemoryStore)} {occurrence : Occurrence MemoryStore} {id : Uuid}
  {engine : Engine MemoryStore}

/-- Nothing is published after the end, or before the admission. -/
structure Final (past : List (Occurrence MemoryStore)) (id : Uuid) : Prop where
  unheard : id ∉ (admitted past).map Prod.fst → published past id = []
  last : ∀ shown ∈ published past id, shown.status.isTerminal = true →
    (published past id).getLast? = some shown

theorem Final.same (final : Final past id) (silent : occurrence.published id = []) :
    Final (past ++ [occurrence]) id := by
  constructor
  · intro absent
    rw [published_same silent]
    exact final.unheard fun member => absent (admitted_mono occurrence member)
  · rw [published_same silent]
    exact final.last

/-- A call publishes nothing of an execution that has ended. -/
theorem Final.next (final : Final past id) (balanced : Balanced past occurrence.before)
    (distinct : ((admitted (past ++ [occurrence])).map Prod.fst).Nodup) :
    Final (past ++ [occurrence]) id := by
  cases perform_traffic occurrence with
  | quiet _ _ _ _ _ published => exact final.same (published id)
  | evicts _ _ _ _ _ _ _ _ _ published => exact final.same (published id)
  | admits tenantId job admits admission _ tells =>
    by_cases drawn : occurrence.before.ids.draw.1 = id
    · have now : admitted (past ++ [occurrence]) = admitted past ++ [(id, tenantId)] := by
        simp [admitted_concat, admission, drawn]
      have fresh := drawn ▸ admission_fresh distinct admission
      have only : published (past ++ [occurrence]) id = [job.snapshot] := by
        rw [published_concat, final.unheard fresh, tells, if_pos drawn, List.nil_append]
      constructor
      · intro absent
        simp [now] at absent
      · rw [only]
        intro shown member _
        rw [List.mem_singleton.mp member]
        rfl
    · exact final.same (by rw [tells, if_neg drawn])
  | moves other job now input moves _ effects tells =>
    by_cases same : other = id
    · subst same
      have accounted := balanced.accounted other job moves.found
      have billed : other ∈ (admitted past).map Prod.fst :=
        List.mem_map.mpr ⟨_, accounted.billed, rfl⟩
      have told : occurrence.published other =
          (job.advance now input).2.filterMap Effect.snapshot? := by
        rw [tells, effects, if_pos rfl]
      rcases accounted.slot with ⟨holds, _⟩ | ⟨done, _⟩
      · -- nothing that was published before has ended, or it would be the snapshot of the job
        have before (shown : Execution) (member : shown ∈ published past other) :
            shown.status.isTerminal = false := by
          by_contra ended
          have last := final.last shown member (by simpa using ended)
          rw [accounted.shown, Option.some.injEq] at last
          exact ended (last ▸ holds.unended)
        constructor
        · intro absent
          exact absurd (admitted_mono occurrence billed) absent
        · intro shown member terminal
          rw [published_concat] at member ⊢
          rcases List.mem_append.mp member with old | new
          · simp [before shown old] at terminal
          · rw [told] at new ⊢
            rcases holds.next now input with ⟨_, holding⟩ | gives
            · simp [Effect.Holding.snapshots holding new] at terminal
            · rw [gives.snapshots] at new ⊢
              rw [List.mem_singleton.mp new, List.getLast?_concat]
      · apply final.same
        rw [told, (done.next now input).2.2]
        rfl
    · exact final.same (by rw [tells, effects, if_neg same]; rfl)

theorem status_held (balanced : Balanced past engine) {job : Job}
    (found : engine.jobs.get? id = some job) : (engine.status id).1 = .ok job.snapshot := by
  rw [status, balanced.watched found]

/-- A wait that watches a job answers with the first end that it sees. -/
theorem waited_held (balanced : Balanced past engine) {job : Job}
    (found : engine.jobs.get? id = some job) (later : List (Occurrence MemoryStore)) :
    waited engine later id = ((job.snapshot :: published later id).find? fun snapshot =>
      snapshot.status.isTerminal).map .ok := by
  rw [waited, balanced.watched found]

/-- What is not in memory is read from the store, by a wait as well. -/
theorem reads_missing (missing : engine.jobs.get? id = none) :
    Reads engine id ((engine.store.execution id).mapError (.ofExecutionLookup id)) := by
  have unknown : engine.job? engine.executor.name id = none := by
    rw [job?, missing]
    rfl
  have shown : (engine.status id).1 =
      (engine.store.execution id).mapError (.ofExecutionLookup id) := by
    rw [status, unknown]
    rfl
  constructor
  · exact shown
  · intro later
    rw [waited, unknown, shown]

theorem Reads.unique {one two : Except EngineError Execution} (first : Reads engine id one)
    (second : Reads engine id two) : one = two :=
  first.status.symm.trans second.status

/-- Nothing is held or saved of an execution that nobody admits. -/
theorem Course.absent {between : Engine MemoryStore} {later : List (Occurrence MemoryStore)}
    (rest : Course between later engine) (missing : between.jobs.get? id = none)
    (unadmitted : id ∉ (admitted later).map Prod.fst) :
    engine.jobs.get? id = none ∧ acknowledged later id = [] := by
  induction rest with
  | start => exact ⟨missing, rfl⟩
  | @next later engine rest call inductionHypothesis =>
    obtain ⟨absent, silent⟩ := inductionHypothesis fun member =>
      unadmitted (admitted_mono ⟨engine, call⟩ member)
    have nothing : acknowledged (later ++ [⟨engine, call⟩]) id = [] :=
      (acknowledged_same (Occurrence.acknowledged_missing absent)).trans silent
    refine ⟨?_, nothing⟩
    cases perform_traffic ⟨engine, call⟩ with
    | quiet jobs => exact (congrArg (Table.get? · id) jobs).trans absent
    | admits tenantId job admits admission =>
      have different : engine.ids.draw.1 ≠ id := by
        rintro rfl
        simp [admitted_concat, admission] at unadmitted
      have jobs : (engine.perform call).2.jobs = engine.jobs.insert engine.ids.draw.1 job :=
        admits.jobs
      rw [jobs, Table.getInsertOther _ _ different]
      exact absent
    | moves other job now input moves =>
      have different : other ≠ id := by
        rintro rfl
        exact Option.some_ne_none job (moves.found.symm.trans absent)
      have jobs : (engine.perform call).2.jobs =
          engine.jobs.insert other (job.advance now input).1 := moves.jobs
      rw [jobs, Table.getInsertOther _ _ different]
      exact absent
    | evicts other job found closed jobs =>
      have erased : (engine.perform call).2.jobs = engine.jobs.erase other := jobs
      rw [erased]
      by_cases same : other = id
      · rw [same, Table.getEraseSame]
      · rw [Table.getEraseOther _ same]
        exact absent

end

section

variable {config : EngineConfig} {catalog : Catalog} {store : MemoryStore} {ids : IdSource}
  {past earlier later : List (Occurrence MemoryStore)} {between engine : Engine MemoryStore}
  {id : Uuid}

/-- All along a course what is published is final. -/
theorem Course.final (course : Course (create config catalog store ids) past engine)
    (distinct : ((admitted past).map Prod.fst).Nodup) : Final past id := by
  induction course with
  | start => exact ⟨fun _ => rfl, nofun⟩
  | @next past engine course call inductionHypothesis =>
    have earlier := admitted_distinct distinct
    exact (inductionHypothesis earlier).next (course.balanced earlier) distinct

/-- The list `between` stands in the course of the engine, and `engine` at its end. -/
structure TerminalReads (earlier later : List (Occurrence MemoryStore))
    (between engine : Engine MemoryStore) (id : Uuid) : Prop where
  waits : between.jobs.get? id ≠ none → ∀ answer, waited between later id = some answer →
    ∃ shown, answer = .ok shown ∧ Ends (earlier ++ later) id shown
  shows : between.jobs.get? id ≠ none → ∀ shown, (between.status id).1 = .ok shown →
    shown.status.isTerminal = true → Ends (earlier ++ later) id shown
  held : engine.jobs.get? id ≠ none → ∀ shown, Ends (earlier ++ later) id shown →
    Reads engine id (.ok shown)
  ended : engine.jobs.get? id = none → id ∈ (admitted (earlier ++ later)).map Prod.fst →
    ∃ shown, Ends (earlier ++ later) id shown
  loaded : engine.jobs.get? id = none → id ∈ (admitted (earlier ++ later)).map Prod.fst →
    Reads engine id (restored (acknowledged (earlier ++ later) id) id)
  evicted : engine.jobs.get? id = none → ∀ shown, Ends (earlier ++ later) id shown →
    (Reads engine id (.ok shown) ↔ SavedThrough (acknowledged (earlier ++ later) id) shown)
  lasting : between.jobs.get? id = none → id ∉ (admitted later).map Prod.fst →
    ∀ answer, Reads between id answer → Reads engine id answer

/-- What is final stays the end. -/
theorem Final.ends (final : Final (earlier ++ later) id) {shown : Execution}
    (member : shown ∈ published (earlier ++ later) id) (terminal : shown.status.isTerminal = true) :
    Ends (earlier ++ later) id shown :=
  ⟨final.last shown member terminal, terminal⟩

theorem Final.admitted (final : Final past id) {shown : Execution} (ends : Ends past id shown) :
    id ∈ (admitted past).map Prod.fst := by
  by_contra absent
  have last := ends.last
  rw [final.unheard absent] at last
  cases last

/-- What was saved makes up the end exactly if the end was saved through. -/
theorem Chronicled.assembled_iff (chronicled : Chronicled past engine id)
    (missing : engine.jobs.get? id = none) {shown : Execution} (ends : Ends past id shown) :
    Saved.assembled (acknowledged past id) = some shown ↔
      SavedThrough (acknowledged past id) shown := by
  cases chronicled with
  | unknown _ silent =>
    rw [silent]
    constructor
    · nofun
    · intro through
      exact absurd through.header List.not_mem_nil
  | held job found => simp [missing] at found
  | gone job _ closed last chronicle =>
    rw [ends.last, Option.some.injEq] at last
    obtain ⟨_, _, _, _, _, _, _, wellFormed, course, same⟩ := chronicle.course
    rw [last, ← same]
    exact course.assembled_iff wellFormed closed

/-- What the snapshot of a job shows is published, and so is what comes after it. -/
theorem Balanced.published (balanced : Balanced earlier between) {job : Job}
    (found : between.jobs.get? id = some job) {shown : Execution}
    (member : shown ∈ job.snapshot :: published later id) :
    shown ∈ published (earlier ++ later) id := by
  have now := List.mem_of_getLast? (balanced.accounted id job found).shown
  rw [Engine.published, List.flatMap_append]
  rcases List.mem_cons.mp member with rfl | after
  · exact List.mem_append_left _ now
  · exact List.mem_append_right _ after

/-- A wait for an execution in memory answers with its end. -/
theorem Final.waits (final : Final (earlier ++ later) id) (balanced : Balanced earlier between)
    (present : between.jobs.get? id ≠ none) {answer : Except EngineError Execution}
    (answered : waited between later id = some answer) :
    ∃ shown, answer = .ok shown ∧ Ends (earlier ++ later) id shown := by
  obtain ⟨job, found⟩ := Option.ne_none_iff_exists'.mp present
  rw [waited_held balanced found] at answered
  obtain ⟨shown, sees, rfl⟩ := Option.map_eq_some_iff.mp answered
  have published := balanced.published found (List.mem_of_find?_eq_some sees)
  have terminal : shown.status.isTerminal = true := by simpa using List.find?_some sees
  exact ⟨shown, rfl, final.ends published terminal⟩

/-- A status of an execution in memory that has ended is its end. -/
theorem Final.shows (final : Final (earlier ++ later) id) (balanced : Balanced earlier between)
    (present : between.jobs.get? id ≠ none) {shown : Execution}
    (answer : (between.status id).1 = .ok shown) (terminal : shown.status.isTerminal = true) :
    Ends (earlier ++ later) id shown := by
  obtain ⟨job, found⟩ := Option.ne_none_iff_exists'.mp present
  rw [status_held balanced found, Except.ok.injEq] at answer
  exact final.ends (balanced.published found (by simp [answer])) terminal

/-- As long as an execution is in memory its end is read. -/
theorem Ends.reads {shown : Execution} (ends : Ends past id shown) (balanced : Balanced past engine)
    (present : engine.jobs.get? id ≠ none) : Reads engine id (.ok shown) := by
  obtain ⟨job, found⟩ := Option.ne_none_iff_exists'.mp present
  have last := (balanced.accounted id job found).shown
  rw [ends.last, Option.some.injEq] at last
  constructor
  · rw [status_held balanced found, last]
  · intro later
    rw [waited_held balanced found, ← last, List.find?_cons, ends.terminal]
    rfl

/-- An execution that was admitted and is not in memory any more has ended. -/
theorem Balanced.ends (balanced : Balanced past engine) (missing : engine.jobs.get? id = none)
    (member : id ∈ (admitted past).map Prod.fst) : ∃ shown, Ends past id shown := by
  have ended := (balanced.gone id member missing).1
  obtain ⟨shown, last, terminal⟩ := (Option.any_eq_true _ _).mp ended
  exact ⟨shown, last, terminal⟩

/-- What is not in memory is read as the store makes it up. -/
theorem restored_reads {saved : Uuid → List Saved} (mirrors : store.Mirrors engine.store saved)
    (unheard : store.Unheard id) (missing : engine.jobs.get? id = none) :
    Reads engine id (restored (saved id) id) := by
  have reads := reads_missing missing
  rw [mirrors.execution unheard] at reads
  unfold restored
  cases together : Saved.assembled (saved id) with
  | none =>
    rw [together] at reads
    exact reads
  | some execution =>
    rw [together] at reads
    exact reads

theorem restored_iff {saved : List Saved} (reads : Reads engine id (restored saved id))
    (shown : Execution) : Reads engine id (.ok shown) ↔ Saved.assembled saved = some shown := by
  unfold restored at reads
  cases together : Saved.assembled saved with
  | none =>
    rw [together] at reads
    constructor
    · intro wrong
      cases reads.unique wrong
    · nofun
  | some execution =>
    rw [together] at reads
    constructor
    · intro right
      rw [Except.ok.inj (reads.unique right)]
    · intro same
      rwa [Option.some.inj same] at reads

/-- The end is read in memory, and after eviction exactly if it was saved through. -/
theorem terminal_reads (first : Course (create config catalog store ids) earlier between)
    (rest : Course between later engine)
    (genuine : ∀ occurrence ∈ earlier ++ later, occurrence.Genuine)
    (distinct : ((admitted (earlier ++ later)).map Prod.fst).Nodup)
    (unheard : ∀ id ∈ (admitted (earlier ++ later)).map Prod.fst, store.Unheard id) (id : Uuid) :
    TerminalReads earlier later between engine id := by
  have whole := first.append rest
  have distinctBefore := admitted_distinct distinct
  have balanced := whole.balanced distinct
  have balancedBefore := first.balanced distinctBefore
  have final : Final (earlier ++ later) id := whole.final distinct
  obtain ⟨mirrors, chronicled⟩ := whole.chronicled genuine distinct
  have loaded (missing : engine.jobs.get? id = none)
      (member : id ∈ (admitted (earlier ++ later)).map Prod.fst) :
      Reads engine id (restored (acknowledged (earlier ++ later) id) id) :=
    restored_reads mirrors (unheard id member) missing
  refine
    { waits := fun present _ => final.waits balancedBefore present
      shows := fun present _ => final.shows balancedBefore present
      held := fun present _ ends => ends.reads balanced present
      ended := balanced.ends
      loaded := loaded
      evicted := ?_
      lasting := ?_ }
  · intro missing shown ends
    rw [restored_iff (loaded missing (final.admitted ends)) shown]
    exact (chronicled id).assembled_iff missing ends
  · intro missing unadmitted answer reads
    have earlyGenuine (occurrence : Occurrence MemoryStore) (member : occurrence ∈ earlier) :
        occurrence.Genuine := genuine occurrence (List.mem_append_left _ member)
    have mirrorsBefore := (first.chronicled earlyGenuine distinctBefore).1
    obtain ⟨absent, silent⟩ := rest.absent missing unadmitted
    have same : acknowledged (earlier ++ later) id = acknowledged earlier id := by
      rw [acknowledged, List.flatMap_append, ← acknowledged, ← acknowledged, silent,
        List.append_nil]
    have again := reads_missing absent
    rw [mirrorsBefore.execution_same mirrors same] at again
    rwa [reads.unique (reads_missing missing)]

end

/-- These calls take the first execution through what happens to its job. -/
def scripted (inputs : List (Moment × Job.Input)) : List (Call MemoryStore) :=
  inputs.map fun (now, input) =>
    match input with
    | .saved _ => .save now ⟨0⟩
    | input => .advance now ⟨0⟩ input

theorem scripted_genuine {inputs : List (Moment × Job.Input)} {call : Call MemoryStore}
    (member : call ∈ scripted inputs) (engine : Engine MemoryStore) :
    (Occurrence.mk engine call).Genuine := by
  obtain ⟨⟨now, input⟩, _, rfl⟩ := List.mem_map.mp member
  cases input <;> first | trivial | exact fun _ => nofun

/-- A script of calls that are genuine anywhere goes on with what is genuine. -/
theorem replay_genuine {past : List (Occurrence MemoryStore)} {engine : Engine MemoryStore}
    {script : List (Call MemoryStore)} (before : ∀ occurrence ∈ past, occurrence.Genuine)
    (calls : ∀ call ∈ script, ∀ engine, (Occurrence.mk engine call).Genuine) :
    ∀ occurrence ∈ (replay past engine script).1, occurrence.Genuine := by
  induction script generalizing past engine with
  | nil => exact before
  | cons call rest inductionHypothesis =>
    apply inductionHypothesis
    · intro occurrence member
      rcases List.mem_append.mp member with old | new
      · exact before occurrence old
      · rw [List.mem_singleton.mp new]
        exact calls call List.mem_cons_self engine
    · exact fun other member => calls other (List.mem_cons_of_mem _ member)

/-- A script of an execution with a well-formed plan is genuine. -/
theorem started_genuine {plan : Plan} (wellFormed : plan.WellFormed) (engine : Engine MemoryStore)
    (inputs : List (Moment × Job.Input)) :
    ∀ occurrence ∈ (replay [] engine (.startExecution plan .nil .null :: scripted inputs)).1,
      occurrence.Genuine := by
  apply replay_genuine (List.forall_mem_nil _)
  intro call member engine
  rcases List.mem_cons.mp member with rfl | later
  · exact wellFormed
  · exact scripted_genuine later engine

/-- The first step fails, so that only the header is left to be saved. -/
def endingPair : List (Occurrence MemoryStore) × Engine MemoryStore :=
  replay [] bare
    (.startExecution .pair .nil .null :: scripted (Job.pairScript (.failed (.fatal "broken"))))

theorem endingPair_genuine : ∀ occurrence ∈ endingPair.1, occurrence.Genuine :=
  started_genuine (Compiler.compile_wellFormed Plan.pair_compiled) bare _

/-- The header is saved as well, and the pair is forgotten. -/
def savedPair : List (Occurrence MemoryStore) × Engine MemoryStore :=
  replay [] endingPair.2 [.save ⟨⟨0, 0⟩, 0⟩ ⟨0⟩, .evict ⟨0⟩]

/-- The store refuses the header until the engine gives up and closes the run without it. -/
def lostPair : List (Occurrence MemoryStore) × Engine MemoryStore :=
  replay [] endingPair.2 (.setStore (endingPair.2.store.failNextWrites 3) ::
    scripted (Job.atOnce [.saved (.ok ()), .rested, .saved (.ok ()), .rested, .saved (.ok ())]))

/-- The end of the pair was saved through, and is read after the eviction. -/
theorem savedPair_terminal_reads :
    (∀ occurrence ∈ endingPair.1 ++ savedPair.1, occurrence.Genuine) ∧
    ((admitted (endingPair.1 ++ savedPair.1)).map Prod.fst).Nodup ∧
    (∀ id ∈ (admitted (endingPair.1 ++ savedPair.1)).map Prod.fst,
      ({} : MemoryStore).Unheard id) ∧
    TerminalReads endingPair.1 savedPair.1 endingPair.2 savedPair.2 ⟨0⟩ ∧
    ∃ shown, Reads savedPair.2 ⟨0⟩ (.ok shown) ∧ shown.status = .failed := by
  have first : Course bare endingPair.1 endingPair.2 := Course.start.replay _
  have rest : Course endingPair.2 savedPair.1 savedPair.2 := Course.start.replay _
  have genuine : ∀ occurrence ∈ endingPair.1 ++ savedPair.1, occurrence.Genuine := by
    intro occurrence member
    rcases List.mem_append.mp member with earlier | later
    · exact endingPair_genuine occurrence earlier
    · refine replay_genuine (List.forall_mem_nil _) (fun call listed engine => ?_) occurrence later
      simp only [List.mem_cons, List.not_mem_nil, or_false] at listed
      rcases listed with rfl | rfl <;> trivial
  have known : (admitted (endingPair.1 ++ savedPair.1)).map Prod.fst = [⟨0⟩] := by
    decide +kernel
  have distinct : ((admitted (endingPair.1 ++ savedPair.1)).map Prod.fst).Nodup := by
    rw [known]
    decide
  have unheard : ∀ id ∈ (admitted (endingPair.1 ++ savedPair.1)).map Prod.fst,
      ({} : MemoryStore).Unheard id := fun _ _ => ⟨rfl, fun _ => rfl⟩
  have reads : TerminalReads endingPair.1 savedPair.1 endingPair.2 savedPair.2 ⟨0⟩ :=
    terminal_reads first rest genuine distinct unheard ⟨0⟩
  have missing : savedPair.2.jobs.get? ⟨0⟩ = none := by decide +kernel
  have loaded := reads.loaded missing (by simp [known])
  have status : (Saved.assembled (acknowledged (endingPair.1 ++ savedPair.1) ⟨0⟩)).map
      Execution.status = some .failed := by decide +kernel
  obtain ⟨shown, together, failed⟩ := Option.map_eq_some_iff.mp status
  exact ⟨genuine, distinct, unheard, reads, shown, (restored_iff loaded shown).mpr together, failed⟩

theorem shown_of_status {answer : Except EngineError Execution} {status : ExecutionStatus}
    (known : answer.toOption.map Execution.status = some status) :
    ∃ shown, answer = .ok shown ∧ shown.status = status := by
  cases answer with
  | error error => cases known
  | ok shown => exact ⟨shown, rfl, Option.some.inj known⟩

/-- The end of the pair was lost, so that a wait answers with a running execution. -/
theorem lostPair_reads :
    (¬∀ (earlier later : List (Occurrence MemoryStore)) (between engine : Engine MemoryStore)
      (id : Uuid) (shown : Execution), Course bare earlier between → Course between later engine →
      (∀ occurrence ∈ earlier ++ later, occurrence.Genuine) →
      (between.status id).1 = .ok shown → shown.status.isTerminal = true →
      (engine.status id).1 = .ok shown) ∧
    ¬∀ (past later : List (Occurrence MemoryStore)) (engine : Engine MemoryStore) (id : Uuid)
      (shown : Execution), Course bare past engine →
      (∀ occurrence ∈ past, occurrence.Genuine) → waited engine later id = some (.ok shown) →
      shown.status.isTerminal = true := by
  have first : Course bare (endingPair.1 ++ lostPair.1) lostPair.2 :=
    Course.append (Course.start.replay _) (Course.start.replay _)
  have rest : Course lostPair.2 [⟨lostPair.2, .evict ⟨0⟩⟩] (lostPair.2.evict ⟨0⟩) :=
    Course.start.next (.evict ⟨0⟩)
  have genuine : ∀ occurrence ∈ (endingPair.1 ++ lostPair.1) ++ [⟨lostPair.2, .evict ⟨0⟩⟩],
      occurrence.Genuine := by
    intro occurrence member
    rcases List.mem_append.mp member with earlier | last
    · rcases List.mem_append.mp earlier with earlier | later
      · exact endingPair_genuine occurrence earlier
      · refine replay_genuine (fun occurrence member => ?_)
          (fun call listed engine => scripted_genuine listed engine) occurrence later
        rw [List.mem_singleton.mp member]
        exact ⟨rfl, rfl⟩
    · rw [List.mem_singleton.mp last]
      trivial
  have shows : (lostPair.2.status ⟨0⟩).1.toOption.map Execution.status = some .failed := by
    decide +kernel
  have forgets : ((lostPair.2.evict ⟨0⟩).status ⟨0⟩).1.toOption.map Execution.status =
      some .running := by decide +kernel
  obtain ⟨shown, before, failed⟩ := shown_of_status shows
  obtain ⟨forgotten, after, running⟩ := shown_of_status forgets
  constructor
  · intro stable
    have same := stable _ _ _ _ ⟨0⟩ shown first rest genuine before (by rw [failed]; rfl)
    rw [after, Except.ok.injEq] at same
    rw [same, failed] at running
    cases running
  · intro terminal
    have missing : (lostPair.2.evict ⟨0⟩).jobs.get? ⟨0⟩ = none := by decide +kernel
    have waits := (reads_missing missing).waits []
    rw [← (reads_missing missing).status, after] at waits
    have ended := terminal _ _ _ _ _ (first.append rest) genuine waits
    rw [running] at ended
    cases ended

end Engine

end WorkflowEngine
