/-
This file proves that the number which the engine counts for a tenant is that of its executions
which have not ended for those who watch them, and that it stays within the limit of the tenant.
-/

import WorkflowEngine.Proofs.Engine.Traffic
import Mathlib.Algebra.Group.Nat.Defs

namespace WorkflowEngine

/-- Holding effects give no slot back. -/
theorem Effect.Holding.count {effects : List Effect} (holding : ∀ effect ∈ effects, effect.Holding) :
    effects.count .releaseSlot = 0 :=
  List.count_eq_zero.mpr fun member => holding _ member

/-- A closing input gives the slot back exactly once. -/
theorem Job.Gives.count {after : Job} {effects : List Effect} (gives : Gives after effects) :
    effects.count .releaseSlot = 1 := by
  obtain ⟨earlier, rfl, holding⟩ := gives.told
  have early := Effect.Holding.count fun effect member => (holding effect member).1
  rw [List.count_append, early]
  rfl

/-- Nothing that has ended is published before the slot is given back. -/
theorem Job.Gives.published {after : Job} {effects first rest : List Effect} {snapshot : Execution}
    (gives : Gives after effects) (published : effects = first ++ .publish snapshot :: rest) :
    .releaseSlot ∈ first := by
  obtain ⟨earlier, told, quiet⟩ := gives.told
  rcases List.append_eq_append_iff.mp (told.symm.trans published) with
    ⟨middle, rfl, split⟩ | ⟨middle, rfl, split⟩
  · cases middle with
    | nil => simp at split
    | cons effect middle =>
      simp only [List.cons_append, List.cons.injEq] at split
      simp [← split.1]
  · cases middle with
    | nil => simp at split
    | cons effect middle =>
      simp only [List.cons_append, List.cons.injEq] at split
      exact absurd split.1.symm ((quiet effect (by simp)).2 snapshot)

namespace Engine

/-- An execution that settles is one fewer of its tenant that have not. -/
theorem countP_settled {admissions : List (Uuid × Uuid)} {id owner : Uuid}
    (distinct : (admissions.map Prod.fst).Nodup) (member : (id, owner) ∈ admissions)
    (before after : Uuid → Bool) (others : ∀ other ≠ id, after other = before other)
    (tenantId : Uuid) :
    admissions.countP (fun admission => admission.2 == tenantId && before admission.1) +
        (if owner == tenantId && after id then 1 else 0) =
      admissions.countP (fun admission => admission.2 == tenantId && after admission.1) +
        (if owner == tenantId && before id then 1 else 0) := by
  -- among distinct identifiers the entry of the execution stands between entries of others
  obtain ⟨front, back, rfl⟩ := List.append_of_mem member
  simp only [List.map_append, List.map_cons, List.nodup_append, List.nodup_cons] at distinct
  have apart (part : List (Uuid × Uuid)) (absent : id ∉ part.map Prod.fst) :
      part.countP (fun admission => admission.2 == tenantId && after admission.1) =
        part.countP fun admission => admission.2 == tenantId && before admission.1 := by
    refine List.countP_congr fun admission inPart => ?_
    have different : admission.1 ≠ id := fun same =>
      absent (List.mem_map.mpr ⟨admission, inPart, same⟩)
    rw [others _ different]
  have inFront : id ∉ front.map Prod.fst := fun early =>
    distinct.2.2 id early id List.mem_cons_self rfl
  simp only [List.countP_append, List.countP_cons, apart front inFront, apart back distinct.2.1.1]
  omega

variable {S : Type} [ExecutionStore S]

def admitted (past : List (Occurrence S)) : List (Uuid × Uuid) :=
  past.filterMap Occurrence.admission?

def told (past : List (Occurrence S)) (id : Uuid) : List Effect :=
  past.flatMap fun occurrence => occurrence.effects id

def published (past : List (Occurrence S)) (id : Uuid) : List Execution :=
  past.flatMap fun occurrence => occurrence.published id

/-- An execution has ended for others if its last published snapshot says so. -/
def ended (past : List (Occurrence S)) (id : Uuid) : Bool :=
  (published past id).getLast?.any fun snapshot => snapshot.status.isTerminal

/-- An execution lives from its admission to its end. -/
def live (past : List (Occurrence S)) (tenantId : Uuid) : Nat :=
  (admitted past).countP fun admission => admission.2 == tenantId && !ended past admission.1

section

variable {past : List (Occurrence S)} {occurrence : Occurrence S}

theorem admitted_concat (past : List (Occurrence S)) (occurrence : Occurrence S) :
    admitted (past ++ [occurrence]) = admitted past ++ occurrence.admission?.toList := by
  cases admission : occurrence.admission? <;> simp [admitted, admission]

/-- What is distinct among all admissions is so among the earlier ones. -/
theorem admitted_distinct {first second : List (Occurrence S)}
    (distinct : ((admitted (first ++ second)).map Prod.fst).Nodup) :
    ((admitted first).map Prod.fst).Nodup := by
  rw [admitted, List.filterMap_append, List.map_append] at distinct
  exact distinct.of_append_left

/-- What is admitted now has not been admitted before. -/
theorem admission_fresh (distinct : ((admitted (past ++ [occurrence])).map Prod.fst).Nodup)
    {id owner : Uuid} (admission : occurrence.admission? = some (id, owner)) :
    id ∉ (admitted past).map Prod.fst := by
  rw [admitted_concat, admission, List.map_append] at distinct
  intro member
  exact (List.disjoint_of_nodup_append distinct) member (by simp)

theorem told_concat (past : List (Occurrence S)) (occurrence : Occurrence S) (id : Uuid) :
    told (past ++ [occurrence]) id = told past id ++ occurrence.effects id := by
  simp [told]

theorem published_concat (past : List (Occurrence S)) (occurrence : Occurrence S) (id : Uuid) :
    published (past ++ [occurrence]) id = published past id ++ occurrence.published id := by
  simp [published]

theorem told_same {id : Uuid} (effects : occurrence.effects id = []) :
    told (past ++ [occurrence]) id = told past id := by
  rw [told_concat, effects, List.append_nil]

theorem published_same {id : Uuid} (silent : occurrence.published id = []) :
    published (past ++ [occurrence]) id = published past id := by
  rw [published_concat, silent, List.append_nil]

theorem ended_same {id : Uuid} (silent : occurrence.published id = []) :
    ended (past ++ [occurrence]) id = ended past id := by
  rw [ended, published_same silent, ended]

end

/-- The slot of a job is held exactly until its snapshot has ended. -/
structure Accounted (past : List (Occurrence S)) (id : Uuid) (job : Job) : Prop where
  billed : (id, job.run.execution.tenantId) ∈ admitted past
  executor : job.executor.name = "engine"
  shown : (published past id).getLast? = some job.snapshot
  slot : job.Holds ∧ (told past id).count .releaseSlot = 0 ∨
    job.Done ∧ (told past id).count .releaseSlot = 1

namespace Accounted

variable {past : List (Occurrence S)} {occurrence : Occurrence S} {id : Uuid} {job : Job}

theorem ended (accounted : Accounted past id job) :
    Engine.ended past id = job.snapshot.status.isTerminal := by
  rw [Engine.ended, accounted.shown, Option.any_some]

theorem given (accounted : Accounted past id job) :
    (told past id).count .releaseSlot = if Engine.ended past id then 1 else 0 := by
  rw [accounted.ended]
  rcases accounted.slot with ⟨holds, given⟩ | ⟨done, given⟩
  · simp [given, holds.unended]
  · simp [given, done.ended]

/-- A call that does not concern a job leaves its account as it is. -/
theorem same (accounted : Accounted past id job) (effects : occurrence.effects id = [])
    (silent : occurrence.published id = []) : Accounted (past ++ [occurrence]) id job := by
  refine ⟨?_, accounted.executor, ?_, ?_⟩
  · rw [admitted_concat]
    exact List.mem_append_left _ accounted.billed
  · rw [published_same silent]
    exact accounted.shown
  · rw [told_same effects]
    exact accounted.slot

/-- The slot is given back by the move that ends the snapshot. -/
theorem moved (accounted : Accounted past id job) (now : Moment) (input : Job.Input)
    (effects : occurrence.effects id = (job.advance now input).2)
    (published : occurrence.published id = (occurrence.effects id).filterMap Effect.snapshot?) :
    Accounted (past ++ [occurrence]) id (job.advance now input).1 := by
  refine ⟨?_, ?_, ?_, ?_⟩
  · rw [admitted_concat, Job.tenantId_after]
    exact List.mem_append_left _ accounted.billed
  · rw [Job.executor_after]
    exact accounted.executor
  · rw [published_concat, List.getLast?_append, accounted.shown, published, effects,
      Job.snapshot_after]
    cases ((job.advance now input).2.filterMap Effect.snapshot?).getLast? <;> rfl
  · rw [told_concat, List.count_append, effects]
    rcases accounted.slot with ⟨holds, given⟩ | ⟨done, given⟩
    · rcases holds.next now input with ⟨held, holding⟩ | gives
      · exact .inl ⟨held, by rw [given, Effect.Holding.count holding]⟩
      · exact .inr ⟨gives.done, by rw [given, gives.count]⟩
    · obtain ⟨still, _, quiet⟩ := done.next now input
      exact .inr ⟨still, by rw [given, quiet, List.count_nil]⟩

end Accounted

/-- Books are balanced if what is counted are the live executions. -/
structure Balanced (past : List (Occurrence S)) (engine : Engine S) : Prop where
  accounted : ∀ id job, engine.jobs.get? id = some job → Accounted past id job
  gone : ∀ id ∈ (admitted past).map Prod.fst, engine.jobs.get? id = none →
    ended past id = true ∧ (told past id).count .releaseSlot = 1
  untold : ∀ id ∉ (admitted past).map Prod.fst, told past id = []
  counted : ∀ tenantId, engine.gate.runningCount tenantId = live past tenantId

namespace Balanced

variable {past : List (Occurrence S)} {occurrence : Occurrence S}

/-- Books stay balanced if only jobs that have closed are forgotten. -/
theorem still (balanced : Balanced past occurrence.before)
    (admission : occurrence.admission? = none) (effects : ∀ id, occurrence.effects id = [])
    (silent : ∀ id, occurrence.published id = [])
    (kept : ∀ id job, occurrence.after.jobs.get? id = some job →
      occurrence.before.jobs.get? id = some job)
    (forgotten : ∀ id job, occurrence.before.jobs.get? id = some job →
      occurrence.after.jobs.get? id = none → job.run.phase = .closed)
    (running : ∀ tenantId, occurrence.after.gate.runningCount tenantId =
      occurrence.before.gate.runningCount tenantId) :
    Balanced (past ++ [occurrence]) occurrence.after := by
  have sameAdmitted : admitted (past ++ [occurrence]) = admitted past := by
    simp [admitted_concat, admission]
  refine ⟨fun id job found => ?_, fun id member missing => ?_, fun id absent => ?_,
    fun tenantId => ?_⟩
  · exact (balanced.accounted id job (kept id job found)).same (effects id) (silent id)
  · rw [sameAdmitted] at member
    rw [ended_same (silent id), told_same (effects id)]
    cases found : occurrence.before.jobs.get? id with
    | none => exact balanced.gone id member found
    | some job =>
      have accounted := balanced.accounted id job found
      have closed := forgotten id job found missing
      -- an open run is not forgotten, so the slot has been given back before
      rcases accounted.slot with ⟨holds, _⟩ | ⟨done, given⟩
      · have opened := holds.opened
        simp [Run.Open, closed] at opened
      · exact ⟨accounted.ended.trans done.ended, given⟩
  · rw [told_same (effects id)]
    exact balanced.untold id (sameAdmitted ▸ absent)
  · rw [running, balanced.counted, live, live, sameAdmitted]
    simp only [ended_same (silent _)]

/-- An admission opens an account for an execution that was not known, and counts it. -/
theorem opening (balanced : Balanced past occurrence.before) {id tenantId : Uuid} {job : Job}
    (drawn : occurrence.before.ids.draw.1 = id) (fresh : id ∉ (admitted past).map Prod.fst)
    (admits : Admits occurrence.before occurrence.after tenantId job)
    (admission : occurrence.admission? = some (id, tenantId))
    (effects : ∀ other, occurrence.effects other = [])
    (published : ∀ other, occurrence.published other = if id = other then [job.snapshot] else []) :
    Balanced (past ++ [occurrence]) occurrence.after := by
  have jobs : occurrence.after.jobs = occurrence.before.jobs.insert id job := drawn ▸ admits.jobs
  have nowAdmitted : admitted (past ++ [occurrence]) = admitted past ++ [(id, tenantId)] := by
    simp [admitted_concat, admission]
  have silent {other : Uuid} (different : id ≠ other) : occurrence.published other = [] := by
    rw [published, if_neg different]
  have opened : Accounted (past ++ [occurrence]) id job :=
    { billed := by simp [nowAdmitted, admits.owner]
      executor := congrArg Executor.name admits.executor
      shown := by simp [published_concat, published]
      slot := .inl ⟨admits.holds, by simp [told_same (effects id), balanced.untold id fresh]⟩ }
  refine ⟨fun other known found => ?_, fun other member missing => ?_, fun other absent => ?_,
    fun other => ?_⟩
  · rw [jobs] at found
    by_cases same : id = other
    · subst same
      rw [Table.getInsertSame, Option.some.injEq] at found
      exact found ▸ opened
    · rw [Table.getInsertOther _ _ same] at found
      exact (balanced.accounted other known found).same (effects other) (silent same)
  · have different : id ≠ other := by
      rintro rfl
      simp [jobs, Table.getInsertSame] at missing
    rw [jobs, Table.getInsertOther _ _ different] at missing
    rw [ended_same (silent different), told_same (effects other)]
    refine balanced.gone other ?_ missing
    simpa [nowAdmitted, Ne.symm different] using member
  · rw [told_same (effects other)]
    exact balanced.untold other fun earlier => absent (by simp [nowAdmitted, earlier])
  · have others : (admitted past).countP (fun admission =>
          admission.2 == other && !ended (past ++ [occurrence]) admission.1) =
        live past other := by
      refine List.countP_congr fun admission member => ?_
      have different : id ≠ admission.1 := fun same =>
        fresh (List.mem_map.mpr ⟨admission, member, same.symm⟩)
      rw [ended_same (silent different)]
    have unended : ended (past ++ [occurrence]) id = false := opened.ended.trans admits.holds.unended
    rw [admits.running, balanced.counted, ← others, live, nowAdmitted, List.countP_append,
      List.countP_singleton]
    by_cases same : other = tenantId
    · simp [same, unended]
    · simp [same, Ne.symm same]

/-- A move that gives the slot back settles the account of its execution. -/
theorem move (balanced : Balanced past occurrence.before)
    (distinct : ((admitted past).map Prod.fst).Nodup) {id : Uuid} {job : Job} {now : Moment}
    {input : Job.Input} (moves : Moves occurrence.before occurrence.after id job now input)
    (admission : occurrence.admission? = none)
    (effects : ∀ other, occurrence.effects other =
      if id = other then (job.advance now input).2 else [])
    (published : ∀ other, occurrence.published other =
      (occurrence.effects other).filterMap Effect.snapshot?) :
    Balanced (past ++ [occurrence]) occurrence.after := by
  have accounted := balanced.accounted id job moves.found
  have toldHere : occurrence.effects id = (job.advance now input).2 := by
    rw [effects, if_pos rfl]
  have moved := accounted.moved now input toldHere (published id)
  have sameAdmitted : admitted (past ++ [occurrence]) = admitted past := by
    simp [admitted_concat, admission]
  have quiet {other : Uuid} (different : id ≠ other) : occurrence.effects other = [] := by
    rw [effects, if_neg different]
  have silent {other : Uuid} (different : id ≠ other) : occurrence.published other = [] := by
    rw [published, quiet different]
    rfl
  refine ⟨fun other known found => ?_, fun other member missing => ?_, fun other absent => ?_,
    fun other => ?_⟩
  · rw [moves.jobs] at found
    by_cases same : id = other
    · subst same
      rw [Table.getInsertSame, Option.some.injEq] at found
      exact found ▸ moved
    · rw [Table.getInsertOther _ _ same] at found
      exact (balanced.accounted other known found).same (quiet same) (silent same)
  · have different : id ≠ other := by
      rintro rfl
      simp [moves.jobs, Table.getInsertSame] at missing
    rw [moves.jobs, Table.getInsertOther _ _ different] at missing
    rw [ended_same (silent different), told_same (quiet different)]
    exact balanced.gone other (sameAdmitted ▸ member) missing
  · rw [sameAdmitted] at absent
    have different : id ≠ other := by
      rintro rfl
      exact absent (List.mem_map.mpr ⟨_, accounted.billed, rfl⟩)
    rw [told_same (quiet different)]
    exact balanced.untold other absent
  · have settled := countP_settled distinct accounted.billed (fun id => !ended past id)
      (fun id => !ended (past ++ [occurrence]) id)
      (fun other different => by rw [ended_same (silent (Ne.symm different))]) other
    -- the account before and after tells how many slots the move gives back
    have given := moved.given
    rw [told_concat, List.count_append, accounted.given, toldHere] at given
    rw [moves.running, balanced.counted, live, live, sameAdmitted]
    by_cases same : job.run.execution.tenantId = other
    · rw [if_pos same.symm]
      revert settled given
      cases ended past id <;> cases ended (past ++ [occurrence]) id <;> simp [same] <;> omega
    · rw [if_neg (Ne.symm same)]
      simp only [beq_eq_false_iff_ne.mpr same, Bool.false_and, Bool.false_eq_true, if_false] at settled
      omega

/-- Every call keeps the books balanced as long as no identifier is drawn twice. -/
theorem next (balanced : Balanced past occurrence.before)
    (distinct : ((admitted (past ++ [occurrence])).map Prod.fst).Nodup) :
    Balanced (past ++ [occurrence]) occurrence.after := by
  have earlier := admitted_distinct distinct
  cases perform_traffic occurrence with
  | quiet jobs ids running admission effects silent =>
    refine balanced.still admission effects silent (fun _ _ found => jobs ▸ found) ?_ running
    intro id job found missing
    simp [jobs, found] at missing
  | admits tenantId job admits admission effects published =>
    have fresh := admission_fresh distinct admission
    exact balanced.opening rfl fresh admits admission effects published
  | moves id job now input moves admission effects published =>
    exact balanced.move earlier moves admission effects published
  | evicts id job found closed jobs ids running admission effects silent =>
    refine balanced.still admission effects silent ?_ ?_ running
    · intro other known
      rw [jobs]
      by_cases same : id = other
      · simp [same, Table.getEraseSame]
      · rw [Table.getEraseOther _ same]
        exact fun stored => stored
    · intro other known stored missing
      rw [jobs] at missing
      by_cases same : id = other
      · subst same
        rw [found, Option.some.injEq] at stored
        exact stored ▸ closed
      · rw [Table.getEraseOther _ same, stored] at missing
        cases missing

end Balanced

section

variable {config : EngineConfig} {catalog : Catalog} {store : S} {ids : IdSource}
  {past : List (Occurrence S)} {engine : Engine S}

/-- Along every course the books stay balanced. -/
theorem Course.balanced (course : Course (create config catalog store ids) past engine)
    (distinct : ((admitted past).map Prod.fst).Nodup) : Balanced past engine := by
  induction course with
  | start =>
    refine ⟨fun id job found => ?_, fun id member => ?_, fun _ _ => rfl, fun _ => rfl⟩
    · simp [create, Table.get?] at found
    · simp [admitted] at member
  | @next past engine course call inductionHypothesis =>
    exact (inductionHypothesis (admitted_distinct distinct)).next distinct

/-- Identifiers are drawn one after the other. -/
theorem Course.drawn (course : Course (create config catalog store ids) past engine) :
    engine.ids.next = ids.next + (admitted past).length ∧
    (admitted past).map Prod.fst = (List.range (admitted past).length).map fun offset =>
      ⟨BitVec.ofNat 128 (ids.next + offset)⟩ := by
  induction course with
  | start => exact ⟨rfl, rfl⟩
  | @next past engine course call inductionHypothesis =>
    obtain ⟨next, drawn⟩ := inductionHypothesis
    have silent (admission : (Occurrence.mk engine call).admission? = none)
        (same : (engine.perform call).2.ids = engine.ids) :
        (engine.perform call).2.ids.next =
          ids.next + (admitted (past ++ [⟨engine, call⟩])).length ∧
        (admitted (past ++ [⟨engine, call⟩])).map Prod.fst =
          (List.range (admitted (past ++ [⟨engine, call⟩])).length).map fun offset =>
            ⟨BitVec.ofNat 128 (ids.next + offset)⟩ := by
      rw [admitted_concat, admission, same]
      simpa using ⟨next, drawn⟩
    cases perform_traffic ⟨engine, call⟩ with
    | quiet _ same _ admission => exact silent admission same
    | moves _ _ _ _ moves admission => exact silent admission moves.ids
    | evicts _ _ _ _ _ same _ admission => exact silent admission same
    | admits tenantId job admits admission =>
      have after : (engine.perform call).2.ids = engine.ids.draw.2 := admits.ids
      rw [admitted_concat, admission, after]
      simp [IdSource.draw, List.range_succ, drawn, next, Nat.add_assoc]

/-- Identifiers repeat no earlier than after all that there are. -/
theorem Course.distinct (course : Course (create config catalog store ids) past engine)
    (few : (admitted past).length ≤ 2 ^ 128) : ((admitted past).map Prod.fst).Nodup := by
  rw [course.drawn.2]
  refine List.Nodup.map_on ?_ List.nodup_range
  intro first inFirst second inSecond same
  rw [List.mem_range] at inFirst inSecond
  have numbers := congrArg (fun id => id.value.toNat) same
  simp only [BitVec.toNat_ofNat] at numbers
  omega

/-- What is counted for a tenant exceeds no bound on the limits it has had. -/
theorem Course.bounded (course : Course (create config catalog store ids) past engine)
    {tenantId : Uuid} {bound : Nat}
    (limits : ∀ occurrence ∈ past,
      (occurrence.before.gate.tenants.limits tenantId).maxConcurrentExecutions.toNat ≤ bound) :
    engine.gate.runningCount tenantId ≤ bound := by
  induction course with
  | start => exact Nat.zero_le bound
  | @next past engine course call inductionHypothesis =>
    have before := inductionHypothesis fun occurrence member =>
      limits occurrence (List.mem_append_left _ member)
    have limit := limits ⟨engine, call⟩ (by simp)
    cases perform_traffic ⟨engine, call⟩ with
    | quiet jobs ids running => exact Nat.le_trans (Nat.le_of_eq (running tenantId)) before
    | admits owner job admits =>
      refine Nat.le_trans (Nat.le_of_eq (admits.running tenantId)) ?_
      split
      · next same =>
        have room := admits.room
        rw [← same] at room
        exact Nat.le_trans room limit
      · exact before
    | moves id job now input moves =>
      exact Nat.le_trans (Nat.le_of_eq (moves.running tenantId)) (Nat.le_trans (Nat.sub_le _ _) before)
    | evicts id job found closed jobs ids running =>
      exact Nat.le_trans (Nat.le_of_eq (running tenantId)) before

/-- Exactly the live executions are counted, and no more than the tenant may have. -/
structure Exact (past : List (Occurrence S)) (engine : Engine S) : Prop where
  billed : ∀ occurrence ∈ past, ∀ id, occurrence.reply = .started (.ok id) →
    ∃ tenantId, occurrence.admission? = some (id, tenantId)
  counted : ∀ tenantId, (engine.gate.quota tenantId).currentRunning = live past tenantId
  shown : ∀ id job, engine.jobs.get? id = some job →
    (published past id).getLast? = some job.snapshot
  room : ∀ earlier occurrence later id tenantId, past = earlier ++ occurrence :: later →
    occurrence.admission? = some (id, tenantId) →
    live earlier tenantId <
      (occurrence.before.gate.tenants.limits tenantId).maxConcurrentExecutions.toNat
  bounded : ∀ tenantId bound, (∀ occurrence ∈ past,
      (occurrence.before.gate.tenants.limits tenantId).maxConcurrentExecutions.toNat ≤ bound) →
    live past tenantId ≤ bound
  refused : ∀ earlier occurrence later error, past = earlier ++ occurrence :: later →
    occurrence.reply = .started (.error error) → ∀ tenantId,
      (occurrence.after.gate.quota tenantId).currentRunning =
        (occurrence.before.gate.quota tenantId).currentRunning
  given : ∀ id ∈ (admitted past).map Prod.fst,
    (told past id).count .releaseSlot = if ended past id then 1 else 0
  status : ∀ id ∈ (admitted past).map Prod.fst, ∀ execution,
    (engine.status id).1 = .ok execution → execution.status.isTerminal = true →
      ended past id = true ∧ .releaseSlot ∈ told past id
  announced : ∀ earlier occurrence later id first snapshot rest,
    past = earlier ++ occurrence :: later →
    occurrence.effects id = first ++ .publish snapshot :: rest →
    snapshot.status.isTerminal = true → .releaseSlot ∈ first

end

section

variable {past : List (Occurrence S)} {engine : Engine S}

theorem admitted_append (first second : List (Occurrence S)) :
    admitted (first ++ second) = admitted first ++ admitted second :=
  List.filterMap_append

/-- A start that is refused leaves all numbers that are counted. -/
theorem refused_running {occurrence : Occurrence S} {error : EngineError}
    (refused : occurrence.reply = .started (.error error)) (tenantId : Uuid) :
    occurrence.after.gate.runningCount tenantId =
      occurrence.before.gate.runningCount tenantId := by
  cases perform_traffic occurrence with
  | quiet jobs ids running => exact running tenantId
  | admits owner job admits admission =>
    simp [Occurrence.admission?, refused] at admission
  | moves id job now input moves admission effects =>
    have told := effects id
    rw [Occurrence.effects_unmoved (by simp [refused]), if_pos rfl] at told
    rw [moves.running, ← told]
    split <;> rfl
  | evicts id job found closed jobs ids running => exact running tenantId

/-- An effect that publishes an end stands behind one that gives the slot back. -/
theorem Balanced.announced {occurrence : Occurrence S}
    (balanced : Balanced past occurrence.before) {id : Uuid} {first rest : List Effect}
    {snapshot : Execution} (tells : occurrence.effects id = first ++ .publish snapshot :: rest)
    (terminal : snapshot.status.isTerminal = true) : .releaseSlot ∈ first := by
  have spoken : occurrence.effects id ≠ [] := by simp [tells]
  cases perform_traffic occurrence with
  | quiet _ _ _ _ effects => exact absurd (effects id) spoken
  | admits _ _ _ _ effects => exact absurd (effects id) spoken
  | evicts _ _ _ _ _ _ _ _ effects => exact absurd (effects id) spoken
  | moves other job now input moves admission effects =>
    have same : other = id := by
      by_contra different
      exact spoken ((effects id).trans (if_neg different))
    rw [effects, if_pos same] at tells
    rcases (balanced.accounted other job moves.found).slot with ⟨holds, _⟩ | ⟨done, _⟩
    · rcases holds.next now input with ⟨_, holding⟩ | gives
      · have unended : snapshot.status.isTerminal = false :=
          holding (.publish snapshot) (by simp [tells])
        simp [unended] at terminal
      · exact gives.published tells
    · simp [(done.next now input).2.2] at tells

/-- A job in memory is found by those who ask the executor of the engine. -/
theorem Balanced.watched (balanced : Balanced past engine) {id : Uuid} {job : Job}
    (found : engine.jobs.get? id = some job) :
    engine.job? engine.executor.name id = some job := by
  simp [job?, found, Option.filter, (balanced.accounted id job found).executor, Engine.executor]

/-- An execution whose status has ended has ended for those who watch it. -/
theorem Balanced.status (balanced : Balanced past engine) {id : Uuid}
    (member : id ∈ (admitted past).map Prod.fst) {execution : Execution}
    (answer : (engine.status id).1 = .ok execution)
    (terminal : execution.status.isTerminal = true) : ended past id = true := by
  cases found : engine.jobs.get? id with
  | none => exact (balanced.gone id member found).1
  | some job =>
    have accounted := balanced.accounted id job found
    simp only [Engine.status, balanced.watched found, Except.ok.injEq] at answer
    rw [accounted.ended, answer, terminal]

theorem Balanced.given (balanced : Balanced past engine) {id : Uuid}
    (member : id ∈ (admitted past).map Prod.fst) :
    (told past id).count .releaseSlot = if ended past id then 1 else 0 := by
  cases found : engine.jobs.get? id with
  | none =>
    obtain ⟨ended, given⟩ := balanced.gone id member found
    rw [ended, given, if_pos rfl]
  | some job => exact (balanced.accounted id job found).given

end

/-- The capacity is exact along every course in which no identifier is drawn twice. -/
theorem capacity_exact {config : EngineConfig} {catalog : Catalog} {store : S} {ids : IdSource}
    {past : List (Occurrence S)} {engine : Engine S}
    (course : Course (create config catalog store ids) past engine)
    (distinct : ((admitted past).map Prod.fst).Nodup) : Exact past engine := by
  have balanced := course.balanced distinct
  have before {earlier later : List (Occurrence S)} {occurrence : Occurrence S}
      (listed : past = earlier ++ occurrence :: later) : Balanced earlier occurrence.before := by
    refine (course.upTo listed).balanced ?_
    rw [listed, admitted_append, List.map_append] at distinct
    exact distinct.of_append_left
  refine
    { billed := fun occurrence _ id started => occurrence.admission_of_started started
      counted := balanced.counted
      shown := fun id job found => (balanced.accounted id job found).shown
      room := ?_
      bounded := fun tenantId bound limits => balanced.counted tenantId ▸ course.bounded limits
      refused := fun _ _ _ _ _ refused tenantId => refused_running refused tenantId
      given := fun id member => balanced.given member
      status := ?_
      announced := fun _ _ _ _ _ _ _ listed => (before listed).announced }
  · intro earlier occurrence later id tenantId listed admits
    cases perform_traffic occurrence with
    | quiet _ _ _ admission => simp [admission] at admits
    | moves _ _ _ _ _ admission => simp [admission] at admits
    | evicts _ _ _ _ _ _ _ admission => simp [admission] at admits
    | admits owner job enters admission =>
      rw [admission, Option.some.injEq, Prod.mk.injEq] at admits
      rw [← (before listed).counted, ← admits.2]
      exact enters.room
  · intro id member execution answer terminal
    have finished := balanced.status member answer terminal
    have given := balanced.given member
    rw [finished, if_pos rfl] at given
    exact ⟨finished, List.count_pos_iff.mp (given ▸ Nat.one_pos)⟩

/-- A tenant that may run one execution asks for two. -/
def crowded : List (Occurrence MemoryStore) × Engine MemoryStore :=
  replay [] bare (
    [.setTenants ⟨⟨1, 100⟩, []⟩, .startExecution .pair .nil .null,
      .startExecution .pair .nil .null] ++
    (Job.pairScript (.failed (.fatal "broken"))).map (fun (now, input) =>
      match input with
      | .saved _ => .save now ⟨0⟩
      | input => .advance now ⟨0⟩ input) ++
    [.save ⟨⟨0, 0⟩, 0⟩ ⟨0⟩, .startExecution .pair .nil .null])

/-- The first execution has ended, and the second one alone is counted. -/
theorem crowded_capacity_exact :
    ((admitted crowded.1).map Prod.fst).Nodup ∧ Exact crowded.1 crowded.2 ∧
    admitted crowded.1 = [(⟨0⟩, .nil), (⟨1⟩, .nil)] ∧ ended crowded.1 ⟨0⟩ = true ∧
    (crowded.2.gate.quota .nil).currentRunning = 1 := by
  have course : Course bare crowded.1 crowded.2 := Course.start.replay _
  have known : admitted crowded.1 = [(⟨0⟩, .nil), (⟨1⟩, .nil)] := by decide +kernel
  have distinct : ((admitted crowded.1).map Prod.fst).Nodup := by
    rw [known]
    decide
  have exact : Exact crowded.1 crowded.2 := capacity_exact course distinct
  refine ⟨distinct, exact, known, by decide +kernel, ?_⟩
  rw [exact.counted]
  decide +kernel

end Engine

end WorkflowEngine
