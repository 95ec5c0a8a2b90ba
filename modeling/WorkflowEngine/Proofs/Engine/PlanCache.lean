/-
This file proves what the engine remembers of its compilations. Under a workflow and a version it
answers with the first plan that was compiled since the workflow was last forgotten.
-/

import WorkflowEngine.Proofs.Engine.Course
import WorkflowEngine.Proofs.Engine.Undisturbed
import WorkflowEngine.Proofs.Execution.Course
import WorkflowEngine.Proofs.Table
import WorkflowEngine.Proofs.Workflow.Acceptance

namespace WorkflowEngine

open Time

/-- Plans are kept under the workflow and the version of their definition. -/
def Definition.key (definition : Definition) : Uuid × UInt32 :=
  (definition.id, definition.version)

def Compiler.firstPlan? (compiler : Compiler) (definitions : List Definition) : Option Plan :=
  definitions.findSome? fun definition => (compiler.compile definition).toOption

theorem Compiler.firstPlan_append (compiler : Compiler) (first second : List Definition) :
    compiler.firstPlan? (first ++ second) =
      (compiler.firstPlan? first).or (compiler.firstPlan? second) :=
  List.findSome?_append

/-- This is the first plan of the key of a definition, or else the plan that is its own. -/
def Compiler.recalled (compiler : Compiler) (known : List Definition) (definition : Definition)
    (own : Plan) : Plan :=
  (compiler.firstPlan? (known.filter fun source => source.key = definition.key)).getD own

namespace Engine

variable {S : Type}

def kept? (engine : Engine S) (key : Uuid × UInt32) : Option Plan :=
  (engine.plans.get? key).map CompiledPlan.plan

/-- An engine learns from definitions if it keeps the first plan of each key. -/
structure Learns (before after : Engine S) (definitions : List Definition) : Prop where
  compiler : after.compiler = before.compiler
  kept : ∀ key, after.kept? key = (before.kept? key).or
    (before.compiler.firstPlan? (definitions.filter fun definition => definition.key = key))

theorem Learns.nothing {before after : Engine S} (compiler : after.compiler = before.compiler)
    (plans : after.plans = before.plans) : Learns before after [] :=
  ⟨compiler, fun key => by simp [kept?, plans, Compiler.firstPlan?]⟩

theorem Learns.andThen {before between after : Engine S} {first second : List Definition}
    (one : Learns before between first) (two : Learns between after second) :
    Learns before after (first ++ second) := by
  refine ⟨two.compiler.trans one.compiler, fun key => ?_⟩
  rw [two.kept, one.kept, one.compiler, List.filter_append, Compiler.firstPlan_append,
    Option.or_assoc]

theorem Learns.still {before between after : Engine S} {definitions : List Definition}
    (learns : Learns before between definitions) (idle : Learns between after []) :
    Learns before after definitions := by
  have both := learns.andThen idle
  rwa [List.append_nil] at both

/-- A compilation answers with the plan that is kept, if there is one. -/
theorem compile_answer (engine : Engine S) (definition : Definition) :
    (engine.compile definition).1.map CompiledPlan.plan =
      match engine.kept? definition.key with
      | some plan => .ok plan
      | none => engine.compiler.compile definition := by
  unfold compile kept? Definition.key
  cases engine.plans.get? (definition.id, definition.version) with
  | some compiled => rfl
  | none =>
    dsimp only [Option.map_none]
    cases engine.compiler.compile definition <;> rfl

theorem compile_learns (engine : Engine S) (definition : Definition) :
    Learns engine (engine.compile definition).2 [definition] := by
  refine ⟨(compile_undisturbed engine definition).compiler, fun key => ?_⟩
  unfold compile
  cases found : engine.plans.get? (definition.id, definition.version) with
  | some compiled =>
    by_cases same : definition.key = key
    · have kept : engine.kept? key = some compiled.plan := by
        rw [← same]
        simp [kept?, Definition.key, found]
      simp [kept]
    · simp [same, Compiler.firstPlan?]
  | none =>
    cases compiled : engine.compiler.compile definition with
    | error error =>
      by_cases same : definition.key = key
      · simp [same, Compiler.firstPlan?, compiled, Except.toOption]
      · simp [same, Compiler.firstPlan?]
    | ok plan =>
      by_cases same : definition.key = key
      · subst same
        simp [kept?, Definition.key, Table.getInsertSame, found, Compiler.firstPlan?, compiled,
          Except.toOption]
      · have other : (definition.id, definition.version) ≠ key := same
        simp [kept?, Table.getInsertOther _ _ other, same, Compiler.firstPlan?]

/-- The plans that are kept after a registration are those after its compilation. -/
theorem register_plans (engine : Engine S) (definition : Definition) :
    (engine.register definition).2.plans = (engine.compile definition).2.plans := by
  have unbound (before : Engine S) : (before.unbindPrevious definition).plans = before.plans := by
    unfold unbindPrevious
    split
    · rfl
    · split <;> rfl
  unfold register
  split
  · next answer => rw [answer]
  · next compiled after answer =>
    rw [answer]
    dsimp only
    split <;> exact unbound after

theorem register_learns (engine : Engine S) (definition : Definition) :
    Learns engine (engine.register definition).2 [definition] := by
  refine ⟨(register_undisturbed engine definition).compiler, fun key => ?_⟩
  have compiled := (compile_learns engine definition).kept key
  unfold kept? at compiled ⊢
  rw [register_plans, compiled]

/-- A registration answers with its definition and what the compilation answers. -/
theorem register_answer (engine : Engine S) (definition : Definition) :
    (engine.register definition).1 =
      (engine.compile definition).1.map fun compiled => ⟨definition, compiled⟩ := by
  unfold register
  split <;> next answer => rw [answer]; rfl

theorem register_workflow (engine : Engine S) (definition : Definition)
    {registered : RegisteredWorkflow} (answer : (engine.register definition).1 = .ok registered) :
    (engine.register definition).2.workflow? definition.id = some registered := by
  unfold register at answer ⊢
  split at answer
  · cases answer
  · cases answer
    exact Table.getInsertSame _ _ _

/-- An engine answers for a definition if it compiles and registers it with this answer. -/
structure Answers (engine : Engine S) (definition : Definition)
    (answer : Except CompileError Plan) : Prop where
  compiled : (engine.compile definition).1.map CompiledPlan.plan = answer
  registered : (engine.register definition).1.map
    (fun registered => (registered.definition, registered.compiled.plan)) =
      answer.map fun plan => (definition, plan)
  listed : ∀ registered, (engine.register definition).1 = .ok registered →
    (engine.register definition).2.workflow? definition.id = some registered

/-- What a compilation answers is what the engine answers. -/
theorem Answers.ofCompile {engine : Engine S} {definition : Definition}
    {answer : Except CompileError Plan}
    (compiled : (engine.compile definition).1.map CompiledPlan.plan = answer) :
    engine.Answers definition answer := by
  refine ⟨compiled, ?_, fun _ => engine.register_workflow definition⟩
  rw [← compiled, register_answer]
  cases (engine.compile definition).1 <;> rfl

/-- An engine that forgets a workflow keeps the plans of the others. -/
theorem unregister_kept (engine : Engine S) (workflowId : Uuid) (key : Uuid × UInt32) :
    (engine.unregister workflowId).2.kept? key =
      if (engine.workflow? workflowId).isSome ∧ key.1 = workflowId then none
      else engine.kept? key := by
  unfold unregister workflow?
  cases engine.workflows.get? workflowId with
  | none => simp
  | some registered =>
    have forgotten (plans : Table (Uuid × UInt32) CompiledPlan) :
        (Table.get? (plans.filter fun entry => entry.1.1 != workflowId) key) =
          if key.1 != workflowId then plans.get? key else none :=
      Table.get_filter plans (fun key => key.1 != workflowId) key
    dsimp only
    unfold kept?
    split <;> dsimp only [unbindWebhook] <;> rw [forgotten] <;>
      by_cases same : key.1 = workflowId <;> simp [same]

theorem startExecution_learns (engine : Engine S) (plan : Plan) (tenantId : Uuid) (input : Json) :
    Learns engine (engine.startExecution plan tenantId input).2 [] := by
  unfold startExecution startOn
  split
  · exact .nothing rfl rfl
  · split <;> exact .nothing rfl rfl

theorem admitAndLaunch_learns (engine : Engine S) (webhook : Webhook) (plan : Plan)
    (request : WebhookRequest) :
    Learns engine (engine.admitAndLaunch webhook plan request).2 [] := by
  unfold admitAndLaunch
  split
  · exact .nothing rfl rfl
  · split <;> exact .nothing rfl rfl

theorem foldl_absorb_learns (tenantId : Uuid) (engine : Engine S) (effects : List Effect) :
    Learns engine (effects.foldl (absorb tenantId) engine) [] := by
  induction effects generalizing engine with
  | nil => exact .nothing rfl rfl
  | cons effect rest inductionHypothesis =>
    have first : Learns engine (engine.absorb tenantId effect) [] := by
      cases effect <;> exact .nothing rfl rfl
    exact first.still (inductionHypothesis _)

theorem advance_learns (engine : Engine S) (now : Moment) (id : Uuid) (input : Job.Input) :
    Learns engine (engine.advance now id input).1 [] := by
  unfold advance
  split
  · exact .nothing rfl rfl
  · next job _ =>
    have stored : Learns engine { engine with
        jobs := engine.jobs.insert id (job.advance now input).1 } [] := .nothing rfl rfl
    exact stored.still (foldl_absorb_learns _ _ _)

theorem evict_learns (engine : Engine S) (id : Uuid) : Learns engine (engine.evict id) [] := by
  unfold evict
  split
  · split <;> exact .nothing rfl rfl
  · exact .nothing rfl rfl

/-- An engine keeps the first plan that its compiler makes of each key. -/
structure Remembers (compiler : Compiler) (engine : Engine S) (known : List Definition) : Prop where
  compiles : engine.compiler = compiler
  kept : ∀ key, engine.kept? key =
    compiler.firstPlan? (known.filter fun definition => definition.key = key)

section

variable {compiler : Compiler} {known : List Definition}

theorem Learns.remembers {before after : Engine S} {definitions : List Definition}
    (learns : Learns before after definitions) (remembers : Remembers compiler before known) :
    Remembers compiler after (known ++ definitions) := by
  refine ⟨learns.compiler.trans remembers.compiles, fun key => ?_⟩
  rw [learns.kept, remembers.kept, remembers.compiles, List.filter_append,
    Compiler.firstPlan_append]

theorem Remembers.unregister {engine : Engine S} (remembers : Remembers compiler engine known)
    (workflowId : Uuid) :
    Remembers compiler (engine.unregister workflowId).2 (known.filter fun definition =>
      !((engine.workflow? workflowId).isSome && definition.id == workflowId)) := by
  refine ⟨(unregister_undisturbed engine workflowId).compiler.trans remembers.compiles,
    fun key => ?_⟩
  rw [unregister_kept, List.filter_filter]
  cases (engine.workflow? workflowId).isSome with
  | false => simpa using remembers.kept key
  | true =>
    by_cases same : key.1 = workflowId
    · have forgotten : known.filter (fun definition =>
          decide (definition.key = key) && !(true && definition.id == workflowId)) = [] := by
        simp only [List.filter_eq_nil_iff]
        rintro definition _ left
        simp only [Bool.and_eq_true, decide_eq_true_eq] at left
        simp [← same, ← left.1, Definition.key] at left
      rw [forgotten, if_pos ⟨rfl, same⟩]
      rfl
    · rw [if_neg (by simp [same]), remembers.kept]
      congr 1
      refine List.filter_congr fun definition _ => ?_
      by_cases keyed : definition.key = key
      · have other : definition.id ≠ workflowId := by
          rw [← keyed] at same
          exact same
        simp [keyed, other]
      · simp [keyed]

end

variable [ExecutionStore S]

/-- A search for a plan loads and registers this definition. -/
def fetched (engine : Engine S) (now : Timestamp) (workflowId : Uuid) : List Definition :=
  match engine.workflow? workflowId with
  | some _ => []
  | none => (ExecutionStore.loadDefinition now workflowId engine.store).1.toOption.toList

theorem planFor_learns (engine : Engine S) (now : Timestamp) (workflowId : Uuid) :
    Learns engine (engine.planFor now workflowId).2 (engine.fetched now workflowId) := by
  unfold planFor fetched
  cases engine.workflow? workflowId with
  | some registered => exact .nothing rfl rfl
  | none =>
    have loaded : Learns engine { engine with
        store := (ExecutionStore.loadDefinition now workflowId engine.store).2 } [] :=
      .nothing rfl rfl
    dsimp only
    cases (ExecutionStore.loadDefinition now workflowId engine.store).1 with
    | error error => exact loaded
    | ok definition => exact loaded.andThen (register_learns _ definition)

theorem startWorkflow_learns (engine : Engine S) (now : Timestamp) (workflowId tenantId : Uuid)
    (input : Json) : Learns engine (engine.startWorkflow now workflowId tenantId input).2
      (engine.fetched now workflowId) := by
  have learns := engine.planFor_learns now workflowId
  unfold startWorkflow
  split
  · next answer =>
    rw [answer] at learns
    exact learns
  · next compiled after answer =>
    rw [answer] at learns
    exact learns.still (after.startExecution_learns compiled.plan tenantId input)

def triggered (engine : Engine S) (now : Timestamp) (webhookId : String) : List Definition :=
  match engine.webhooks.get? webhookId, engine.gate.webhook? webhookId with
  | some workflowId, some _ => engine.fetched now workflowId
  | _, _ => []

theorem triggerWebhook_learns (engine : Engine S) (now : Timestamp) (webhookId : String)
    (request : WebhookRequest) : Learns engine (engine.triggerWebhook now webhookId request).2
      (engine.triggered now webhookId) := by
  unfold triggerWebhook triggered
  cases engine.webhooks.get? webhookId with
  | none => exact .nothing rfl rfl
  | some workflowId =>
    cases engine.gate.webhook? webhookId with
    | none => exact .nothing rfl rfl
    | some webhook =>
      have learns := engine.planFor_learns now workflowId
      dsimp only
      split
      · next answer =>
        rw [answer] at learns
        exact learns
      · next compiled after answer =>
        rw [answer] at learns
        exact learns.still (after.admitAndLaunch_learns webhook compiled.plan request)

theorem save_learns (engine : Engine S) (now : Moment) (id : Uuid) :
    Learns engine (engine.save now id).1 [] := by
  unfold save
  split
  · exact .nothing rfl rfl
  · next job _ =>
    split
    · next errand _ _ =>
      have answered : Learns engine { engine with
          store := (performSave job.run errand engine.store).2 } [] := .nothing rfl rfl
      exact answered.still (advance_learns _ now id _)
    · exact .nothing rfl rfl

theorem status_learns (engine : Engine S) (id : Uuid) :
    Learns engine (engine.status id).2 [] := by
  unfold status
  split <;> exact .nothing rfl rfl

theorem cancel_learns (engine : Engine S) (now : Moment) (id : Uuid) :
    Learns engine (engine.cancel now id).2 [] := by
  unfold cancel requestCancel
  cases engine.job? engine.executor.name id with
  | none => exact .nothing rfl rfl
  | some job => exact advance_learns engine now id _

namespace Occurrence

/-- A call hands these definitions to the compiler. -/
def submitted (occurrence : Occurrence S) : List Definition :=
  match occurrence.call with
  | .compile definition | .register definition => [definition]
  | .planFor now workflowId | .startWorkflow now workflowId _ _ =>
    occurrence.before.fetched now workflowId
  | .triggerWebhook now webhookId _ => occurrence.before.triggered now webhookId
  | _ => []

/-- A definition outlives every call but the one that forgets its workflow. -/
def outlives (occurrence : Occurrence S) (definition : Definition) : Bool :=
  match occurrence.call with
  | .unregister workflowId =>
    !((occurrence.before.workflow? workflowId).isSome && definition.id == workflowId)
  | _ => true

end Occurrence

/-- These definitions were submitted and not forgotten since then, in order. -/
def remembered (past : List (Occurrence S)) : List Definition :=
  past.foldl (fun known occurrence => known.filter occurrence.outlives ++ occurrence.submitted) []

theorem remembered_concat (past : List (Occurrence S)) (occurrence : Occurrence S) :
    remembered (past ++ [occurrence]) =
      (remembered past).filter occurrence.outlives ++ occurrence.submitted := by
  simp [remembered]

section

variable {compiler : Compiler} {known : List Definition}

/-- After a call the engine remembers what outlives the call, and then what it submits. -/
theorem Remembers.perform {engine : Engine S} (remembers : Remembers compiler engine known)
    (call : Call S) :
    Remembers compiler (engine.perform call).2
      (known.filter (Occurrence.mk engine call).outlives ++
        (Occurrence.mk engine call).submitted) := by
  have learning {after : Engine S} {definitions : List Definition}
      (learns : Learns engine after definitions) :
      Remembers compiler after (known.filter (fun _ => true) ++ definitions) := by
    rw [List.filter_true]
    exact learns.remembers remembers
  cases call with
  | compile definition => exact learning (engine.compile_learns definition)
  | register definition => exact learning (engine.register_learns definition)
  | unregister workflowId =>
    have left := remembers.unregister workflowId
    rw [← List.append_nil (known.filter _)] at left
    exact left
  | planFor now workflowId => exact learning (engine.planFor_learns now workflowId)
  | startExecution plan tenantId input =>
    exact learning (engine.startExecution_learns plan tenantId input)
  | startWorkflow now workflowId tenantId input =>
    exact learning (engine.startWorkflow_learns now workflowId tenantId input)
  | admitAndLaunch webhook plan request =>
    exact learning (engine.admitAndLaunch_learns webhook plan request)
  | triggerWebhook now webhookId request =>
    exact learning (engine.triggerWebhook_learns now webhookId request)
  | advance now id input => exact learning (engine.advance_learns now id input)
  | save now id => exact learning (engine.save_learns now id)
  | evict id => exact learning (engine.evict_learns id)
  | status id => exact learning (engine.status_learns id)
  | cancel now id => exact learning (engine.cancel_learns now id)
  | setTenants tenants => exact learning (.nothing rfl rfl)
  | setStore store => exact learning (.nothing rfl rfl)

end

variable {config : EngineConfig} {catalog : Catalog} {store : S} {ids : IdSource}
  {past : List (Occurrence S)} {engine : Engine S}

/-- Along every course the engine remembers what was submitted and not forgotten since. -/
theorem Course.remembers (course : Course (create config catalog store ids) past engine) :
    Remembers ⟨catalog.nodeTypes, config⟩ engine (remembered past) := by
  induction course with
  | start => exact ⟨rfl, fun _ => rfl⟩
  | next course call inductionHypothesis =>
    rw [remembered_concat]
    exact inductionHypothesis.perform call

/-- No definition with another plan has compiled under the version. -/
def Bumped (compiler : Compiler) (past : List (Occurrence S)) (definition : Definition) : Prop :=
  ∀ source ∈ remembered past, source.key = definition.key →
    ∀ plan, compiler.compile source = .ok plan → compiler.compile definition = .ok plan

/-- Nothing is kept for a bumped definition, or its own plan is. -/
theorem Bumped.firstPlan {compiler : Compiler} {definition : Definition}
    (bumped : Bumped compiler past definition) {plan : Plan}
    (first : compiler.firstPlan? ((remembered past).filter fun source =>
      source.key = definition.key) = some plan) : compiler.compile definition = .ok plan := by
  obtain ⟨source, member, compiled⟩ := List.exists_of_findSome?_eq_some first
  obtain ⟨inMemory, same⟩ := List.mem_filter.mp member
  cases answer : compiler.compile source with
  | error error => simp [answer, Except.toOption] at compiled
  | ok other =>
    simp only [answer, Except.toOption, Option.some.injEq] at compiled
    exact bumped source inMemory (by simpa using same) plan (compiled ▸ answer)

/-- A bumped definition gets its own plan, any other one the first of its key. -/
theorem cache_transparent (course : Course (create config catalog store ids) past engine)
    (definition : Definition) :
    engine.compiler = ⟨catalog.nodeTypes, config⟩ ∧
    (Bumped engine.compiler past definition →
      engine.Answers definition (engine.compiler.compile definition)) ∧
    (∀ own, engine.compiler.compile definition = .ok own → engine.Answers definition
      (.ok (engine.compiler.recalled (remembered past) definition own))) := by
  have remembers := course.remembers
  have kept := remembers.kept definition.key
  have answer := engine.compile_answer definition
  rw [kept, ← remembers.compiles] at answer
  refine ⟨remembers.compiles, fun bumped => .ofCompile ?_, fun own compiles => .ofCompile ?_⟩
  · rw [answer]
    split
    · next plan first => exact (bumped.firstPlan first).symm
    · rfl
  · rw [answer, compiles, Compiler.recalled]
    split
    · next plan first => rw [first, Option.getD_some]
    · next none => rw [none, Option.getD_none]

/-- Another version of the workflow compiles after the first one is forgotten. -/
def relearned : List (Occurrence MemoryStore) × Engine MemoryStore :=
  replay [] bare [.register Compiler.reversed, .unregister Compiler.reversed.id,
    .compile { Definition.pair with version := 2 }]

/-- A definition that does not compile is refused under the forgotten version. -/
theorem forgotten_version_compiled_afresh :
    Bumped relearned.2.compiler relearned.1 Compiler.circular ∧
    (relearned.2.compile Compiler.circular).1.map CompiledPlan.plan =
      .error (.cycleDetected ["last", "last"]) := by
  have known : remembered relearned.1 = [{ Definition.pair with version := 2 }] := by
    decide +kernel
  have bumped : Bumped relearned.2.compiler relearned.1 Compiler.circular := by
    intro source member same
    rw [known] at member
    cases List.mem_singleton.mp member
    exact absurd same (by decide)
  obtain ⟨compiler, fresh, _⟩ := cache_transparent
    (Course.start.replay _ : Course bare relearned.1 relearned.2) Compiler.circular
  refine ⟨bumped, (fresh bumped).compiled.trans ?_⟩
  rw [compiler]
  decide +kernel

/-- One definition has compiled. -/
def primed : List (Occurrence MemoryStore) × Engine MemoryStore :=
  replay [] bare [.compile Compiler.reversed]

/-- Another definition that compiles is registered with the plan of the first one. -/
theorem unbumped_version_served_stale :
    Course bare primed.1 primed.2 ∧
    primed.2.compiler.compile .pair = .ok .pair ∧
    (primed.2.compile .pair).1.map CompiledPlan.plan =
      .ok (Compiler.passthrough.plan Compiler.reversed ["first", "last"]) ∧
    (primed.2.compile .pair).1.map CompiledPlan.plan ≠ primed.2.compiler.compile .pair ∧
    (primed.2.register .pair).1.map
        (fun registered => (registered.definition, registered.compiled.plan)) =
      .ok (.pair, Compiler.passthrough.plan Compiler.reversed ["first", "last"]) :=
  ⟨Course.start.replay _, by decide +kernel, by decide +kernel, by decide +kernel,
    by decide +kernel⟩

end Engine

end WorkflowEngine
