/-
This file proves what a failed request about the registry leaves behind. A definition that compiles
keeps its plan in the engine, and a workflow that is registered is forgotten, although the database
has refused; every other failure leaves no trace.
-/

import WorkflowEngine.Proofs.Engine.StoredRecords
import WorkflowEngine.Proofs.Http.Demands
import WorkflowEngine.Store.Durable

namespace WorkflowEngine

open Time

namespace Database

/-- A statement is run if none is about to fail, or it fails and leaves the tables alone. -/
theorem run_cases {A : Type} (statement : Statement A) (database : Database) :
    (database.failingStatements = 0 ∧ run statement database = statement database) ∨
    ∃ left, run statement database =
      (.error injectedFailure, { database with failingStatements := left }) := by
  unfold run
  split
  · next works => exact .inl ⟨works, rfl⟩
  · exact .inr ⟨_, rfl⟩

end Database

/-- Every failure is answered by a status of an error. -/
theorem HttpFailure.status_error (failure : HttpFailure) : 400 ≤ failure.status := by
  unfold status
  split
  · decide
  · unfold admissionStatus
    split <;> decide
  all_goals decide

namespace Engine

variable {S : Type}

/-- A stirring demand changes the engine before the database is asked. -/
def Stirred (engine : Engine S) : Demand → Prop
  | .create definition => engine.plans.get? (definition.id, definition.version) = none ∧
    ∃ plan, engine.compiler.compile definition = .ok plan
  | .delete id => (engine.workflow? id).isSome
  | _ => False

/-- A compilation that succeeds gives a plan that is known from then on. -/
theorem compile_cases (engine : Engine S) (definition : Definition) :
    (∃ error, engine.compile definition = (.error error, engine)) ∨
    ∃ compiled, (engine.compile definition).1 = .ok compiled ∧
      (engine.compile definition).2.plans.get? (definition.id, definition.version) =
        some compiled := by
  unfold compile
  split
  · next compiled known => exact .inr ⟨compiled, rfl, known⟩
  · split
    · next error _ => exact .inl ⟨error, rfl⟩
    · exact .inr ⟨_, rfl, Table.getInsertSame _ _ _⟩

/-- A compilation that stirs an engine leaves a plan behind. -/
theorem compile_known {engine : Engine S} {definition : Definition}
    (stirred : engine.Stirred (.create definition)) :
    (engine.compile definition).2.plans.get? (definition.id, definition.version) ≠ none := by
  obtain ⟨missing, plan, compiles⟩ := stirred
  rcases engine.compile_cases definition with ⟨error, answer⟩ | ⟨compiled, _, known⟩
  · simp only [compile, missing, compiles] at answer
    cases answer
  · rw [known]
    exact Option.some_ne_none compiled

/-- A compilation changes nothing unless it stirs the engine. -/
theorem compile_still {engine : Engine S} {definition : Definition}
    (calm : ¬engine.Stirred (.create definition)) :
    (engine.compile definition).2 = engine := by
  unfold compile
  split
  · rfl
  · next unknown =>
    split
    · rfl
    · next plan compiled => exact absurd ⟨unknown, plan, compiled⟩ calm

theorem unregister_still {engine : Engine S} {id : Uuid} (calm : ¬engine.Stirred (.delete id)) :
    engine.unregister id = (false, engine) := by
  have unknown : engine.workflows.get? id = none := by
    simpa [Stirred, workflow?] using calm
  rw [unregister, unknown]

theorem unregister_known {engine : Engine S} {id : Uuid} (stirred : engine.Stirred (.delete id)) :
    (engine.unregister id).1 = true ∧ (engine.unregister id).2.workflow? id = none := by
  obtain ⟨registered, known⟩ := Option.isSome_iff_exists.mp stirred
  unfold unregister
  rw [show engine.workflows.get? id = some registered from known]
  dsimp only
  split
  · exact ⟨rfl, Table.getEraseSame _ _⟩
  · exact ⟨rfl, Table.getEraseSame _ _⟩

end Engine

namespace HttpRequest

/-- A request is about the registry if it posts a workflow or deletes one. -/
def Registry (request : HttpRequest) : Prop :=
  (request.method = "POST" ∧ Route.ofAddress? request.path = some .workflows) ∨
  (request.method = "DELETE" ∧ ∃ id, Route.ofAddress? request.path = some (.workflow id))

/-- A request about the registry that is read creates a workflow or deletes one. -/
theorem Registry.demand {request : HttpRequest} {now : Timestamp} {demand : Demand}
    (registry : request.Registry) (read : request.demand now = .ok demand) :
    (∃ definition, demand = .create definition) ∨ ∃ id, demand = .delete id := by
  rcases registry with ⟨post, route⟩ | ⟨deletes, parameter, route⟩
  · have shape : request.demand now =
        (request.content (Definition.format now)).bind fun definition =>
          .ok (.create definition) := by
      simp only [HttpRequest.demand, demandOn, route, post]
      rfl
    rw [shape] at read
    cases content : request.content (Definition.format now) with
    | error status => simp [content, Except.bind] at read
    | ok definition =>
      rw [content] at read
      exact .inl ⟨definition, (Except.ok.inj read).symm⟩
  · have shape : request.demand now = (uuidOf parameter).bind fun id => .ok (.delete id) := by
      simp only [HttpRequest.demand, demandOn, route, deletes]
      rfl
    rw [shape] at read
    cases content : uuidOf parameter with
    | error status => simp [content, Except.bind] at read
    | ok id =>
      rw [content] at read
      exact .inr ⟨id, (Except.ok.inj read).symm⟩

end HttpRequest

namespace HttpState

section

variable {S : Type} {state : HttpState S} {access : DatabaseAccess S} {id : Uuid}
  {definition : Definition}

def spent (access : DatabaseAccess S) (store : S) (left : Nat) : S :=
  access.put store { access.get store with failingStatements := left }

theorem run?_pool {A : Type} (pool : state.database = some access) (statement : Statement A) :
    state.run? statement =
      (some (statement (access.get state.engine.store)).1, state.withStore
        (access.put state.engine.store (statement (access.get state.engine.store)).2)) := by
  obtain ⟨engine, database⟩ := state
  obtain rfl : database = some access := pool
  rfl

/-- A definition whose plan is known is registered. -/
theorem registerWorkflow_known {compiled : CompiledPlan}
    (known : state.engine.plans.get? (definition.id, definition.version) = some compiled) :
    ∃ response after, state.registerWorkflow definition = (.ok response, after) ∧
      response.status = 201 := by
  have answer : state.engine.compile definition = (.ok compiled, state.engine) := by
    rw [Engine.compile, known]
  unfold registerWorkflow call Engine.register
  dsimp only
  rw [answer]
  exact ⟨_, _, rfl, rfl⟩

/-- The database refuses a definition only after it has been compiled. -/
theorem create_cases (pool : state.database = some access) (now : Timestamp)
    (definition : Definition) :
    (∃ error, state.engine.compile definition = (.error error, state.engine) ∧
      state.createWorkflow now definition = (.error (.engine (.compile error)), state)) ∨
    ((access.get state.engine.store).failingStatements = 0 ∧
      ∃ response after, state.createWorkflow now definition = (.ok response, after) ∧
        response.status = 201) ∨
    ∃ left, state.createWorkflow now definition = (.error (.database Database.injectedFailure),
      { state with engine := { (state.engine.compile definition).2 with
        store := spent access state.engine.store left } }) := by
  have store := state.engine.compile_store definition
  rcases state.engine.compile_cases definition with ⟨error, answer⟩ | ⟨compiled, answer, known⟩
  · refine .inl ⟨error, answer, ?_⟩
    rw [createWorkflow, call, answer]
  · refine .inr ?_
    rw [createWorkflow, call]
    generalize state.engine.compile definition = compilation at store answer known ⊢
    obtain ⟨outcome, engine⟩ := compilation
    dsimp only at store answer known ⊢
    subst answer
    dsimp only
    have pooled : ({ state with engine := engine } : HttpState S).database = some access := pool
    rw [run?_pool pooled, Database.upsertWorkflow]
    dsimp only
    rw [store]
    rcases Database.run_cases (fun database : Database =>
        let stored := database.storedWorkflow (workflowRow now definition)
        (.ok stored, { database with
          workflows := database.workflows.insert (workflowRow now definition).id stored }))
        (access.get state.engine.store) with
      ⟨works, worked⟩ | ⟨left, failed⟩
    · rw [worked]
      exact .inl ⟨works, registerWorkflow_known known⟩
    · rw [failed]
      exact .inr ⟨left, rfl⟩

/-- The database refuses a deletion only after the engine has forgotten the workflow. -/
theorem delete_cases (pool : state.database = some access) (id : Uuid) :
    ((access.get state.engine.store).failingStatements = 0 ∧
      ∃ response after, state.deleteWorkflow id = (.ok response, after) ∧
        response.status = 204) ∨
    ∃ failure left, state.deleteWorkflow id = (.error failure,
      { state with engine := { (state.engine.unregister id).2 with
        store := spent access state.engine.store left } }) := by
  have store := state.engine.unregister_store id
  rw [deleteWorkflow, call]
  generalize state.engine.unregister id = unregistration at store ⊢
  obtain ⟨known, engine⟩ := unregistration
  dsimp only at store ⊢
  have pooled : ({ state with engine := engine } : HttpState S).database = some access := pool
  rw [run?_pool pooled, Database.deleteWorkflow]
  dsimp only
  rw [store]
  rcases Database.run_cases (fun database : Database =>
      if database.workflows.has id then
        (.ok (), { database with workflows := database.workflows.erase id })
      else (.error .rowNotFound, database)) (access.get state.engine.store) with
    ⟨works, worked⟩ | ⟨left, failed⟩
  · rw [worked]
    cases (access.get state.engine.store).workflows.has id with
    | true => exact .inl ⟨works, _, _, rfl, rfl⟩
    | false =>
      cases known with
      | true => exact .inl ⟨works, _, _, rfl, rfl⟩
      | false => exact .inr ⟨_, (access.get state.engine.store).failingStatements, rfl⟩
  · rw [failed]
    exact .inr ⟨_, left, rfl⟩

/-- Nothing but a count of failures has moved in a store. -/
def Spent (access : DatabaseAccess S) (before after : S) : Prop :=
  after = before ∨ ∃ left, after = spent access before left

/-- A creation that fails leaves the compiled plan behind. -/
theorem failed_create (pool : state.database = some access) {now : Timestamp}
    (fails : 400 ≤ (respond (state.createWorkflow now definition).1).status) :
    ∃ store, Spent access state.engine.store store ∧
      (state.createWorkflow now definition).2 =
        { state with engine := { (state.engine.compile definition).2 with store := store } } := by
  rcases create_cases pool now definition with
    ⟨error, unchanged, answer⟩ | ⟨_, response, after, answer, status⟩ | ⟨left, answer⟩
  · rw [answer, unchanged]
    exact ⟨_, .inl rfl, rfl⟩
  · rw [answer] at fails
    simp [respond, status] at fails
  · rw [answer]
    exact ⟨_, .inr ⟨left, rfl⟩, rfl⟩

/-- A deletion that fails leaves the engine without the workflow. -/
theorem failed_delete (pool : state.database = some access)
    (fails : 400 ≤ (respond (state.deleteWorkflow id).1).status) :
    ∃ store, Spent access state.engine.store store ∧
      (state.deleteWorkflow id).2 =
        { state with engine := { (state.engine.unregister id).2 with store := store } } := by
  rcases delete_cases pool id with ⟨_, response, after, answer, status⟩ | ⟨failure, left, answer⟩
  · rw [answer] at fails
    simp [respond, status] at fails
  · rw [answer]
    exact ⟨_, .inr ⟨left, rfl⟩, rfl⟩

/-- While the database is out no workflow is created. -/
theorem create_refused (pool : state.database = some access)
    (out : (access.get state.engine.store).failingStatements ≠ 0) (now : Timestamp)
    (definition : Definition) :
    400 ≤ (respond (state.createWorkflow now definition).1).status := by
  rcases create_cases pool now definition with ⟨error, _, answer⟩ | ⟨works, _⟩ | ⟨left, answer⟩
  · rw [answer]
    exact HttpFailure.status_error (.engine (.compile error))
  · exact absurd works out
  · rw [answer]
    exact HttpFailure.status_error (.database Database.injectedFailure)

/-- While the database is out no workflow is deleted. -/
theorem delete_refused (pool : state.database = some access)
    (out : (access.get state.engine.store).failingStatements ≠ 0) (id : Uuid) :
    400 ≤ (respond (state.deleteWorkflow id).1).status := by
  rcases delete_cases pool id with ⟨works, _⟩ | ⟨failure, left, answer⟩
  · exact absurd works out
  · rw [answer]
    exact failure.status_error

end

section

variable {S : Type} [ExecutionStore S] {state : HttpState S} {access : DatabaseAccess S}
  {now : Moment} {request : HttpRequest}

/-- Without a trace, all is answered as if only the store had moved. -/
def Traceless (state : HttpState S) (now : Moment) (request : HttpRequest) : Prop :=
  ∀ later : List (HttpTurn S), (state.handle now request).2.responses later =
    (state.withStore (state.handle now request).2.engine.store).responses later

/-- The identifier and the version stay. -/
def broken (definition : Definition) : Definition :=
  { definition with nodes := [], edges := [⟨"", "", none⟩] }

/-- A broken definition is accepted as soon as its plan is known. -/
theorem broken_told (pool : state.database = some access) (definition : Definition)
    (now : Moment) :
    (respond (state.meet now (.create (broken definition))).1).status = 400 ↔
      state.engine.plans.get? (definition.id, definition.version) = none := by
  cases plan : state.engine.plans.get? (definition.id, definition.version) with
  | none =>
    have refused : state.engine.compile (broken definition) =
        (.error (.unknownNodeReference "" .source), state.engine) := by
      unfold Engine.compile
      rw [show state.engine.plans.get? ((broken definition).id, (broken definition).version) =
        none from plan]
      rfl
    rw [meet, createWorkflow, call, refused]
    simp [respond, HttpFailure.response, HttpFailure.status]
  | some compiled =>
    have known : (state.engine.compile (broken definition)).1 = .ok compiled := by
      unfold Engine.compile
      rw [show state.engine.plans.get? ((broken definition).id, (broken definition).version) =
        some compiled from plan]
    rcases create_cases pool now.wall (broken definition) with
      ⟨error, refused, _⟩ | ⟨_, response, after, answer, status⟩ | ⟨left, answer⟩
    · rw [refused] at known
      cases known
    · rw [meet, answer]
      simp [respond, status]
    · rw [meet, answer]
      simp [respond, HttpFailure.response, HttpFailure.status]

/-- A workflow is shown as long as it is registered. -/
theorem show_told (state : HttpState S) (now : Moment) (id : Uuid) :
    (respond (state.meet now (.showWorkflow id)).1).status = 200 ↔
      (state.engine.workflow? id).isSome := by
  rw [meet, showWorkflow]
  cases state.engine.workflow? id with
  | none => simp [respond, HttpFailure.response, HttpFailure.status]
  | some registered => simp [respond]

/-- A request that leaves no trace changes the answer to no later demand. -/
theorem Traceless.told (traceless : state.Traceless now request) (probe : Demand) :
    (respond ((state.handle now request).2.meet now probe).1).status =
      (respond ((state.withStore (state.handle now request).2.engine.store).meet now
        probe).1).status := by
  have same := traceless [.demand now probe]
  exact congrArg HttpResponse.status (List.cons.inj same).1

/-- A request that has moved nothing but the store leaves no trace. -/
theorem traceless_of_store {store : S}
    (still : (state.handle now request).2 = state.withStore store) :
    state.Traceless now request := by
  unfold Traceless
  rw [still]
  intro later
  rfl

/-- A creation that fails leaves a trace exactly if it has stirred the engine. -/
theorem failed_create_traceless (pool : state.database = some access) {definition : Definition}
    (read : request.demand now.wall = .ok (.create definition))
    (fails : 400 ≤ (state.handle now request).1.status) :
    Spent access state.engine.store (state.handle now request).2.engine.store ∧
    (state.Traceless now request ↔ ¬state.engine.Stirred (.create definition)) := by
  obtain ⟨response, after⟩ := state.handle_demand read
  rw [response, HttpRequest.sent_status] at fails
  obtain ⟨store, spent, left⟩ := failed_create pool fails
  have whole : (state.handle now request).2 =
      { state with engine := { (state.engine.compile definition).2 with store := store } } :=
    after.trans left
  refine ⟨by rwa [whole], ?_⟩
  constructor
  · -- A broken definition of the same version tells whether the plan is known.
    intro traceless stirred
    have without : (state.withStore (state.handle now request).2.engine.store).database =
        some access := pool
    have afterwards : (state.handle now request).2.database = some access := by rwa [whole]
    have refused := (broken_told without definition now).mpr stirred.1
    have unknown := (broken_told afterwards definition now).mp
      ((traceless.told (.create (broken definition))).trans refused)
    rw [whole] at unknown
    exact Engine.compile_known stirred unknown
  · intro calm
    apply traceless_of_store
    rw [whole, Engine.compile_still calm]
    rfl

/-- A deletion that fails leaves a trace exactly if it has stirred the engine. -/
theorem failed_delete_traceless (pool : state.database = some access) {id : Uuid}
    (read : request.demand now.wall = .ok (.delete id))
    (fails : 400 ≤ (state.handle now request).1.status) :
    Spent access state.engine.store (state.handle now request).2.engine.store ∧
    (state.Traceless now request ↔ ¬state.engine.Stirred (.delete id)) := by
  obtain ⟨response, after⟩ := state.handle_demand read
  rw [response, HttpRequest.sent_status] at fails
  obtain ⟨store, spent, left⟩ := failed_delete pool fails
  have whole : (state.handle now request).2 =
      { state with engine := { (state.engine.unregister id).2 with store := store } } :=
    after.trans left
  refine ⟨by rwa [whole], ?_⟩
  constructor
  · -- The workflow is not shown any more.
    intro traceless stirred
    have without := (show_told (state.withStore (state.handle now request).2.engine.store)
      now id).mpr stirred
    have shown := (show_told (state.handle now request).2 now id).mp
      ((traceless.told (.showWorkflow id)).trans without)
    rw [whole] at shown
    have forgotten : Engine.workflow? { (state.engine.unregister id).2 with store := store } id =
        none := (Engine.unregister_known stirred).2
    simp [forgotten] at shown
  · intro calm
    apply traceless_of_store
    rw [whole, Engine.unregister_still calm]
    rfl

/-- A failed request leaves no trace exactly if it did not stir the engine. -/
theorem failed_request_traceless_iff (pool : state.database = some access)
    (registry : request.Registry) (fails : 400 ≤ (state.handle now request).1.status) :
    Spent access state.engine.store (state.handle now request).2.engine.store ∧
    (state.Traceless now request ↔
      ∀ demand, request.demand now.wall = .ok demand → ¬state.engine.Stirred demand) := by
  cases read : request.demand now.wall with
  | error status =>
    have unread : (state.handle now request).2 = state := by
      rw [handle_read, read]
      rfl
    refine ⟨.inl (by rw [unread]), ?_⟩
    constructor
    · intro _ demand impossible
      cases impossible
    · intro _
      exact traceless_of_store unread
  | ok demand =>
    simp only [Except.ok.injEq, forall_eq']
    rcases registry.demand read with ⟨definition, rfl⟩ | ⟨id, rfl⟩
    · exact failed_create_traceless pool read fails
    · exact failed_delete_traceless pool read fails

end

/-- A new interface works with a database of its own. -/
def fresh : HttpState Database where
  engine := .create {} [("passthrough", .passthrough)] {} ⟨0⟩
  database := some ⟨id, fun _ database => database⟩

/-- This moment is the first one. -/
def dawn : Moment := ⟨⟨0, 0⟩, 0⟩

/-- This workflow has one node. -/
def single : Definition where
  id := ⟨0x00000000000040008000000000000001⟩
  name := "wf"
  nodes := [{ id := "a", nodeType := "passthrough" }]
  createdAt := dawn.wall

/-- This request posts that workflow. -/
def posting : HttpRequest where
  method := "POST"
  path := "/api/v1/workflows"
  headers := [("content-type", "application/json")]
  body := Text.Utf8.encode
    ("\x7b\"id\":\"00000000-0000-4000-8000-000000000001\",\"name\":\"wf\"," ++
      "\"nodes\":[\x7b\"id\":\"a\",\"node_type\":\"passthrough\"\x7d]\x7d")

/-- This request deletes that workflow. -/
def deleting : HttpRequest where
  method := "DELETE"
  path := "/api/v1/workflows/00000000-0000-4000-8000-000000000001"

/-- The two requests are about the registry, and they are read as they are meant. -/
theorem requests_read :
    (Route.ofAddress? posting.path = some .workflows ∧
      posting.demand dawn.wall = .ok (.create single)) ∧
    Route.ofAddress? deleting.path = some (.workflow "00000000-0000-4000-8000-000000000001") ∧
      deleting.demand dawn.wall = .ok (.delete single.id) := by
  decide +kernel

theorem posting_read : posting.Registry ∧ posting.demand dawn.wall = .ok (.create single) :=
  ⟨.inl ⟨rfl, requests_read.1.1⟩, requests_read.1.2⟩

theorem deleting_read : deleting.Registry ∧ deleting.demand dawn.wall = .ok (.delete single.id) :=
  ⟨.inr ⟨rfl, _, requests_read.2.1⟩, requests_read.2.2⟩

/-- The workflow is still registered when the database goes out. -/
theorem single_registered :
    (fresh.engine.compiler.compile single).isOk ∧
    ((fresh.after [.demand dawn (.create single), .outage 1]).engine.workflow? single.id).isSome ∧
    (fresh.after [.demand dawn (.create single), .outage 1]).engine.store.failingStatements ≠ 0 := by
  decide +kernel

theorem after_posting (rest : List (HttpTurn Database)) :
    fresh.after (.request dawn posting :: rest) =
      fresh.after (.demand dawn (.create single) :: rest) := by
  unfold after
  rw [List.foldl_cons, List.foldl_cons, fresh.react_request posting_read.2 (by decide)]

theorem posting_refused : 400 ≤ ((fresh.after [.outage 1]).handle dawn posting).1.status := by
  rw [(handle_demand _ posting_read.2).1, HttpRequest.sent_status]
  exact create_refused (fresh.after_database [.outage 1]) Nat.one_ne_zero _ _

theorem unknown_deletion_refused :
    400 ≤ ((fresh.after [.outage 1]).handle dawn deleting).1.status := by
  rw [(handle_demand _ deleting_read.2).1, HttpRequest.sent_status]
  exact delete_refused (fresh.after_database [.outage 1]) Nat.one_ne_zero single.id

theorem known_deletion_refused :
    400 ≤ ((fresh.after [.request dawn posting, .outage 1]).handle dawn deleting).1.status := by
  rw [(handle_demand _ deleting_read.2).1, HttpRequest.sent_status, after_posting]
  exact delete_refused (fresh.after_database _) single_registered.2.2 single.id

/-- The workflow stirs the engine when it is posted, and again when it is deleted. -/
theorem single_stirs :
    (fresh.after [.outage 1]).engine.Stirred (.create single) ∧
    (fresh.after [.request dawn posting, .outage 1]).engine.Stirred (.delete single.id) := by
  constructor
  · have compiles := single_registered.1
    cases outcome : fresh.engine.compiler.compile single with
    | error error =>
      rw [outcome] at compiles
      cases compiles
    | ok plan => exact ⟨rfl, plan, outcome⟩
  · rw [after_posting]
    exact single_registered.2.1

/-- The deletion of an unknown workflow leaves no trace during an outage. -/
theorem outage_traceless_iff :
    (fresh.after [.outage 1]).Traceless dawn deleting ∧
    ¬(fresh.after [.request dawn posting, .outage 1]).Traceless dawn deleting := by
  have unknown := failed_request_traceless_iff (fresh.after_database [.outage 1])
    deleting_read.1 unknown_deletion_refused
  have known := failed_request_traceless_iff
    (fresh.after_database [.request dawn posting, .outage 1]) deleting_read.1 known_deletion_refused
  constructor
  · apply unknown.2.mpr
    intro demand read stirred
    obtain rfl := Except.ok.inj (deleting_read.2.symm.trans read)
    cases stirred
  · intro traceless
    exact known.2.mp traceless _ deleting_read.2 single_stirs.2

/-- A refused definition leaves its plan behind, and a refused deletion a gap. -/
theorem refused_requests_leave_traces :
    (¬∀ (earlier : List (HttpTurn Database)) (request : HttpRequest), request.method = "POST" →
      request.Registry → 400 ≤ ((fresh.after earlier).handle dawn request).1.status →
      (fresh.after earlier).Traceless dawn request) ∧
    ¬∀ (earlier : List (HttpTurn Database)) (request : HttpRequest), request.method = "DELETE" →
      request.Registry → 400 ≤ ((fresh.after earlier).handle dawn request).1.status →
      (fresh.after earlier).Traceless dawn request := by
  constructor
  · intro traceless
    have calm := (failed_create_traceless (fresh.after_database [.outage 1]) posting_read.2
      posting_refused).2.mp (traceless _ _ rfl posting_read.1 posting_refused)
    exact calm single_stirs.1
  · intro traceless
    have calm := (failed_delete_traceless
      (fresh.after_database [.request dawn posting, .outage 1]) deleting_read.2
      known_deletion_refused).2.mp (traceless _ _ rfl deleting_read.1 known_deletion_refused)
    exact calm single_stirs.2

end HttpState

end WorkflowEngine
