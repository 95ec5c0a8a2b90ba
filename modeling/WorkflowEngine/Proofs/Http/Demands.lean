/-
This file proves that the router reads a request without a look at its state: it refuses the request
with a bare status, or it hands on a demand. It also holds all that may happen to the interface.
-/

import WorkflowEngine.Http.Router
import WorkflowEngine.Proofs.Engine.Course

namespace WorkflowEngine

open Json Time

/-- A demand is what a request asks for once it has been read. -/
inductive Demand where
  | health
  | list
  | showWorkflow (id : Uuid)
  | create (definition : Definition)
  | delete (id : Uuid)
  | execute (id tenantId : Uuid) (input : Json)
  | showExecution (id : Uuid)
  | cancel (id : Uuid)
  | trigger (webhookId : String) (request : HttpRequest)
  deriving DecidableEq

namespace HttpRequest

def uuidOf (parameter : String) : Except Nat Uuid :=
  match (PercentCoding.decode? parameter).bind Uuid.ofText? with
  | some id => .ok id
  | none => .error 400

def textOf (parameter : String) : Except Nat String :=
  match PercentCoding.decode? parameter with
  | some text => .ok text
  | none => .error 400

def announcesJson (request : HttpRequest) : Bool :=
  match request.header? "content-type" with
  | some value => isReadable value && MediaType.isJson value
  | none => false

def content {A : Type} (request : HttpRequest) (format : Format A) : Except Nat A :=
  if !request.announcesJson then .error 415
  else if request.isTooLong then .error 413
  else
    match format.ofBytes request.body with
    | .ok content => .ok content
    | .error .malformed => .error 400
    | .error .mismatched => .error 422

theorem content_ok {A : Type} {request : HttpRequest} {format : Format A} {content : A} :
    request.content format = .ok content ↔ request.announcesJson = true ∧
      request.isTooLong = false ∧ format.ofBytes request.body = .ok content := by
  unfold HttpRequest.content
  cases request.announcesJson with
  | false => simp
  | true =>
    cases request.isTooLong with
    | true => simp
    | false => rcases format.ofBytes request.body with (_ | _) | other <;> simp

def demandOn (request : HttpRequest) (now : Timestamp) : Route → Except Nat Demand
  | .health => .ok .health
  | .workflows =>
    if request.method = "POST" then do
      let definition ← request.content (Definition.format now)
      .ok (.create definition)
    else .ok .list
  | .workflow id => do
    let id ← uuidOf id
    .ok (if request.method = "DELETE" then .delete id else .showWorkflow id)
  | .execute id => do
    let id ← uuidOf id
    let order ← request.content HttpState.orderFormat
    .ok (.execute id order.1 order.2)
  | .execution id => do
    let id ← uuidOf id
    .ok (.showExecution id)
  | .cancellation id => do
    let id ← uuidOf id
    .ok (.cancel id)
  | .webhook id => do
    let id ← textOf id
    if request.isTooLong then .error 413 else .ok (.trigger id request)

def demand (request : HttpRequest) (now : Timestamp) : Except Nat Demand :=
  if request.method = "OPTIONS" then .error 200
  else
    match Route.ofAddress? request.path with
    | none => .error 404
    | some route =>
      if !route.methods.contains request.method then .error 405
      else request.demandOn now route

/-- A request for the head gets no body. -/
def sent (request : HttpRequest) (response : HttpResponse) : HttpResponse :=
  if request.method = "HEAD" then { response with body := none } else response

@[simp]
theorem sent_status (request : HttpRequest) (response : HttpResponse) :
    (request.sent response).status = response.status := by
  unfold sent
  split
  · rfl
  · rfl

end HttpRequest

/-- Requests arrive, demands are met, statements fail, and the engine moves. -/
inductive HttpTurn (S : Type) where
  | request (now : Moment) (request : HttpRequest)
  | demand (now : Moment) (demand : Demand)
  | outage (statements : Nat)
  | call (call : Engine.Call S)

namespace HttpState

section

variable {S : Type} [ExecutionStore S]

def meet (state : HttpState S) (now : Moment) : Demand → HttpAnswer S
  | .health => state.health
  | .list => state.listWorkflows
  | .showWorkflow id => state.showWorkflow id
  | .create definition => state.createWorkflow now.wall definition
  | .delete id => state.deleteWorkflow id
  | .execute id tenantId input =>
    started (state.call fun engine => engine.startWorkflow now.wall id tenantId input)
  | .showExecution id => state.showExecution id
  | .cancel id => state.cancelExecution now id
  | .trigger webhookId request => state.triggerWebhook now webhookId request

def meetRead (state : HttpState S) (now : Moment) : Except Nat Demand → HttpAnswer S
  | .error status => state.bare status
  | .ok demand => state.meet now demand

theorem withUuid_read (state : HttpState S) (now : Moment) (parameter : String)
    (next : Uuid → Except Nat Demand) :
    state.withUuid parameter (fun id => state.meetRead now (next id)) =
      state.meetRead now (HttpRequest.uuidOf parameter >>= next) := by
  unfold withUuid HttpRequest.uuidOf
  cases (PercentCoding.decode? parameter).bind Uuid.ofText? with
  | none => rfl
  | some id => rfl

theorem withText_read (state : HttpState S) (now : Moment) (parameter : String)
    (next : String → Except Nat Demand) :
    state.withText parameter (fun text => state.meetRead now (next text)) =
      state.meetRead now (HttpRequest.textOf parameter >>= next) := by
  unfold withText HttpRequest.textOf
  cases PercentCoding.decode? parameter with
  | none => rfl
  | some text => rfl

theorem withBody_read {A : Type} (state : HttpState S) (now : Moment) (request : HttpRequest)
    (format : Format A) (next : A → Except Nat Demand) :
    state.withBody request format (fun content => state.meetRead now (next content)) =
      state.meetRead now (request.content format >>= next) := by
  change (if !request.announcesJson then state.bare 415
    else if request.isTooLong then state.bare 413
    else match format.ofBytes request.body with
      | .ok content => state.meetRead now (next content)
      | .error .malformed => state.bare 400
      | .error .mismatched => state.bare 422) = _
  unfold HttpRequest.content
  cases request.announcesJson with
  | false => rfl
  | true =>
    cases request.isTooLong with
    | true => rfl
    | false =>
      rcases format.ofBytes request.body with (_ | _) | content
      · rfl
      · rfl
      · rfl

/-- An answer on a route is that to the demand that was read. -/
theorem answer_read (state : HttpState S) (now : Moment) (request : HttpRequest) (route : Route) :
    state.answer now request route = state.meetRead now (request.demandOn now.wall route) := by
  cases route with
  | health => rfl
  | workflows =>
    by_cases post : request.method = "POST"
    · simp only [answer, HttpRequest.demandOn, if_pos post]
      exact state.withBody_read now request _ fun definition => .ok (.create definition)
    · simp only [answer, HttpRequest.demandOn, if_neg post]
      rfl
  | workflow id =>
    by_cases deletes : request.method = "DELETE"
    · simp only [answer, HttpRequest.demandOn, if_pos deletes]
      exact state.withUuid_read now id fun id => .ok (.delete id)
    · simp only [answer, HttpRequest.demandOn, if_neg deletes]
      exact state.withUuid_read now id fun id => .ok (.showWorkflow id)
  | execute id =>
    have path := state.withUuid_read now id fun id => do
      let order ← request.content orderFormat
      .ok (.execute id order.1 order.2)
    simp only [← withBody_read] at path
    exact path
  | execution id => exact state.withUuid_read now id fun id => .ok (.showExecution id)
  | cancellation id => exact state.withUuid_read now id fun id => .ok (.cancel id)
  | webhook id =>
    have limited (id : String) : (if request.isTooLong then state.bare 413
        else state.triggerWebhook now id request) = state.meetRead now
          (if request.isTooLong then .error 413 else .ok (.trigger id request)) := by
      cases request.isTooLong <;> rfl
    simp only [answer, limited]
    exact state.withText_read now id _

/-- A request is refused as it is read, or its demand is met. -/
theorem handle_read (state : HttpState S) (now : Moment) (request : HttpRequest) :
    state.handle now request =
      (request.sent (respond (state.meetRead now (request.demand now.wall)).1),
        (state.meetRead now (request.demand now.wall)).2) := by
  have bare (status : Nat) : ({ status := status }, state) =
      (request.sent (respond (state.bare status).1), (state.bare status).2) := by
    unfold HttpRequest.sent
    split <;> rfl
  unfold handle HttpRequest.demand
  by_cases options : request.method = "OPTIONS"
  · simp only [if_pos options]
    exact bare 200
  · simp only [if_neg options]
    cases Route.ofAddress? request.path with
    | none => exact bare 404
    | some route =>
      dsimp only
      cases route.methods.contains request.method with
      | false => exact bare 405
      | true =>
        rw [answer_read]
        rfl

def withStore (state : HttpState S) (store : S) : HttpState S :=
  { state with engine := { state.engine with store := store } }

def failNext (state : HttpState S) (statements : Nat) : HttpState S :=
  match state.database with
  | none => state
  | some access => state.withStore
    (access.put state.engine.store ((access.get state.engine.store).failNext statements))

def react (state : HttpState S) : HttpTurn S → List HttpResponse × HttpState S
  | .request now request =>
    let (response, state) := state.handle now request
    ([response], state)
  | .demand now demand =>
    let (answer, state) := state.meet now demand
    ([respond answer], state)
  | .outage statements => ([], state.failNext statements)
  | .call call => ([], { state with engine := (state.engine.perform call).2 })

def responses (state : HttpState S) : List (HttpTurn S) → List HttpResponse
  | [] => []
  | turn :: rest => (state.react turn).1 ++ (state.react turn).2.responses rest

def after (state : HttpState S) (turns : List (HttpTurn S)) : HttpState S :=
  turns.foldl (fun state turn => (state.react turn).2) state

section

variable {now : Moment} {request : HttpRequest} {demand : Demand}

theorem handle_demand (state : HttpState S) (read : request.demand now.wall = .ok demand) :
    (state.handle now request).1 = request.sent (respond (state.meet now demand).1) ∧
    (state.handle now request).2 = (state.meet now demand).2 := by
  rw [handle_read, read]
  exact ⟨rfl, rfl⟩

/-- A request that is read is answered as its demand, unless only the head is asked for. -/
theorem react_request (state : HttpState S) (read : request.demand now.wall = .ok demand)
    (whole : request.method ≠ "HEAD") :
    state.react (.request now request) = state.react (.demand now demand) := by
  obtain ⟨response, after⟩ := state.handle_demand read
  have sent : (state.handle now request).1 = respond (state.meet now demand).1 := by
    rw [response, HttpRequest.sent, if_neg whole]
  unfold react
  dsimp only
  rw [sent, after]

end

end

section

variable {S : Type} (state : HttpState S)

theorem call_database {A : Type} (request : Engine S → A × Engine S) :
    (state.call request).2.database = state.database := rfl

theorem run?_database {A : Type} (statement : Statement A) :
    (state.run? statement).2.database = state.database := by
  unfold run?
  split
  · rfl
  · rfl

theorem failNext_database (statements : Nat) :
    (state.failNext statements).database = state.database := by
  unfold failNext
  split
  · rfl
  · rfl

/-- What is told apart by its answer has the database that it had before. -/
theorem database_of {A : Type} {outcome : A × HttpState S} {answer : A} {after : HttpState S}
    (kept : outcome.2.database = state.database) (shape : outcome = (answer, after)) :
    after.database = state.database := by
  rwa [shape] at kept

theorem health_database : state.health.2.database = state.database := by
  unfold health
  split
  all_goals
    next shape => exact database_of state (state.run?_database _) shape

theorem showWorkflow_database (id : Uuid) :
    (state.showWorkflow id).2.database = state.database := by
  unfold showWorkflow
  split
  · rfl
  · rfl

theorem registerWorkflow_database (definition : Definition) :
    (state.registerWorkflow definition).2.database = state.database := by
  unfold registerWorkflow
  split
  all_goals
    next shape => exact database_of state (state.call_database _) shape

theorem createWorkflow_database (now : Timestamp) (definition : Definition) :
    (state.createWorkflow now definition).2.database = state.database := by
  unfold createWorkflow
  split
  · next shape => exact database_of state (state.call_database _) shape
  · next middle shape =>
    have compiled := database_of state (state.call_database _) shape
    split
    · next shape => exact (database_of middle (middle.run?_database _) shape).trans compiled
    · next last _ shape =>
      have stored := database_of middle (middle.run?_database _) shape
      exact (last.registerWorkflow_database definition).trans (stored.trans compiled)

theorem deleteWorkflow_database (id : Uuid) :
    (state.deleteWorkflow id).2.database = state.database := by
  have told (existed : Bool) (after : HttpState S) :
      (deleted id existed after).2.database = after.database := by
    cases existed <;> rfl
  have forgotten := state.call_database fun engine => engine.unregister id
  unfold deleteWorkflow
  dsimp only
  generalize (state.call fun engine => engine.unregister id) = unregistration at forgotten ⊢
  obtain ⟨known, middle⟩ := unregistration
  dsimp only at forgotten ⊢
  split
  · next shape =>
    exact (told _ _).trans ((database_of middle (middle.run?_database _) shape).trans forgotten)
  · next shape =>
    exact (told _ _).trans ((database_of middle (middle.run?_database _) shape).trans forgotten)
  · next shape =>
    exact (told _ _).trans ((database_of middle (middle.run?_database _) shape).trans forgotten)
  · next shape => exact (database_of middle (middle.run?_database _) shape).trans forgotten

theorem started_database (outcome : Except EngineError Uuid × HttpState S) :
    (started outcome).2.database = outcome.2.database := by
  rcases outcome with ⟨error | id, after⟩
  · rfl
  · rfl

end

section

variable {S : Type} [ExecutionStore S] (state : HttpState S)

theorem showExecution_database (id : Uuid) :
    (state.showExecution id).2.database = state.database := by
  unfold showExecution
  split
  all_goals
    next shape => exact database_of state (state.call_database _) shape

theorem cancelExecution_database (now : Moment) (id : Uuid) :
    (state.cancelExecution now id).2.database = state.database := by
  unfold cancelExecution
  split
  all_goals
    next shape => exact database_of state (state.call_database _) shape

/-- A demand leaves the interface with its database. -/
theorem meet_database (now : Moment) (demand : Demand) :
    (state.meet now demand).2.database = state.database := by
  cases demand with
  | health => exact state.health_database
  | list => rfl
  | showWorkflow id => exact state.showWorkflow_database id
  | create definition => exact state.createWorkflow_database now.wall definition
  | delete id => exact state.deleteWorkflow_database id
  | execute id tenantId input => exact started_database _
  | showExecution id => exact state.showExecution_database id
  | cancel id => exact state.cancelExecution_database now id
  | trigger webhookId request => exact started_database _

theorem react_database (turn : HttpTurn S) : (state.react turn).2.database = state.database := by
  cases turn with
  | request now request =>
    change (state.handle now request).2.database = state.database
    rw [handle_read]
    cases request.demand now.wall with
    | error status => rfl
    | ok demand => exact state.meet_database now demand
  | demand now demand => exact state.meet_database now demand
  | outage statements => exact state.failNext_database statements
  | call call => rfl

/-- Whatever happens, the interface keeps its database. -/
theorem after_database (turns : List (HttpTurn S)) :
    (state.after turns).database = state.database := by
  induction turns generalizing state with
  | nil => rfl
  | cons turn rest inductionHypothesis =>
    exact (inductionHypothesis (state.react turn).2).trans (state.react_database turn)

end

end HttpState

end WorkflowEngine
