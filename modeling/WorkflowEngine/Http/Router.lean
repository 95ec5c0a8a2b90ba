/-
This file holds the answers to HTTP requests. With a database at hand a workflow is stored before
it is registered; without one it lives in the engine alone.
-/

import WorkflowEngine.Engine.Progress
import WorkflowEngine.Engine.Start
import WorkflowEngine.Http.Failure
import WorkflowEngine.Http.Route
import WorkflowEngine.Store.Database

namespace WorkflowEngine

open Json Time

/-- A store that contains a database lets statements run on it. -/
structure DatabaseAccess (S : Type) where
  get : S → Database
  put : S → Database → S

/-- The interface works with an engine and, if it has one, with a database. -/
structure HttpState (S : Type) where
  engine : Engine S
  database : Option (DatabaseAccess S) := none

/-- An answer is a response or a failure, and the state after it. -/
abbrev HttpAnswer (S : Type) := Except HttpFailure HttpResponse × HttpState S

namespace HttpState

variable {S : Type}

def call {A : Type} (state : HttpState S) (request : Engine S → A × Engine S) :
    A × HttpState S :=
  let (answer, engine) := request state.engine
  (answer, { state with engine := engine })

/-- A statement runs only if there is a database. -/
def run? {A : Type} (state : HttpState S) (statement : Statement A) :
    Option (Except DatabaseError A) × HttpState S :=
  match state.database with
  | none => (none, state)
  | some access =>
    let (outcome, database) := statement (access.get state.engine.store)
    (some outcome, { state with engine :=
      { state.engine with store := access.put state.engine.store database } })

def summary (registered : RegisteredWorkflow) : Json :=
  let definition := registered.definition
  object [("id", ofUuid definition.id), ("name", string definition.name),
    ("version", ofUInt32 definition.version),
    ("webhook_id", ofOption (definition.webhook?.map fun webhook => string webhook.id)),
    ("steps", array (registered.compiled.plan.stepOrder.map string))]

def accepted (id : Uuid) : HttpResponse :=
  { status := 202, body := some (object [("execution_id", ofUuid id)]) }

def health (state : HttpState S) : HttpAnswer S :=
  match state.run? Database.ping with
  | (some (.error error), state) => (.error (.database error), state)
  | (_, state) => (.ok { status := 200, body := some (object [("status", string "ok")]) }, state)

def listWorkflows (state : HttpState S) : HttpAnswer S :=
  (.ok { status := 200, body := some (array (state.engine.listWorkflows.map summary)) }, state)

def showWorkflow (state : HttpState S) (id : Uuid) : HttpAnswer S :=
  match state.engine.workflow? id with
  | none => (.error (.notFound ("workflow " ++ id.text)), state)
  | some registered =>
    (.ok { status := 200, body := some registered.definition.redacted.encode }, state)

def workflowRow (now : Timestamp) (definition : Definition) : WorkflowRow :=
  { id := definition.id
    name := definition.name
    version := Int32.ofNat definition.version.toNat
    definition := definition.encode.normalize
    createdAt := now }

def registerWorkflow (state : HttpState S) (definition : Definition) : HttpAnswer S :=
  match state.call fun engine => engine.register definition with
  | (.error error, state) => (.error (.engine (.compile error)), state)
  | (.ok registered, state) => (.ok { status := 201, body := some (summary registered) }, state)

/-- A definition is compiled, then stored, then registered. -/
def createWorkflow (state : HttpState S) (now : Timestamp) (definition : Definition) :
    HttpAnswer S :=
  match state.call fun engine => engine.compile definition with
  | (.error error, state) => (.error (.engine (.compile error)), state)
  | (.ok _, state) =>
    match state.run? (Database.upsertWorkflow (workflowRow now definition)) with
    | (some (.error error), state) => (.error (.database error), state)
    | (_, state) => state.registerWorkflow definition

def deleted (id : Uuid) (existed : Bool) (state : HttpState S) : HttpAnswer S :=
  if existed then (.ok { status := 204 }, state)
  else (.error (.notFound ("workflow " ++ id.text)), state)

/-- The engine forgets the workflow before its row is deleted. -/
def deleteWorkflow (state : HttpState S) (id : Uuid) : HttpAnswer S :=
  let (known, state) := state.call fun engine => engine.unregister id
  match state.run? (Database.deleteWorkflow id) with
  | (none, state) => deleted id known state
  | (some (.ok ()), state) => deleted id true state
  | (some (.error .rowNotFound), state) => deleted id known state
  | (some (.error error), state) => (.error (.database error), state)

def started (outcome : Except EngineError Uuid × HttpState S) : HttpAnswer S :=
  match outcome with
  | (.error error, state) => (.error (.engine error), state)
  | (.ok id, state) => (.ok (accepted id), state)

/-- An order names who starts a workflow, and perhaps the input. -/
def orderFields : List Field := [.required "tenant_id" .uuid, .defaulted "input" .any]

def startOrder? (value : Json) : Option (Uuid × Json) := do
  let record ← Record.read? orderFields value
  some (← record.required "tenant_id" uuid?, ← record.defaulted "input" .null any?)

/-- An order is a record. -/
def orderFormat : Format (Uuid × Json) := ⟨.record orderFields, startOrder?⟩

def showExecution [ExecutionStore S] (state : HttpState S) (id : Uuid) : HttpAnswer S :=
  match state.call fun engine => engine.status id with
  | (.error error, state) => (.error (.engine error), state)
  | (.ok execution, state) => (.ok { status := 200, body := some execution.encode }, state)

def cancelExecution [ExecutionStore S] (state : HttpState S) (now : Moment) (id : Uuid) :
    HttpAnswer S :=
  match state.call fun engine => engine.cancel now id with
  | (.error error, state) => (.error (.engine error), state)
  | (.ok (), state) => (.ok (accepted id), state)

/-- The engine sees the exact body and the readable headers. -/
def triggerWebhook [ExecutionStore S] (state : HttpState S) (now : Moment) (webhookId : String)
    (request : HttpRequest) : HttpAnswer S :=
  started (state.call fun engine => engine.triggerWebhook now.wall webhookId
    (WebhookRequest.ofHeaders request.readableHeaders request.body now.wall))

def bare (state : HttpState S) (status : Nat) : HttpAnswer S :=
  (.ok { status := status }, state)

/-- A parameter that is no identifier is refused. -/
def withUuid (state : HttpState S) (parameter : String) (answer : Uuid → HttpAnswer S) :
    HttpAnswer S :=
  match (PercentCoding.decode? parameter).bind Uuid.ofText? with
  | some id => answer id
  | none => state.bare 400

/-- A parameter that is no text is refused. -/
def withText (state : HttpState S) (parameter : String) (answer : String → HttpAnswer S) :
    HttpAnswer S :=
  match PercentCoding.decode? parameter with
  | some text => answer text
  | none => state.bare 400

/-- The body has to be announced as JSON, and may not be too long. -/
def withBody {A : Type} (state : HttpState S) (request : HttpRequest) (format : Format A)
    (answer : A → HttpAnswer S) : HttpAnswer S :=
  let announced := match request.header? "content-type" with
    | some value => HttpRequest.isReadable value && MediaType.isJson value
    | none => false
  if !announced then state.bare 415
  else if request.isTooLong then state.bare 413
  else
    match format.ofBytes request.body with
    | .ok content => answer content
    | .error .malformed => state.bare 400
    | .error .mismatched => state.bare 422

def answer [ExecutionStore S] (state : HttpState S) (now : Moment) (request : HttpRequest) :
    Route → HttpAnswer S
  | .health => state.health
  | .workflows =>
    if request.method = "POST" then
      state.withBody request (Definition.format now.wall) (state.createWorkflow now.wall)
    else state.listWorkflows
  | .workflow id =>
    state.withUuid id fun id =>
      if request.method = "DELETE" then state.deleteWorkflow id else state.showWorkflow id
  | .execute id =>
    state.withUuid id fun id => state.withBody request orderFormat fun order =>
      started (state.call fun engine => engine.startWorkflow now.wall id order.1 order.2)
  | .execution id => state.withUuid id fun id => state.showExecution id
  | .cancellation id => state.withUuid id fun id => state.cancelExecution now id
  | .webhook id =>
    state.withText id fun id =>
      if request.isTooLong then state.bare 413 else state.triggerWebhook now id request

def respond (answer : Except HttpFailure HttpResponse) : HttpResponse :=
  match answer with
  | .ok response => response
  | .error failure => failure.response

/-- A request about the options of a route is always granted. -/
def handle [ExecutionStore S] (state : HttpState S) (now : Moment) (request : HttpRequest) :
    HttpResponse × HttpState S :=
  if request.method = "OPTIONS" then ({ status := 200 }, state)
  else
    match Route.ofAddress? request.path with
    | none => ({ status := 404 }, state)
    | some route =>
      if !route.methods.contains request.method then ({ status := 405 }, state)
      else
        let (outcome, state) := state.answer now request route
        let response := respond outcome
        (if request.method = "HEAD" then { response with body := none } else response, state)

end HttpState

end WorkflowEngine
