/-
This file proves that no response tells anything about the secret of a webhook. Two runs without a
database that differ in the secrets of the posted definitions give the same responses, so long as no
webhook is called and no secret makes the body of its request too long.
-/

import WorkflowEngine.Proofs.Engine.Masking
import WorkflowEngine.Proofs.Http.Demands

namespace WorkflowEngine

open Json Time

/-- The demands are the same but for the secrets of their webhooks. -/
inductive Demand.SameButSecret : Demand → Demand → Prop where
  | same (demand : Demand) (quiet : ∀ webhookId request, demand ≠ .trigger webhookId request) :
    SameButSecret demand demand
  | create {left right : Definition} (same : left.SameButSecret right) :
    SameButSecret (.create left) (.create right)

/-- A request posts a definition if its body reads as the definition, however long it is. -/
structure HttpRequest.Posts (request : HttpRequest) (now : Timestamp) (definition : Definition) :
    Prop where
  method : request.method = "POST"
  path : Route.ofAddress? request.path = some .workflows
  announced : request.announcesJson = true
  read : (Definition.format now).ofBytes request.body = .ok definition

/-- A post is refused if it is too long, and asks for its definition otherwise. -/
theorem HttpRequest.Posts.demand {request : HttpRequest} {now : Timestamp}
    {definition : Definition} (posts : request.Posts now definition) :
    request.demand now = if request.isTooLong then .error 413 else .ok (.create definition) := by
  have route : request.demand now = (request.content (Definition.format now)).bind
      fun read => .ok (.create read) := by
    simp only [HttpRequest.demand, demandOn, posts.path, posts.method]
    rfl
  rw [route]
  cases long : request.isTooLong with
  | false =>
    rw [content_ok.mpr ⟨posts.announced, long, posts.read⟩]
    rfl
  | true =>
    rw [HttpRequest.content, posts.announced, long]
    rfl

/-- What happens in two runs differs in the secrets of posted definitions at most. -/
inductive HttpTurn.SameButSecret {S : Type} : HttpTurn S → HttpTurn S → Prop where
  | request (now : Moment) (request : HttpRequest)
    (quiet : ∀ webhookId inner, request.demand now.wall ≠ .ok (.trigger webhookId inner)) :
    SameButSecret (.request now request) (.request now request)
  | posted (now : Moment) {left right : HttpRequest} {leftDefinition rightDefinition : Definition}
    (leftPosts : left.Posts now.wall leftDefinition)
    (rightPosts : right.Posts now.wall rightDefinition)
    (same : leftDefinition.SameButSecret rightDefinition)
    (side : left.body.length ≤ 2097152 ↔ right.body.length ≤ 2097152) :
    SameButSecret (.request now left) (.request now right)
  | demand (now : Moment) {left right : Demand} (same : left.SameButSecret right) :
    SameButSecret (.demand now left) (.demand now right)
  | outage (statements : Nat) : SameButSecret (.outage statements) (.outage statements)
  | call {call : Engine.Call S} (quiet : call.Quiet) : SameButSecret (.call call) (.call call)

namespace HttpState

/-- What is sent of a response depends on the method of the request alone. -/
theorem sent_alike {leftRequest rightRequest : HttpRequest}
    (method : leftRequest.method = rightRequest.method) :
    leftRequest.sent = rightRequest.sent := by
  funext response
  unfold HttpRequest.sent
  rw [method]

/-- A workflow is summed up without a look at its secret. -/
theorem summary_masked (registered : RegisteredWorkflow) :
    summary registered.masked = summary registered := by
  unfold summary
  dsimp only [RegisteredWorkflow.masked]
  rw [registered.definition.redacted_webhook, Option.map_map]
  rfl

section

variable {S : Type}

/-- There is no database, and the engines differ in secrets at most. -/
structure Alike (left right : HttpState S) : Prop where
  masked : left.engine.masked = right.engine.masked
  leftAlone : left.database = none
  rightAlone : right.database = none

/-- Two outcomes are alike if the answers are the same and the states are alike. -/
def AlikeOutcomes {A : Type} (left right : A × HttpState S) : Prop :=
  left.1 = right.1 ∧ left.2.Alike right.2

/-- Alike outcomes have one answer. -/
theorem AlikeOutcomes.answer {A : Type} {left right : A × HttpState S}
    (outcomes : AlikeOutcomes left right) :
    ∃ answer leftAfter rightAfter, left = (answer, leftAfter) ∧ right = (answer, rightAfter) ∧
      leftAfter.Alike rightAfter := by
  obtain ⟨answer, leftAfter⟩ := left
  obtain ⟨_, rightAfter⟩ := right
  obtain ⟨rfl, later⟩ := outcomes
  exact ⟨answer, leftAfter, rightAfter, rfl, rfl, later⟩

variable {left right : HttpState S} (alike : left.Alike right)

include alike

theorem run_alike {A : Type} (leftStatement rightStatement : Statement A) :
    left.run? leftStatement = (none, left) ∧ right.run? rightStatement = (none, right) := by
  unfold run?
  rw [alike.leftAlone, alike.rightAlone]
  exact ⟨rfl, rfl⟩

theorem call_alike {A : Type} (leftRequest rightRequest : Engine S → A × Engine S)
    (same : Engine.maskedOutcome (leftRequest left.engine) =
      Engine.maskedOutcome (rightRequest right.engine)) :
    AlikeOutcomes (left.call leftRequest) (right.call rightRequest) := by
  obtain ⟨answered, after⟩ := Prod.mk.inj same
  exact ⟨answered, after, alike.leftAlone, alike.rightAlone⟩

theorem health_alike : AlikeOutcomes left.health right.health := by
  obtain ⟨leftRun, rightRun⟩ := run_alike alike Database.ping Database.ping
  unfold health
  rw [leftRun, rightRun]
  exact ⟨rfl, alike⟩

theorem listWorkflows_alike : AlikeOutcomes left.listWorkflows right.listWorkflows := by
  have shown (engine : Engine S) :
      engine.listWorkflows.map summary = engine.masked.listWorkflows.map summary := by
    rw [engine.listWorkflows_masked, List.map_map]
    exact List.map_congr_left fun registered _ => (summary_masked registered).symm
  unfold listWorkflows
  rw [shown, alike.masked, ← shown]
  exact ⟨rfl, alike⟩

/-- A definition is shown redacted, so it is shown as under the mask. -/
theorem showWorkflow_alike (id : Uuid) :
    AlikeOutcomes (left.showWorkflow id) (right.showWorkflow id) := by
  have found : (left.engine.workflow? id).map RegisteredWorkflow.masked =
      (right.engine.workflow? id).map RegisteredWorkflow.masked := by
    rw [← Engine.workflow_masked, ← Engine.workflow_masked, alike.masked]
  unfold showWorkflow
  cases leftKnown : left.engine.workflow? id with
  | none =>
    cases rightKnown : right.engine.workflow? id with
    | none => exact ⟨rfl, alike⟩
    | some other => simp [leftKnown, rightKnown] at found
  | some registered =>
    cases rightKnown : right.engine.workflow? id with
    | none => simp [leftKnown, rightKnown] at found
    | some other =>
      rw [leftKnown, rightKnown, Option.map_some, Option.map_some, Option.some.injEq] at found
      have redacted : registered.definition.redacted = other.definition.redacted :=
        congrArg (fun registered => registered.definition) found
      dsimp only
      rw [redacted]
      exact ⟨rfl, alike⟩

theorem registerWorkflow_alike {leftDefinition rightDefinition : Definition}
    (same : leftDefinition.redacted = rightDefinition.redacted) :
    AlikeOutcomes (left.registerWorkflow leftDefinition)
      (right.registerWorkflow rightDefinition) := by
  obtain ⟨answered, after⟩ := Engine.register_alike alike.masked same
  have later : Alike (left.call fun engine => engine.register leftDefinition).2
      (right.call fun engine => engine.register rightDefinition).2 :=
    ⟨after, alike.leftAlone, alike.rightAlone⟩
  replace answered : (left.call fun engine => engine.register leftDefinition).1.map
      RegisteredWorkflow.masked =
    (right.call fun engine => engine.register rightDefinition).1.map
      RegisteredWorkflow.masked := answered
  unfold registerWorkflow
  generalize (left.call fun engine => engine.register leftDefinition) = leftOutcome
    at answered later ⊢
  generalize (right.call fun engine => engine.register rightDefinition) = rightOutcome
    at answered later ⊢
  rcases leftOutcome with ⟨leftError | registered, leftAfter⟩
  all_goals rcases rightOutcome with ⟨rightError | other, rightAfter⟩
  · obtain rfl := Except.error.inj answered
    exact ⟨rfl, later⟩
  · cases answered
  · cases answered
  · have shown : summary registered = summary other := by
      rw [← summary_masked, Except.ok.inj answered, summary_masked]
    dsimp only
    rw [shown]
    exact ⟨rfl, later⟩

theorem createWorkflow_alike (now : Timestamp) {leftDefinition rightDefinition : Definition}
    (same : leftDefinition.redacted = rightDefinition.redacted) :
    AlikeOutcomes (left.createWorkflow now leftDefinition)
      (right.createWorkflow now rightDefinition) := by
  have compiles : Engine.maskedOutcome (left.engine.compile leftDefinition) =
      Engine.maskedOutcome (right.engine.compile rightDefinition) := by
    rw [← Engine.compile_masked, ← Engine.compile_masked, alike.masked, ← Engine.compile_redacted,
      same, Engine.compile_redacted]
  obtain ⟨answer, leftAfter, rightAfter, leftCall, rightCall, later⟩ :=
    (call_alike alike (fun engine => engine.compile leftDefinition)
      (fun engine => engine.compile rightDefinition) compiles).answer
  unfold createWorkflow
  rw [leftCall, rightCall]
  cases answer with
  | error error => exact ⟨rfl, later⟩
  | ok compiled =>
    obtain ⟨leftRun, rightRun⟩ := run_alike later
      (Database.upsertWorkflow (workflowRow now leftDefinition))
      (Database.upsertWorkflow (workflowRow now rightDefinition))
    dsimp only
    rw [leftRun, rightRun]
    exact registerWorkflow_alike later same

theorem deleteWorkflow_alike (id : Uuid) :
    AlikeOutcomes (left.deleteWorkflow id) (right.deleteWorkflow id) := by
  have forgets : Engine.maskedOutcome (left.engine.unregister id) =
      Engine.maskedOutcome (right.engine.unregister id) := by
    rw [← Engine.unregister_masked, ← Engine.unregister_masked, alike.masked]
  obtain ⟨existed, leftAfter, rightAfter, leftCall, rightCall, later⟩ :=
    (call_alike alike (fun engine => engine.unregister id) (fun engine => engine.unregister id)
      forgets).answer
  unfold deleteWorkflow
  rw [leftCall, rightCall]
  obtain ⟨leftRun, rightRun⟩ := run_alike later (Database.deleteWorkflow id)
    (Database.deleteWorkflow id)
  dsimp only
  rw [leftRun, rightRun]
  cases existed with
  | false => exact ⟨rfl, later⟩
  | true => exact ⟨rfl, later⟩

end

section

variable {S : Type} [ExecutionStore S] {left right : HttpState S} (alike : left.Alike right)

/-- Requests with one method are answered alike if they are read alike. -/
theorem handle_alike (now : Moment) {leftRequest rightRequest : HttpRequest}
    (method : leftRequest.method = rightRequest.method)
    (meets : AlikeOutcomes (left.meetRead now (leftRequest.demand now.wall))
      (right.meetRead now (rightRequest.demand now.wall))) :
    AlikeOutcomes (left.react (.request now leftRequest))
      (right.react (.request now rightRequest)) := by
  obtain ⟨answered, later⟩ := meets
  change AlikeOutcomes ([(left.handle now leftRequest).1], (left.handle now leftRequest).2)
    ([(right.handle now rightRequest).1], (right.handle now rightRequest).2)
  rw [handle_read, handle_read, sent_alike method, answered]
  exact ⟨rfl, later⟩

include alike

theorem execute_alike (now : Timestamp) (id tenantId : Uuid) (input : Json) :
    AlikeOutcomes
      (started (left.call fun engine => engine.startWorkflow now id tenantId input))
      (started (right.call fun engine => engine.startWorkflow now id tenantId input)) := by
  obtain ⟨answer, leftAfter, rightAfter, leftCall, rightCall, later⟩ :=
    (call_alike alike (fun engine => engine.startWorkflow now id tenantId input)
      (fun engine => engine.startWorkflow now id tenantId input)
      (Engine.startWorkflow_alike alike.masked now id tenantId input)).answer
  rw [leftCall, rightCall]
  cases answer with
  | error error => exact ⟨rfl, later⟩
  | ok executionId => exact ⟨rfl, later⟩

theorem showExecution_alike (id : Uuid) :
    AlikeOutcomes (left.showExecution id) (right.showExecution id) := by
  have shows : Engine.maskedOutcome (left.engine.status id) =
      Engine.maskedOutcome (right.engine.status id) := by
    rw [← Engine.status_masked, ← Engine.status_masked, alike.masked]
  obtain ⟨answer, leftAfter, rightAfter, leftCall, rightCall, later⟩ :=
    (call_alike alike (fun engine => engine.status id) (fun engine => engine.status id)
      shows).answer
  unfold showExecution
  rw [leftCall, rightCall]
  cases answer with
  | error error => exact ⟨rfl, later⟩
  | ok execution => exact ⟨rfl, later⟩

theorem cancelExecution_alike (now : Moment) (id : Uuid) :
    AlikeOutcomes (left.cancelExecution now id) (right.cancelExecution now id) := by
  have cancels : Engine.maskedOutcome (left.engine.cancel now id) =
      Engine.maskedOutcome (right.engine.cancel now id) := by
    rw [← Engine.cancel_masked, ← Engine.cancel_masked, alike.masked]
  obtain ⟨answer, leftAfter, rightAfter, leftCall, rightCall, later⟩ :=
    (call_alike alike (fun engine => engine.cancel now id) (fun engine => engine.cancel now id)
      cancels).answer
  unfold cancelExecution
  rw [leftCall, rightCall]
  cases answer with
  | error error => exact ⟨rfl, later⟩
  | ok _ => exact ⟨rfl, later⟩

/-- Demands that differ in secrets at most are met alike. -/
theorem meet_alike (now : Moment) {leftDemand rightDemand : Demand}
    (same : leftDemand.SameButSecret rightDemand) :
    AlikeOutcomes (left.meet now leftDemand) (right.meet now rightDemand) := by
  cases same with
  | create same => exact createWorkflow_alike alike now.wall same.redacted
  | same _ quiet =>
    cases leftDemand with
    | health => exact health_alike alike
    | list => exact listWorkflows_alike alike
    | showWorkflow id => exact showWorkflow_alike alike id
    | create definition => exact createWorkflow_alike alike now.wall rfl
    | delete id => exact deleteWorkflow_alike alike id
    | execute id tenantId input => exact execute_alike alike now.wall id tenantId input
    | showExecution id => exact showExecution_alike alike id
    | cancel id => exact cancelExecution_alike alike now id
    | trigger webhookId request => exact absurd rfl (quiet webhookId request)

/-- Turns that differ in secrets at most are answered alike. -/
theorem react_alike {leftTurn rightTurn : HttpTurn S} (same : leftTurn.SameButSecret rightTurn) :
    AlikeOutcomes (left.react leftTurn) (right.react rightTurn) := by
  cases same with
  | request now request quiet =>
    apply handle_alike now rfl
    cases read : request.demand now.wall with
    | error status => exact ⟨rfl, alike⟩
    | ok demand =>
      have other (webhookId : String) (inner : HttpRequest) : demand ≠ .trigger webhookId inner :=
        fun trigger => quiet webhookId inner (trigger ▸ read)
      exact meet_alike alike now (.same demand other)
  | @posted now leftRequest rightRequest _ _ leftPosts rightPosts same side =>
    apply handle_alike now (leftPosts.method.trans rightPosts.method.symm)
    have both : leftRequest.isTooLong = rightRequest.isTooLong := by
      rw [Bool.eq_iff_iff, HttpRequest.isTooLong, HttpRequest.isTooLong, decide_eq_true_iff,
        decide_eq_true_iff, HttpRequest.bodyLimit]
      omega
    rw [leftPosts.demand, rightPosts.demand, both]
    cases rightRequest.isTooLong with
    | true => exact ⟨rfl, alike⟩
    | false => exact meet_alike alike now (.create same)
  | demand now same =>
    obtain ⟨answered, later⟩ := meet_alike alike now same
    exact ⟨congrArg (fun answer => [respond answer]) answered, later⟩
  | outage statements =>
    have still {state : HttpState S} (alone : state.database = none) :
        state.failNext statements = state := by
      unfold failNext
      rw [alone]
    change AlikeOutcomes ([], left.failNext statements) ([], right.failNext statements)
    rw [still alike.leftAlone, still alike.rightAlone]
    exact ⟨rfl, alike⟩
  | call quiet =>
    exact ⟨rfl, Engine.perform_alike alike.masked quiet, alike.leftAlone, alike.rightAlone⟩

/-- Runs that differ in secrets at most give the same responses. -/
theorem responses_alike {leftTurns rightTurns : List (HttpTurn S)}
    (same : List.Forall₂ HttpTurn.SameButSecret leftTurns rightTurns) :
    left.responses leftTurns = right.responses rightTurns := by
  induction same generalizing left right with
  | nil => rfl
  | cons first _ inductionHypothesis =>
    obtain ⟨answered, later⟩ := react_alike alike first
    unfold responses
    rw [answered, inductionHypothesis later]

end

/-- Without a database, no response of the interface tells the secrets of webhooks apart. -/
theorem responses_blind_to_secrets {S : Type} [ExecutionStore S] (state : HttpState S)
    (alone : state.database = none) {left right : List (HttpTurn S)}
    (same : List.Forall₂ HttpTurn.SameButSecret left right) :
    state.responses left = state.responses right :=
  responses_alike ⟨rfl, alone, alone⟩ same

/-- A new interface without a database. -/
def alone : HttpState MemoryStore := { engine := .bare }

/-- The first moment of a day. -/
def midnight : Moment := ⟨⟨0, 0⟩, 0⟩

/-- This webhook belongs to a tenant. -/
def hook : Webhook where
  id := "hook"
  tenantId := ⟨0x000000000000400080000000000000a1⟩

/-- This workflow has a webhook with a shared secret. -/
def guarded (secret : String) : Definition where
  id := ⟨0x00000000000040008000000000000001⟩
  name := "wf"
  trigger := .webhook { hook with auth := .sharedSecret "x-webhook-secret" secret }
  nodes := [{ id := "a", nodeType := "passthrough" }]
  createdAt := midnight.wall

/-- This request posts that workflow. -/
def entrusting (secret : String) : HttpRequest where
  method := "POST"
  path := "/api/v1/workflows"
  headers := [("content-type", "application/json")]
  body := Text.Utf8.encode
    ("\x7b\"id\":\"00000000-0000-4000-8000-000000000001\",\"name\":\"wf\"," ++
      "\"trigger\":\x7b\"type\":\"webhook\",\"id\":\"hook\"," ++
      "\"tenant_id\":\"00000000-0000-4000-8000-0000000000a1\"," ++
      "\"auth\":\x7b\"type\":\"shared_secret\",\"secret\":\"" ++ secret ++ "\"\x7d\x7d," ++
      "\"nodes\":[\x7b\"id\":\"a\",\"node_type\":\"passthrough\"\x7d]\x7d")

/-- Once it is posted, the workflow is listed, shown, started and deleted. -/
def visits : List (HttpTurn MemoryStore) := [
  .demand midnight .list, .demand midnight (.showWorkflow (guarded "").id),
  .demand midnight (.execute (guarded "").id hook.tenantId .null),
  .demand midnight (.delete (guarded "").id)]

/-- In this run the workflow is posted at first. -/
def visited (secret : String) : List (HttpTurn MemoryStore) :=
  .request midnight (entrusting secret) :: visits

theorem entrusting_posts :
    (entrusting "swordfish").Posts midnight.wall (guarded "swordfish") ∧
    (entrusting "sesame").Posts midnight.wall (guarded "sesame") := by
  constructor
  · exact ⟨rfl, by decide +kernel, by decide +kernel, by decide +kernel⟩
  · exact ⟨rfl, by decide +kernel, by decide +kernel, by decide +kernel⟩

/-- The secret of a workflow cannot be told from posting, showing and starting it. -/
theorem visits_blind_to_secrets :
    alone.database = none ∧
    List.Forall₂ HttpTurn.SameButSecret (visited "swordfish") (visited "sesame") ∧
    alone.responses (visited "swordfish") = alone.responses (visited "sesame") ∧
    (alone.responses (visited "sesame")).map HttpResponse.status = [201, 200, 200, 202, 204] := by
  obtain ⟨leftPosts, rightPosts⟩ := entrusting_posts
  have same : List.Forall₂ HttpTurn.SameButSecret (visited "swordfish") (visited "sesame") := by
    refine .cons ?_ (.cons ?_ (.cons ?_ (.cons ?_ (.cons ?_ .nil))))
    · exact .posted midnight leftPosts rightPosts (.shared (guarded "") hook _ _ _)
        (by decide +kernel)
    all_goals exact .demand midnight (.same _ (by simp))
  have read : (entrusting "sesame").demand midnight.wall = .ok (.create (guarded "sesame")) := by
    rw [rightPosts.demand, if_neg (by decide +kernel)]
  have answered : (alone.responses (.demand midnight (.create (guarded "sesame")) :: visits)).map
      HttpResponse.status = [201, 200, 200, 202, 204] := by
    decide +kernel
  refine ⟨rfl, same, responses_blind_to_secrets alone rfl same, ?_⟩
  unfold responses at answered
  rw [← alone.react_request read (by decide)] at answered
  exact answered

/-- In this request blanks stand before the body. -/
def padded (blanks : Nat) (secret : String) : HttpRequest :=
  { entrusting secret with body := List.replicate blanks 32 ++ (entrusting secret).body }

/-- Blanks before a record are skipped. -/
theorem shaped_padded (size depth blanks : Nat) (fields : List Field) (text : List UInt8) :
    Reader.shaped size depth (.record fields) (List.replicate blanks 32 ++ text) =
      Reader.shaped size depth (.record fields) text := by
  have skipped : Reader.skipBlanks (List.replicate blanks 32 ++ text) =
      Reader.skipBlanks text := by
    induction blanks with
    | zero => rfl
    | succ blanks inductionHypothesis => exact inductionHypothesis
  unfold Reader.shaped
  rw [skipped]

theorem readBytes_padded (blanks : Nat) (fields : List Field) (text : List UInt8) :
    readBytes (.record fields) (List.replicate blanks 32 ++ text) =
      (Reader.shaped (blanks + text.length) nestingLimit (.record fields) text).bind fun read =>
        if (Reader.skipBlanks read.2).isEmpty then .ok read.1 else .error .malformed := by
  unfold readBytes
  rw [List.length_append, List.length_replicate, shaped_padded]
  rfl

theorem responses_request (state : HttpState MemoryStore) (now : Moment) (request : HttpRequest) :
    state.responses [.request now request] = [(state.handle now request).1] :=
  rfl

theorem padded_isTooLong (blanks : Nat) (secret : String) : (padded blanks secret).isTooLong =
    decide (2097152 < blanks + (entrusting secret).body.length) := by
  rw [HttpRequest.isTooLong, padded, List.length_append, List.length_replicate]
  rfl

/-- A secret that makes its post too long is told apart. -/
theorem long_secret_refused :
    (padded 2096903 "swordfish").Posts midnight.wall (guarded "swordfish") ∧
    (padded 2096903 "swordfishes").Posts midnight.wall (guarded "swordfishes") ∧
    (guarded "swordfish").SameButSecret (guarded "swordfishes") ∧
    (alone.responses [.request midnight (padded 2096903 "swordfish")]).map
      HttpResponse.status = [201] ∧
    (alone.responses [.request midnight (padded 2096903 "swordfishes")]).map
      HttpResponse.status = [413] := by
  have left : (padded 2096903 "swordfish").Posts midnight.wall (guarded "swordfish") := by
    refine ⟨rfl, by decide +kernel, by decide +kernel, ?_⟩
    rw [Format.ofBytes, padded, Definition.format, readBytes_padded]
    decide +kernel
  have right : (padded 2096903 "swordfishes").Posts midnight.wall (guarded "swordfishes") := by
    refine ⟨rfl, by decide +kernel, by decide +kernel, ?_⟩
    rw [Format.ofBytes, padded, Definition.format, readBytes_padded]
    decide +kernel
  have letters : (entrusting "swordfish").body.length = 249 ∧
      (entrusting "swordfishes").body.length = 251 := by decide +kernel
  have short : (padded 2096903 "swordfish").isTooLong = false := by
    rw [padded_isTooLong, letters.1]
    rfl
  have long : (padded 2096903 "swordfishes").isTooLong = true := by
    rw [padded_isTooLong, letters.2]
    rfl
  have created : (respond (alone.meet midnight (.create (guarded "swordfish"))).1).status = 201 := by
    decide +kernel
  refine ⟨left, right, .shared (guarded "") hook _ _ _, ?_, ?_⟩
  · rw [responses_request, List.map_singleton, handle_read, left.demand, short,
      HttpRequest.sent_status]
    exact congrArg (fun status => [status]) created
  · rw [responses_request, List.map_singleton, handle_read, right.demand, long]
    rfl

end HttpState

end WorkflowEngine
