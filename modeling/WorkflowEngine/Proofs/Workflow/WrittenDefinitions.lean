/-
This file proves that a definition is read back from its written form in normal form, policies,
trigger and all, and that every definition that was read can be written in this way.
-/

import WorkflowEngine.Proofs.Json.NormalForm
import WorkflowEngine.Proofs.Text.WrittenUuids
import WorkflowEngine.Proofs.Time.WrittenTimestamps
import WorkflowEngine.Workflow.Definition

namespace WorkflowEngine

open Json Time

theorem Json.uuid?_normalize (id : Uuid) : uuid? (ofUuid id).normalize = some id := by
  rw [ofUuid, normalize, uuid?, text?, Option.bind_some, Uuid.ofText?_text]

theorem Json.timestamp?_normalize {time : Timestamp} (representable : time.Representable) :
    timestamp? (ofTimestamp time).normalize = some time := by
  rw [ofTimestamp, normalize, timestamp?, text?, Option.bind_some,
    Timestamp.ofText?_text representable]

theorem RetryPolicy.decode?_normalize (policy : RetryPolicy) :
    decode? policy.encode.normalize = some policy := by
  unfold decode? encode
  rw [Record.read?_normalize (by simp)]
  change (do
    some {
      maxAttempts := (← uint32? (ofUInt32 policy.maxAttempts).normalize)
      baseDelayMs := (← uint64? (ofUInt64 policy.baseDelayMs).normalize)
      maxDelayMs := (← uint64? (ofUInt64 policy.maxDelayMs).normalize) }) = some policy
  rw [uint32?_normalize, uint64?_normalize, uint64?_normalize]
  rfl

theorem RateLimit.decode?_normalize (rate : RateLimit) :
    decode? rate.encode.normalize = some rate := by
  unfold decode? encode
  rw [Record.read?_normalize (by simp)]
  change (do
    some {
      limit := (← uint32? (ofUInt32 rate.limit).normalize)
      windowSecs := (← uint64? (ofUInt64 rate.windowSecs).normalize) }) = some rate
  rw [uint32?_normalize, uint64?_normalize]
  rfl

namespace Authentication

/-- A header and a secret are read from the members behind the tag in any order. -/
theorem secretRecord?_perm {members : List (String × Json)} {header secret : String}
    (shuffled : members.Perm [("header", string header), ("secret", string secret)])
    (standardHeader : String) :
    secretRecord? standardHeader (object members) = some (header, secret) := by
  unfold secretRecord?
  rw [Record.read?_perm shuffled]
  rfl

theorem decode?_normalize (form : Tagged.TagForm) (authentication : Authentication) :
    decode? form authentication.encode.normalize = some authentication := by
  have members (header secret : String) :
      ("type" :: [("header", string header), ("secret", string secret)].map Prod.fst).Nodup := by
    simp
  cases authentication with
  | unprotected =>
    cases form <;> rfl
  | sharedSecret header secret =>
    obtain ⟨content, read, shuffled⟩ := Tagged.read?_normalize form (members header secret)
      (show cases.contains "shared_secret" = true by decide)
    unfold decode? encode
    rw [read]
    change (secretRecord? "x-webhook-secret" (object content)).map _ = _
    rw [secretRecord?_perm shuffled, Option.map_some]
  | signature header secret =>
    obtain ⟨content, read, shuffled⟩ := Tagged.read?_normalize form (members header secret)
      (show cases.contains "signature" = true by decide)
    unfold decode? encode
    rw [read]
    change (secretRecord? "x-signature-256" (object content)).map _ = _
    rw [secretRecord?_perm shuffled, Option.map_some]

end Authentication

namespace Webhook

theorem decode?_members (form : Tagged.TagForm) (id tenantId auth rateLimit : Json) :
    decode? form (object [("id", id), ("tenant_id", tenantId), ("auth", auth),
      ("rate_limit", rateLimit)]) = (do
    some {
      id := (← text? id)
      tenantId := (← uuid? tenantId)
      auth := (← Authentication.decode? form auth)
      rateLimit := (← RateLimit.decode? rateLimit) }) := rfl

/-- A webhook is read from its members in any order. -/
theorem decode?_perm {members : List (String × Json)} (form : Tagged.TagForm) (webhook : Webhook)
    (shuffled : members.Perm (normalizeMembers webhook.members)) :
    decode? form (object members) = some webhook := by
  have ordered : decode? form (object members) =
      decode? form (object (normalizeMembers webhook.members)) := by
    unfold decode?
    rw [Record.read?_perm shuffled]
  rw [ordered]
  unfold Webhook.members
  simp only [normalizeMembers]
  rw [decode?_members, text?_normalize, uuid?_normalize, Authentication.decode?_normalize,
    RateLimit.decode?_normalize]
  rfl

end Webhook

theorem Trigger.decode?_normalize (trigger : Trigger) :
    decode? trigger.encode.normalize = some trigger := by
  cases trigger with
  | manual => rfl
  | webhook config =>
    have members : ("type" :: config.members.map Prod.fst).Nodup := by
      simp [Webhook.members]
    obtain ⟨content, read, shuffled⟩ := Tagged.read?_normalize .name members
      (show cases.contains "webhook" = true by decide)
    unfold decode? encode
    rw [read]
    change (Webhook.decode? .nameOrPosition (object content)).map _ = _
    rw [config.decode?_perm .nameOrPosition shuffled, Option.map_some]

namespace NodeSpec

theorem decode?_members (id nodeType parameters tolerant : Json) (retry timeoutMs : Option Json) :
    decode? (object ([("id", id), ("node_type", nodeType), ("parameters", parameters)] ++
      optionalMember "retry" retry ++ optionalMember "timeout_ms" timeoutMs ++
      [("tolerant", tolerant)])) = (do
    some {
      id := (← text? id)
      nodeType := (← text? nodeType)
      parameters := parameters.normalize
      retry := (← perhaps? RetryPolicy.decode? retry)
      timeoutMs := (← perhaps? uint64? timeoutMs)
      tolerant := (← bool? tolerant) }) := by
  cases retry <;> cases timeoutMs <;> rfl

/-- A node is read back if its parameters are in normal form. -/
theorem decode?_normalize {node : NodeSpec} (normal : node.parameters.normalize = node.parameters) :
    decode? node.encode.normalize = some node := by
  unfold encode
  rw [Record.decode_normalize decode? (fun _ => rfl) (by
    cases node.retry <;> cases node.timeoutMs <;> simp [optionalMember])]
  simp only [normalizeMembers_append, normalizeMembers_optional, normalizeMembers]
  rw [decode?_members, text?_normalize, text?_normalize, bool?_normalize, normal, normal,
    perhaps?_normalize rfl RetryPolicy.decode?_normalize,
    perhaps?_normalize rfl uint64?_normalize]
  rfl

/-- Parameters are read in normal form. -/
theorem normal_of_read {value : Json} {node : NodeSpec} (read : decode? value = some node) :
    node.parameters.normalize = node.parameters := by
  unfold decode? at read
  simp only [Option.bind_eq_bind, Option.bind_eq_some_iff] at read
  obtain ⟨record, -, id, -, nodeType, -, parameters, found, retry, -, timeoutMs, -, tolerant, -,
    built⟩ := read
  obtain rfl := Option.some.inj built
  unfold Record.defaulted at found
  split at found
  · obtain rfl := Option.some.inj found
    rfl
  · next written _ =>
    obtain rfl := Option.some.inj found
    exact normalize_normalize written

end NodeSpec

namespace Edge

theorem decode?_members (source target : Json) (outputSlot : Option Json) :
    decode? (object ([("from", source), ("to", target)] ++
      optionalMember "output_slot" outputSlot)) = (do
    some {
      source := (← text? source)
      target := (← text? target)
      outputSlot := (← perhaps? text? outputSlot) }) := by
  cases outputSlot <;> rfl

theorem decode?_normalize (edge : Edge) : decode? edge.encode.normalize = some edge := by
  unfold encode
  rw [Record.decode_normalize decode? (fun _ => rfl) (by
    cases edge.outputSlot <;> simp [optionalMember])]
  simp only [normalizeMembers_append, normalizeMembers_optional, normalizeMembers]
  rw [decode?_members, text?_normalize, text?_normalize, perhaps?_normalize rfl text?_normalize]
  rfl

end Edge

namespace WorkflowSettings

theorem decode?_members (maxConcurrency defaultTimeoutMs defaultRetry : Option Json) :
    decode? (object (optionalMember "max_concurrency" maxConcurrency ++
      optionalMember "default_timeout_ms" defaultTimeoutMs ++
      optionalMember "default_retry" defaultRetry)) = (do
    some {
      maxConcurrency := (← perhaps? uint64? maxConcurrency)
      defaultTimeoutMs := (← perhaps? uint64? defaultTimeoutMs)
      defaultRetry := (← perhaps? RetryPolicy.decode? defaultRetry) }) := by
  cases maxConcurrency <;> cases defaultTimeoutMs <;> cases defaultRetry <;> rfl

theorem decode?_normalize (settings : WorkflowSettings) :
    decode? settings.encode.normalize = some settings := by
  unfold encode
  rw [Record.decode_normalize decode? (fun _ => rfl) (by
    cases settings.maxConcurrency <;> cases settings.defaultTimeoutMs <;>
      cases settings.defaultRetry <;> simp [optionalMember])]
  simp only [normalizeMembers_append, normalizeMembers_optional]
  rw [decode?_members, perhaps?_normalize rfl uint64?_normalize,
    perhaps?_normalize rfl uint64?_normalize, perhaps?_normalize rfl RetryPolicy.decode?_normalize]
  rfl

end WorkflowSettings

namespace Definition

/-- Parameters are in normal form, and the time of creation can be stored. -/
structure Writable (definition : Definition) : Prop where
  parameters : ∀ node ∈ definition.nodes, node.parameters.normalize = node.parameters
  createdAt : definition.createdAt.Representable

theorem decode?_members (now : Timestamp)
    (id version name trigger nodes edges settings createdAt : Json) :
    decode? now (object [("id", id), ("version", version), ("name", name), ("trigger", trigger),
      ("nodes", nodes), ("edges", edges), ("settings", settings), ("created_at", createdAt)]) = (do
    some {
      id := (← uuid? id)
      version := (← uint32? version)
      name := (← text? name)
      trigger := (← Trigger.decode? trigger)
      nodes := (← list? NodeSpec.decode? nodes)
      edges := (← list? Edge.decode? edges)
      settings := (← WorkflowSettings.decode? settings)
      createdAt := (← timestamp? createdAt) }) := rfl

/-- A definition is read back from its written form, whatever the time is. -/
theorem decode?_normalize {definition : Definition} (writable : definition.Writable)
    (now : Timestamp) : decode? now definition.encode.normalize = some definition := by
  unfold encode
  rw [Record.decode_normalize (decode? now) (fun _ => rfl) (by simp)]
  simp only [normalizeMembers]
  rw [decode?_members, uuid?_normalize, uint32?_normalize, text?_normalize,
    Trigger.decode?_normalize,
    list?_normalize fun node member => NodeSpec.decode?_normalize (writable.parameters node member),
    list?_normalize fun edge _ => edge.decode?_normalize, WorkflowSettings.decode?_normalize,
    timestamp?_normalize writable.createdAt]
  rfl

theorem Writable.of_read {now : Timestamp} (clock : now.Representable) {value : Json}
    {definition : Definition} (read : decode? now value = some definition) :
    definition.Writable := by
  unfold decode? at read
  simp only [Option.bind_eq_bind, Option.bind_eq_some_iff] at read
  obtain ⟨record, -, id, -, version, -, name, -, trigger, -, nodes, nodesRead, edges, -, settings,
    -, createdAt, created, built⟩ := read
  obtain rfl := Option.some.inj built
  constructor
  · intro node member
    obtain ⟨written, -, listRead⟩ := Option.bind_eq_some_iff.mp nodesRead
    obtain ⟨items, -, itemsRead⟩ := Option.bind_eq_some_iff.mp listRead
    obtain ⟨item, -, itemRead⟩ := mem_mapM itemsRead member
    exact NodeSpec.normal_of_read itemRead
  · unfold Record.defaulted at created
    split at created
    · obtain rfl := Option.some.inj created
      exact clock
    · obtain ⟨text, -, timeRead⟩ := Option.bind_eq_some_iff.mp created
      exact .of_read timeRead

/-- A time of creation can be stored if and only if it is read back from its text. -/
theorem writable_iff {definition : Definition} : definition.Writable ↔
    (∀ node ∈ definition.nodes, node.parameters.normalize = node.parameters) ∧
      Timestamp.ofText? definition.createdAt.text = some definition.createdAt := by
  constructor
  · intro writable
    exact ⟨writable.parameters, Timestamp.ofText?_text writable.createdAt⟩
  · rintro ⟨parameters, told⟩
    exact ⟨parameters, .of_read told⟩

/-- A definition comes back from its written form exactly under these conditions. -/
theorem read_back_iff (definition : Definition) :
    (∀ now, decode? now definition.encode.normalize = some definition) ↔
      (∀ node ∈ definition.nodes, node.parameters.normalize = node.parameters) ∧
        Timestamp.ofText? definition.createdAt.text = some definition.createdAt := by
  rw [← writable_iff]
  constructor
  · intro comes
    have clock : (⟨0, 0⟩ : Timestamp).Representable := ⟨by decide, .inl (by decide)⟩
    exact .of_read clock (comes ⟨0, 0⟩)
  · intro writable now
    exact decode?_normalize writable now

/-- The time of creation lies in a leap second. -/
def furnished : Definition where
  id := ⟨7⟩
  version := 4294967295
  name := "type"
  trigger := .webhook {
    id := "orders", tenantId := ⟨9⟩, auth := .signature "X-Signature-256" "key"
    rateLimit := ⟨0, 18446744073709551615⟩ }
  nodes := [
    { id := "", nodeType := "http"
      parameters := object [("config", array [null, bool true]), ("url", object [])]
      retry := some ⟨0, 5, 1⟩ },
    { id := "", nodeType := "", timeoutMs := some 0, tolerant := true }]
  edges := [⟨"a", "a", some ""⟩, ⟨"a", "b", none⟩]
  settings := { maxConcurrency := some 0, defaultRetry := some .standard }
  createdAt := ⟨1483228799, 1500000001⟩

theorem furnished_read_back :
    decode? ⟨0, 0⟩ furnished.encode.normalize = some furnished := by
  have normal : ∀ node ∈ furnished.nodes, node.parameters.normalize = node.parameters := by
    decide
  have told : Timestamp.ofText? furnished.createdAt.text = some furnished.createdAt := by
    decide +kernel
  exact (read_back_iff furnished).mpr ⟨normal, told⟩ ⟨0, 0⟩

end Definition

end WorkflowEngine
