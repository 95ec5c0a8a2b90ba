/-
This file holds workflow definitions as they are written by their authors.
-/

import WorkflowEngine.Workflow.RetryPolicy
import WorkflowEngine.Workflow.Trigger

namespace WorkflowEngine

open Json Time

/-- A node has an identifier of its own in the workflow and a type that names its action. -/
structure NodeSpec where
  id : String
  nodeType : String
  parameters : Json := .null
  retry : Option RetryPolicy := none
  timeoutMs : Option UInt64 := none
  tolerant : Bool := false
  deriving DecidableEq, Repr

/-- A slot passes only the member that it names. -/
structure Edge where
  source : String
  target : String
  outputSlot : Option String := none
  deriving DecidableEq, Repr

/-- Settings that are absent fall back to those of the engine. -/
structure WorkflowSettings where
  maxConcurrency : Option UInt64 := none
  defaultTimeoutMs : Option UInt64 := none
  defaultRetry : Option RetryPolicy := none
  deriving DecidableEq, Repr

/-- A definition is identified by its workflow and its version. -/
structure Definition where
  id : Uuid
  version : UInt32 := 1
  name : String
  trigger : Trigger := .manual
  nodes : List NodeSpec
  edges : List Edge := []
  settings : WorkflowSettings := {}
  createdAt : Timestamp
  deriving DecidableEq, Repr

namespace NodeSpec

def fields : List Field := [
  .required "id" .text, .required "node_type" .text,
  { Field.defaulted "parameters" .any with aliases := ["config"] },
  .optional "retry" RetryPolicy.format.shape, .optional "timeout_ms" .uint64,
  .defaulted "tolerant" .bool]

def decode? (value : Json) : Option NodeSpec := do
  let record ← Record.read? fields value
  some {
    id := ← record.required "id" text?
    nodeType := ← record.required "node_type" text?
    parameters := ← record.defaulted "parameters" .null any?
    retry := ← record.optional "retry" RetryPolicy.decode?
    timeoutMs := ← record.optional "timeout_ms" uint64?
    tolerant := ← record.defaulted "tolerant" false bool? }

/-- A node is a record. -/
def format : Format NodeSpec := ⟨.record fields, decode?⟩

def encode (node : NodeSpec) : Json :=
  object ([("id", string node.id), ("node_type", string node.nodeType),
      ("parameters", node.parameters)] ++
    optionalMember "retry" (node.retry.map RetryPolicy.encode) ++
    optionalMember "timeout_ms" (node.timeoutMs.map ofUInt64) ++
    [("tolerant", bool node.tolerant)])

end NodeSpec

namespace Edge

def fields : List Field := [
  .required "from" .text, .required "to" .text, .optional "output_slot" .text]

def decode? (value : Json) : Option Edge := do
  let record ← Record.read? fields value
  some {
    source := ← record.required "from" text?
    target := ← record.required "to" text?
    outputSlot := ← record.optional "output_slot" text? }

/-- An edge is a record. -/
def format : Format Edge := ⟨.record fields, decode?⟩

def encode (edge : Edge) : Json :=
  object ([("from", string edge.source), ("to", string edge.target)] ++
    optionalMember "output_slot" (edge.outputSlot.map string))

end Edge

namespace WorkflowSettings

def fields : List Field := [
  .optional "max_concurrency" .uint64, .optional "default_timeout_ms" .uint64,
  .optional "default_retry" RetryPolicy.format.shape]

def decode? (value : Json) : Option WorkflowSettings := do
  let record ← Record.read? fields value
  some {
    maxConcurrency := ← record.optional "max_concurrency" uint64?
    defaultTimeoutMs := ← record.optional "default_timeout_ms" uint64?
    defaultRetry := ← record.optional "default_retry" RetryPolicy.decode? }

/-- Settings are a record. -/
def format : Format WorkflowSettings := ⟨.record fields, decode?⟩

def encode (settings : WorkflowSettings) : Json :=
  object (optionalMember "max_concurrency" (settings.maxConcurrency.map ofUInt64) ++
    optionalMember "default_timeout_ms" (settings.defaultTimeoutMs.map ofUInt64) ++
    optionalMember "default_retry" (settings.defaultRetry.map RetryPolicy.encode))

end WorkflowSettings

namespace Definition

def fields : List Field := [
  .required "id" .uuid, .defaulted "version" .uint32, .required "name" .text,
  .defaulted "trigger" Trigger.format.shape, .required "nodes" (.list NodeSpec.format.shape),
  .defaulted "edges" (.list Edge.format.shape),
  .defaulted "settings" WorkflowSettings.format.shape, .defaulted "created_at" .timestamp]

/-- A definition without a time of creation is created now. -/
def decode? (now : Timestamp) (value : Json) : Option Definition := do
  let record ← Record.read? fields value
  some {
    id := ← record.required "id" uuid?
    version := ← record.defaulted "version" 1 uint32?
    name := ← record.required "name" text?
    trigger := ← record.defaulted "trigger" .manual Trigger.decode?
    nodes := ← record.required "nodes" (list? NodeSpec.decode?)
    edges := ← record.defaulted "edges" [] (list? Edge.decode?)
    settings := ← record.defaulted "settings" {} WorkflowSettings.decode?
    createdAt := ← record.defaulted "created_at" now timestamp? }

/-- A definition is a record. -/
def format (now : Timestamp) : Format Definition := ⟨.record fields, decode? now⟩

def encode (definition : Definition) : Json :=
  object [
    ("id", ofUuid definition.id), ("version", ofUInt32 definition.version),
    ("name", string definition.name), ("trigger", definition.trigger.encode),
    ("nodes", array (definition.nodes.map NodeSpec.encode)),
    ("edges", array (definition.edges.map Edge.encode)),
    ("settings", definition.settings.encode),
    ("created_at", ofTimestamp definition.createdAt)]

def webhook? (definition : Definition) : Option Webhook :=
  definition.trigger.webhook?

def redacted (definition : Definition) : Definition :=
  { definition with trigger := definition.trigger.redacted }

end Definition

end WorkflowEngine
