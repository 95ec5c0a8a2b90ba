/-
This file holds the ways in which a workflow is started, and the webhook that a workflow may have.
-/

import WorkflowEngine.Json.Record

namespace WorkflowEngine

open Json

/-- A caller proves its right by a secret or by a signature of the body. -/
inductive Authentication where
  | unprotected
  | sharedSecret (header secret : String)
  | signature (header secret : String)
  deriving DecidableEq, Repr

namespace Authentication

def cases : List String := ["none", "shared_secret", "signature"]

def secretRecord? (standardHeader : String) (content : Json) : Option (String × String) := do
  let record ← Record.read? [.defaulted "header" .text, .required "secret" .text] content
  let header ← record.defaulted "header" standardHeader text?
  let secret ← record.required "secret" text?
  some (header, secret)

def decode? (form : Tagged.TagForm) (value : Json) : Option Authentication := do
  let tagged ← Tagged.read? form "type" cases value
  match tagged.tag with
  | "none" => if tagged.isUnit then some .unprotected else none
  | "shared_secret" =>
    (secretRecord? "x-webhook-secret" tagged.content).map fun parts =>
      .sharedSecret parts.1 parts.2
  | _ =>
    (secretRecord? "x-signature-256" tagged.content).map fun parts => .signature parts.1 parts.2

/-- An authentication is a tagged record. -/
def format : Format Authentication :=
  ⟨.tagged "type" cases fun value => (decode? .name value).isSome, decode? .name⟩

def encode : Authentication → Json
  | .unprotected => object [("type", string "none")]
  | .sharedSecret header secret =>
    object [("type", string "shared_secret"), ("header", string header), ("secret", string secret)]
  | .signature header secret =>
    object [("type", string "signature"), ("header", string header), ("secret", string secret)]

/-- The secret of a redacted authentication. -/
def redactedSecret : String := "[redacted]"

def redacted : Authentication → Authentication
  | .unprotected => .unprotected
  | .sharedSecret header _ => .sharedSecret header redactedSecret
  | .signature header _ => .signature header redactedSecret

end Authentication

/-- A window admits at most `limit` requests. -/
structure RateLimit where
  limit : UInt32
  windowSecs : UInt64
  deriving DecidableEq, Repr

namespace RateLimit

/-- Without other settings a window of one minute admits sixty requests. -/
def standard : RateLimit := ⟨60, 60⟩

def fields : List Field := [.required "limit" .uint32, .required "window_secs" .uint64]

def decode? (value : Json) : Option RateLimit := do
  let record ← Record.read? fields value
  some {
    limit := ← record.required "limit" uint32?
    windowSecs := ← record.required "window_secs" uint64? }

/-- A rate limit is a record. -/
def format : Format RateLimit := ⟨.record fields, decode?⟩

def encode (rate : RateLimit) : Json :=
  object [("limit", ofUInt32 rate.limit), ("window_secs", ofUInt64 rate.windowSecs)]

end RateLimit

/-- Every execution that a webhook starts is billed to its tenant. -/
structure Webhook where
  id : String
  tenantId : Uuid
  auth : Authentication := .unprotected
  rateLimit : RateLimit := .standard
  deriving DecidableEq, Repr

namespace Webhook

def fields : List Field := [
  .required "id" .text, .required "tenant_id" .uuid, .defaulted "auth" Authentication.format.shape,
  .defaulted "rate_limit" RateLimit.format.shape]

def decode? (form : Tagged.TagForm) (value : Json) : Option Webhook := do
  let record ← Record.read? fields value
  some {
    id := ← record.required "id" text?
    tenantId := ← record.required "tenant_id" uuid?
    auth := ← record.defaulted "auth" .unprotected (Authentication.decode? form)
    rateLimit := ← record.defaulted "rate_limit" .standard RateLimit.decode? }

/-- A webhook is a record. -/
def format : Format Webhook := ⟨.record fields, decode? .name⟩

def members (webhook : Webhook) : List (String × Json) :=
  [("id", string webhook.id), ("tenant_id", ofUuid webhook.tenantId),
    ("auth", webhook.auth.encode), ("rate_limit", webhook.rateLimit.encode)]

def encode (webhook : Webhook) : Json :=
  object webhook.members

def redacted (webhook : Webhook) : Webhook :=
  { webhook with auth := webhook.auth.redacted }

end Webhook

/-- A workflow is started by a call of the engine or by a request to its webhook. -/
inductive Trigger where
  | manual
  | webhook (config : Webhook)
  deriving DecidableEq, Repr

namespace Trigger

def cases : List String := ["manual", "webhook"]

def decode? (value : Json) : Option Trigger := do
  let tagged ← Tagged.read? .name "type" cases value
  match tagged.tag with
  | "manual" => if tagged.isUnit then some .manual else none
  | _ => (Webhook.decode? .nameOrPosition tagged.content).map .webhook

/-- A trigger is a tagged record. -/
def format : Format Trigger :=
  ⟨.tagged "type" cases fun value => (decode? value).isSome, decode?⟩

def encode : Trigger → Json
  | .manual => object [("type", string "manual")]
  | .webhook config => object (("type", string "webhook") :: config.members)

def webhook? : Trigger → Option Webhook
  | .manual => none
  | .webhook config => some config

def redacted : Trigger → Trigger
  | .manual => .manual
  | .webhook config => .webhook config.redacted

end Trigger

end WorkflowEngine
