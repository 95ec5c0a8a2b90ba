/-
This file holds webhook requests and decides whether a request is authentic.
-/

import WorkflowEngine.Digest.Hmac
import WorkflowEngine.Json.Reader
import WorkflowEngine.Table
import WorkflowEngine.Text.Blank
import WorkflowEngine.Workflow.Trigger

namespace WorkflowEngine

open Text Digest Time

/-- The names of headers are held in lower case. -/
structure WebhookRequest where
  headers : Table String String
  body : List UInt8
  receivedAt : Timestamp

namespace WebhookRequest

/-- Of several headers with one name the last one holds. -/
def ofHeaders (headers : List (String × String)) (body : List UInt8) (receivedAt : Timestamp) :
    WebhookRequest :=
  { headers := headers.foldl (fun table header => table.insert (lowerAscii header.1) header.2) []
    body := body
    receivedAt := receivedAt }

def header? (request : WebhookRequest) (name : String) : Option String :=
  request.headers.get? (lowerAscii name)

/-- A blank body is null, a JSON body is its value, and any other body is kept as a text. -/
def triggerInput (request : WebhookRequest) : Json :=
  if request.body.all isAsciiBlank then .null
  else
    match Json.parseBytes? request.body with
    | some value => value.normalize
    | none => .object [("raw", .string (Utf8.decodeLossy request.body))]

end WebhookRequest

def signBody (secret : String) (body : List UInt8) : String :=
  String.ofList (Hexadecimal.encode (Hmac.authenticator (Utf8.encode secret) body))

namespace Authentication

/-- Secrets are compared by their hashes. -/
def secretsMatch (provided expected : String) : Bool :=
  Sha256.digest (Utf8.encode provided) == Sha256.digest (Utf8.encode expected)

/-- Blanks and one mark that names the hash function may stand around a signature. -/
def signatureDigits (provided : String) : List Char :=
  let digits := trim provided.toList
  (withoutStart "sha256=".toList digits).getD digits

/-- An unprotected webhook accepts every request. -/
def accepts (auth : Authentication) (request : WebhookRequest) : Bool :=
  match auth with
  | .unprotected => true
  | .sharedSecret header secret =>
    match request.header? header with
    | some provided => secretsMatch provided secret
    | none => false
  | .signature header secret =>
    match request.header? header with
    | some provided =>
      Hexadecimal.decode? (signatureDigits provided) ==
        some (Hmac.authenticator (Utf8.encode secret) request.body)
    | none => false

end Authentication

end WorkflowEngine
