/-
This file holds actions that behave as they are told. A mock keeps a record of its calls on a bench
that all mocks share; a script gives the behaviour of every attempt.
-/

import WorkflowEngine.Node.Action
import WorkflowEngine.Table

namespace WorkflowEngine

open Json

inductive MockBehaviour where
  | returning (value : Json)
  | failing (error : NodeError)
  | flaky (failures : UInt32) (value : Json)
  | panicking (message : String)
  deriving DecidableEq, Repr

/-- Mocks of one key share their record. -/
structure Mock where
  key : String
  name : String
  behaviour : MockBehaviour
  delayMs : Option Nat := none
  deriving DecidableEq, Repr

/-- The journal holds the calls of all mocks. -/
structure Bench where
  journal : List String := []
  inputs : Table String (List Json) := []
  failures : Table String Nat := []
  deriving DecidableEq, Repr

namespace Bench

def note (bench : Bench) (entry : String) : Bench :=
  { bench with journal := bench.journal ++ [entry] }

def inputsOf (bench : Bench) (key : String) : List Json :=
  (bench.inputs.get? key).getD []

def recordCall (bench : Bench) (key : String) (input : Json) : Bench :=
  { bench with inputs := bench.inputs.insert key (bench.inputsOf key ++ [input]) }

def failuresOf (bench : Bench) (key : String) : Nat :=
  (bench.failures.get? key).getD 0

def callCount (bench : Bench) : Nat :=
  (bench.inputs.flatMap Prod.snd).length

end Bench

namespace Mock

def output (mock : Mock) (value : Json) : Json :=
  Json.merged [("node", .string mock.name)] (value.members?.getD [])

/-- A panic leaves no entry in the journal. -/
def finish (mock : Mock) (bench : Bench) : ActionResult × Bench :=
  let done := bench.note ("end:" ++ mock.name)
  match mock.behaviour with
  | .returning value => (.output (mock.output value), done)
  | .failing error => (.failure error, done)
  | .panicking message => (.panic message, bench)
  | .flaky failures value =>
    let seen := bench.failuresOf mock.key
    let counted := { done with failures := done.failures.insert mock.key (seen + 1) }
    if seen < failures.toNat then
      (.failure (.retryable ("flaky failure #" ++ toString (seen + 1))), counted)
    else (.output (mock.output value), counted)

def start (mock : Mock) (input : Json) (bench : Bench) : ActionProgress × Bench :=
  let started := (bench.recordCall mock.key input).note ("start:" ++ mock.name)
  match mock.delayMs with
  | some milliseconds => (.pausing milliseconds, started)
  | none =>
    let (result, ended) := mock.finish started
    (.ended result, ended)

end Mock

namespace Script

/-- Attempts beyond the last entry repeat it. -/
def entry (parameters : Json) (attempt : UInt32) : Json :=
  let entries := ((parameters.get? "script").bind Json.items?).getD []
  (entries[min attempt.toNat entries.length - 1]?).getD (.object [])

def witness (call : ActionCall) : Json :=
  Json.ofMembers [("node_id", .string call.nodeId), ("attempt", ofUInt32 call.attempt),
    ("timeout_ms", ofNat call.timeoutMs), ("input", call.input),
    ("workflow_id", ofUuid call.workflowId), ("tenant_id", ofUuid call.tenantId)]

def text? (entry : Json) (key : String) : Option String :=
  (entry.get? key).bind Json.text?

def finish (call : ActionCall) : ActionResult :=
  let entry := Script.entry call.parameters call.attempt
  match text? entry "retryable", text? entry "fatal", text? entry "invalid", text? entry "panic" with
  | some detail, _, _, _ => .failure (.retryable detail)
  | _, some detail, _, _ => .failure (.fatal detail)
  | _, _, some detail, _ => .failure (.invalidParameters detail)
  | _, _, _, some message => .panic message
  | none, none, none, none => .output ((entry.get? "ok").getD (witness call))

def start (call : ActionCall) : ActionProgress :=
  match ((entry call.parameters call.attempt).get? "delay_ms").bind Json.nat? with
  | some milliseconds => .pausing milliseconds
  | none => .ended (finish call)

end Script

end WorkflowEngine
