/-
This file holds the retry policy: a limit on attempts and a pause that doubles up to a bound.
-/

import WorkflowEngine.Json.Record

namespace WorkflowEngine

open Json

/-- The first attempt counts. The pause before the second attempt is the base delay. -/
structure RetryPolicy where
  maxAttempts : UInt32
  baseDelayMs : UInt64
  maxDelayMs : UInt64
  deriving DecidableEq, Repr

namespace RetryPolicy

/-- There are three attempts, one tenth of a second apart at first. -/
def standard : RetryPolicy := ⟨3, 100, 10000⟩

/-- This policy never retries. -/
def single : RetryPolicy := { standard with maxAttempts := 1 }

/-- There is at least one attempt. -/
def attempts (policy : RetryPolicy) : UInt32 :=
  if policy.maxAttempts = 0 then 1 else policy.maxAttempts

/-- The greatest word stands for every product beyond it. -/
def saturatingProduct (left right : UInt64) : UInt64 :=
  if left.toNat * right.toNat < UInt64.size then left * right else UInt64.ofNat (UInt64.size - 1)

/-- The delay doubles at most thirty-two times. -/
def doublings (failed : UInt32) : UInt64 :=
  if failed = 0 then 0 else if 33 < failed then 32 else (failed - 1).toUInt64

/-- So many attempts have failed before the wait. -/
def backoff (policy : RetryPolicy) (failed : UInt32) : UInt64 :=
  let delay := saturatingProduct policy.baseDelayMs (1 <<< doublings failed)
  if policy.maxDelayMs < delay then policy.maxDelayMs else delay

def fields : List Field := [
  .required "max_attempts" .uint32, .required "base_delay_ms" .uint64,
  .required "max_delay_ms" .uint64]

def decode? (value : Json) : Option RetryPolicy := do
  let record ← Record.read? fields value
  some {
    maxAttempts := ← record.required "max_attempts" uint32?
    baseDelayMs := ← record.required "base_delay_ms" uint64?
    maxDelayMs := ← record.required "max_delay_ms" uint64? }

/-- A policy is a record. -/
def format : Format RetryPolicy := ⟨.record fields, decode?⟩

def encode (policy : RetryPolicy) : Json :=
  object [("max_attempts", ofUInt32 policy.maxAttempts),
    ("base_delay_ms", ofUInt64 policy.baseDelayMs), ("max_delay_ms", ofUInt64 policy.maxDelayMs)]

end RetryPolicy

end WorkflowEngine
