/-
This file holds the settings of the engine. Every setting has a default.
-/

import WorkflowEngine.Tenant.Limits
import WorkflowEngine.Workflow.RetryPolicy

namespace WorkflowEngine

open Json Time

/-- These settings govern compilation, runs and admission. -/
structure EngineConfig where
  defaultMaxConcurrency : UInt64 := 4
  defaultStepTimeoutMs : UInt64 := 30000
  defaultRetry : RetryPolicy := .standard
  executionTimeoutMs : UInt64 := 300000
  infraRetry : RetryPolicy := .standard
  defaultTenantLimits : TenantLimits := .standard
  tenantRefreshSecs : UInt64 := 60
  terminalRetentionMs : UInt64 := 60000
  deriving DecidableEq, Repr

namespace EngineConfig

def executionTimeout (config : EngineConfig) : Duration :=
  .ofMilliseconds config.executionTimeoutMs.toNat

def defaultStepTimeout (config : EngineConfig) : Duration :=
  .ofMilliseconds config.defaultStepTimeoutMs.toNat

/-- The limits of tenants are reloaded at most once in a second. -/
def tenantRefreshInterval (config : EngineConfig) : Duration :=
  .ofSeconds (max config.tenantRefreshSecs.toNat 1)

def terminalRetention (config : EngineConfig) : Duration :=
  .ofMilliseconds config.terminalRetentionMs.toNat

def fields : List Field := [
  .defaulted "default_max_concurrency" .uint64, .defaulted "default_step_timeout_ms" .uint64,
  .defaulted "default_retry" RetryPolicy.format.shape, .defaulted "execution_timeout_ms" .uint64,
  .defaulted "infra_retry" RetryPolicy.format.shape,
  .defaulted "default_tenant_limits" TenantLimits.format.shape,
  .defaulted "tenant_refresh_secs" .uint64, .defaulted "terminal_retention_ms" .uint64]

/-- An absent setting keeps its default. -/
def decode? (value : Json) : Option EngineConfig := do
  let record ← Record.read? fields value
  let standard : EngineConfig := {}
  some {
    defaultMaxConcurrency :=
      ← record.defaulted "default_max_concurrency" standard.defaultMaxConcurrency uint64?
    defaultStepTimeoutMs :=
      ← record.defaulted "default_step_timeout_ms" standard.defaultStepTimeoutMs uint64?
    defaultRetry := ← record.defaulted "default_retry" standard.defaultRetry RetryPolicy.decode?
    executionTimeoutMs :=
      ← record.defaulted "execution_timeout_ms" standard.executionTimeoutMs uint64?
    infraRetry := ← record.defaulted "infra_retry" standard.infraRetry RetryPolicy.decode?
    defaultTenantLimits :=
      ← record.defaulted "default_tenant_limits" standard.defaultTenantLimits TenantLimits.decode?
    tenantRefreshSecs := ← record.defaulted "tenant_refresh_secs" standard.tenantRefreshSecs uint64?
    terminalRetentionMs :=
      ← record.defaulted "terminal_retention_ms" standard.terminalRetentionMs uint64? }

/-- Settings are a record. -/
def format : Format EngineConfig := ⟨.record fields, decode?⟩

def encode (config : EngineConfig) : Json :=
  object [
    ("default_max_concurrency", ofUInt64 config.defaultMaxConcurrency),
    ("default_step_timeout_ms", ofUInt64 config.defaultStepTimeoutMs),
    ("default_retry", config.defaultRetry.encode),
    ("execution_timeout_ms", ofUInt64 config.executionTimeoutMs),
    ("infra_retry", config.infraRetry.encode),
    ("default_tenant_limits", config.defaultTenantLimits.encode),
    ("tenant_refresh_secs", ofUInt64 config.tenantRefreshSecs),
    ("terminal_retention_ms", ofUInt64 config.terminalRetentionMs)]

end EngineConfig

end WorkflowEngine
