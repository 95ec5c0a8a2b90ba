/-
This file holds the table of tenant limits. A tenant without an entry has the default limits.
-/

import WorkflowEngine.Table
import WorkflowEngine.Tenant.Limits

namespace WorkflowEngine

structure TenantRegistry where
  defaults : TenantLimits
  tenants : Table Uuid TenantLimits := []
  deriving DecidableEq, Repr

namespace TenantRegistry

def limits (registry : TenantRegistry) (tenantId : Uuid) : TenantLimits :=
  (registry.tenants.get? tenantId).getD registry.defaults

def set (registry : TenantRegistry) (tenantId : Uuid) (limits : TenantLimits) : TenantRegistry :=
  { registry with tenants := registry.tenants.insert tenantId limits }

def replaceAll (registry : TenantRegistry) (tenants : Table Uuid TenantLimits) : TenantRegistry :=
  { registry with tenants := tenants }

end TenantRegistry

end WorkflowEngine
