/-
This file proves how the operations of the gate change the numbers of running executions: an
admission counts one for its tenant, a release takes one back, and a refusal counts nothing.
-/

import WorkflowEngine.Admission.Gate
import WorkflowEngine.Proofs.Table

namespace WorkflowEngine

namespace Gate

/-- A change that counts adds an amount for one tenant. -/
structure Counted (before after : Gate) (tenantId : Uuid) (amount : Nat) : Prop where
  tenants : after.tenants = before.tenants
  running : ∀ other, after.runningCount other =
    before.runningCount other + if other = tenantId then amount else 0

variable {gate : Gate}

theorem runningCount_insert (gate : Gate) (tenantId other : Uuid) (count : Nat) :
    ({ gate with running := gate.running.insert tenantId count } : Gate).runningCount other =
      if other = tenantId then count else gate.runningCount other := by
  unfold runningCount
  by_cases same : other = tenantId
  · subst same
    simp [Table.getInsertSame]
  · simp [Table.getInsertOther _ _ (Ne.symm same), same]

/-- A reservation below the limit counts one, and a refused one nothing. -/
theorem reserve_counted (gate : Gate) (tenantId : Uuid) :
    ((gate.reserve tenantId).1 = .ok () →
      gate.runningCount tenantId < (gate.tenants.limits tenantId).maxConcurrentExecutions.toNat ∧
        Counted gate (gate.reserve tenantId).2 tenantId 1) ∧
    (∀ error, (gate.reserve tenantId).1 = .error error →
      Counted gate (gate.reserve tenantId).2 tenantId 0) := by
  unfold reserve
  dsimp only
  split
  · refine ⟨by simp, fun _ _ => ⟨rfl, fun other => ?_⟩⟩
    rw [runningCount_insert]
    split
    · next same => simp [same]
    · rfl
  · next room =>
    refine ⟨fun _ => ⟨Nat.lt_of_not_le room, rfl, fun other => ?_⟩, by simp⟩
    rw [runningCount_insert]
    split
    · next same => rw [same]
    · rfl

/-- The first half of a release takes one from its tenant and leaves the others. -/
theorem decrement_running (gate : Gate) (tenantId other : Uuid) :
    (gate.decrement tenantId).runningCount other =
      gate.runningCount other - if other = tenantId then 1 else 0 := by
  unfold decrement runningCount
  dsimp only
  rw [Table.get_update]
  split
  · next same =>
    subst same
    cases gate.running.get? other <;> simp
  · simp

/-- The second half of a release takes nothing from anyone. -/
theorem removeIdle_running (gate : Gate) (tenantId other : Uuid) :
    (gate.removeIdle tenantId).runningCount other = gate.runningCount other := by
  unfold removeIdle
  split
  · next idle =>
    unfold runningCount
    by_cases same : other = tenantId
    · subst same
      simp [Table.getEraseSame, idle]
    · simp only [Table.getEraseOther _ (Ne.symm same)]
  · rfl

/-- A release takes one from its tenant and leaves the others. -/
theorem release_running (gate : Gate) (tenantId other : Uuid) :
    (gate.release tenantId).runningCount other =
      gate.runningCount other - if other = tenantId then 1 else 0 := by
  rw [release, removeIdle_running, decrement_running]

theorem release_tenants (gate : Gate) (tenantId : Uuid) :
    (gate.release tenantId).tenants = gate.tenants := by
  unfold release removeIdle
  split <;> rfl

theorem checkRateLimit_rest (gate : Gate) (webhookId : String) (rate : RateLimit)
    (now : Time.Timestamp) :
    (gate.checkRateLimit webhookId rate now).2.running = gate.running ∧
      (gate.checkRateLimit webhookId rate now).2.tenants = gate.tenants := by
  unfold checkRateLimit
  dsimp only
  split <;> exact ⟨rfl, rfl⟩

theorem Counted.nothing {before after : Gate} (running : after.running = before.running)
    (tenants : after.tenants = before.tenants) (tenantId : Uuid) :
    Counted before after tenantId 0 :=
  ⟨tenants, fun other => by simp [runningCount, running]⟩

/-- An admitted request counts one, and a refused one nothing. -/
theorem admission_counted (gate : Gate) (webhookId : String) (tenantId : Uuid)
    (request : WebhookRequest) :
    (∀ input, (gate.admission webhookId tenantId request).1 = .ok input →
      gate.runningCount tenantId < (gate.tenants.limits tenantId).maxConcurrentExecutions.toNat ∧
        Counted gate (gate.admission webhookId tenantId request).2 tenantId 1) ∧
    (∀ error, (gate.admission webhookId tenantId request).1 = .error error →
      Counted gate (gate.admission webhookId tenantId request).2 tenantId 0) := by
  unfold admission
  split
  · exact ⟨by simp, fun _ _ => .nothing rfl rfl tenantId⟩
  · next webhook found =>
    split
    · exact ⟨by simp, fun _ _ => .nothing rfl rfl tenantId⟩
    · split
      · exact ⟨by simp, fun _ _ => .nothing rfl rfl tenantId⟩
      · have rest := gate.checkRateLimit_rest webhookId webhook.rateLimit request.receivedAt
        split
        · next refused =>
          rw [refused] at rest
          exact ⟨by simp, fun _ _ => .nothing rest.1 rest.2 tenantId⟩
        · next passed checked =>
          simp only [checked] at rest
          have reserved := reserve_counted passed tenantId
          have same (other : Uuid) : passed.runningCount other = gate.runningCount other := by
            simp [runningCount, rest.1]
          split
          · next error full refused =>
            rw [refused] at reserved
            obtain ⟨tenants, running⟩ := reserved.2 error rfl
            exact ⟨by simp, fun _ _ => ⟨tenants.trans rest.2, fun other =>
              (running other).trans (by rw [same])⟩⟩
          · next taken admitted =>
            rw [admitted] at reserved
            obtain ⟨room, tenants, running⟩ := reserved.1 rfl
            rw [same, rest.2] at room
            exact ⟨fun _ _ => ⟨room, tenants.trans rest.2, fun other =>
              (running other).trans (by rw [same])⟩, by simp⟩

/-- A request that is admitted and then refused for its steps gives back what it counted. -/
theorem Counted.undone {before after : Gate} {tenantId : Uuid}
    (counted : Counted before after tenantId 1) :
    Counted before (after.release tenantId) tenantId 0 := by
  refine ⟨(release_tenants after tenantId).trans counted.tenants, fun other => ?_⟩
  rw [release_running, counted.running]
  split <;> omega

end Gate

end WorkflowEngine
