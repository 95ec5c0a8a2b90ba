/-
This file proves by which of its checks the gate decides a request and what the decision leaves
behind. A request is counted as soon as its rate lets it pass, whether or not there is room for it.
-/

import WorkflowEngine.Proofs.Admission.Isolation
import WorkflowEngine.Proofs.Engine.WebhookCoherence

namespace WorkflowEngine.Gate

open Time

/-- A window stands if it was opened and has not elapsed. -/
structure Stands (gate : Gate) (webhookId : String) (rate : RateLimit) (now : Timestamp)
    (window : RateWindow) : Prop where
  opened : gate.window? webhookId = some window
  current : (window.start.addSeconds rate.span).le now = false

/-- A rate is spent if it lets nothing pass or if its window is used up. -/
def Spent (gate : Gate) (webhookId : String) (rate : RateLimit) (now : Timestamp) : Prop :=
  rate.limit = 0 ∨
    ∃ window, gate.Stands webhookId rate now window ∧ rate.limit ≤ window.count

/-- A tenant is full if it runs as many executions as it may. -/
def Full (gate : Gate) (tenantId : Uuid) : Prop :=
  (gate.tenants.limits tenantId).maxConcurrentExecutions.toNat ≤ gate.runningCount tenantId

/-- A change confined to a webhook leaves the windows of the others. -/
structure Confined (before after : Gate) (webhookId : String) : Prop where
  webhooks : after.webhooks = before.webhooks
  tenants : after.tenants = before.tenants
  windows : ∀ other, other ≠ webhookId → after.window? other = before.window? other

/-- A request goes on with the window that stands, or starts one. -/
structure CountsOnce (before after : Gate) (webhookId : String) (rate : RateLimit)
    (now : Timestamp) : Prop where
  ongoing : ∀ window, before.Stands webhookId rate now window →
    ∃ later, after.window? webhookId = some later ∧ later.start = window.start ∧
      later.count.toNat = window.count.toNat + 1
  opening : (∀ window, ¬before.Stands webhookId rate now window) →
    ∃ later, after.window? webhookId = some later ∧ later.start = now ∧ later.count.toNat = 1

/-- A later change that leaves the windows leaves a request counted as it is. -/
theorem CountsOnce.congr {before after last : Gate} {webhookId : String} {rate : RateLimit}
    {now : Timestamp} (counts : CountsOnce before after webhookId rate now)
    (same : last.window? webhookId = after.window? webhookId) :
    CountsOnce before last webhookId rate now := by
  refine ⟨fun window stands => ?_, fun none => ?_⟩
  · rw [same]
    exact counts.ongoing window stands
  · rw [same]
    exact counts.opening none

/-- What a window has used up is its start and its count. -/
def use? (gate : Gate) (webhookId : String) : Option (Timestamp × UInt32) :=
  (gate.window? webhookId).map fun window => (window.start, window.count)

variable {gate : Gate} {webhookId : String} {rate : RateLimit} {now : Timestamp}
  {webhook : Webhook} {request : WebhookRequest}

theorem Stands.currentWindow {window : RateWindow}
    (stands : gate.Stands webhookId rate now window) :
    gate.currentWindow webhookId rate now = { window with limit := rate.limit } := by
  simp [Gate.currentWindow, stands.opened, windowSeconds_eq, stands.current]

theorem currentWindow_opens (none : ∀ window, ¬gate.Stands webhookId rate now window) :
    gate.currentWindow webhookId rate now = ⟨now, 0, rate.limit⟩ := by
  unfold currentWindow
  split
  · rfl
  · next window opened =>
    split
    · rfl
    · next current =>
      rw [windowSeconds_eq, Bool.not_eq_true] at current
      exact absurd ⟨opened, current⟩ (none window)

theorem currentWindow_limit (gate : Gate) (webhookId : String) (rate : RateLimit)
    (now : Timestamp) : (gate.currentWindow webhookId rate now).limit = rate.limit := by
  unfold currentWindow
  split
  · rfl
  · split <;> rfl

/-- A rate is spent exactly if the current window is full. -/
theorem spent_iff : gate.Spent webhookId rate now ↔
    rate.limit ≤ (gate.currentWindow webhookId rate now).count := by
  by_cases standing : ∃ window, gate.Stands webhookId rate now window
  · obtain ⟨window, stands⟩ := standing
    rw [stands.currentWindow]
    constructor
    · rintro (nothing | ⟨other, also, full⟩)
      · rw [nothing]
        exact UInt32.zero_le
      · have same := stands.opened.symm.trans also.opened
        rwa [Option.some.inj same]
    · exact fun full => .inr ⟨window, stands, full⟩
  · have none := not_exists.mp standing
    rw [currentWindow_opens none]
    constructor
    · rintro (nothing | ⟨window, stands, _⟩)
      · rw [nothing]
        exact UInt32.zero_le
      · exact absurd stands (none window)
    · exact fun full => .inl (UInt32.le_antisymm full UInt32.zero_le)

/-- The check lets a request pass exactly if the rate is not spent. -/
theorem checkRateLimit_isOk : (gate.checkRateLimit webhookId rate now).1.isOk = true ↔
    ¬gate.Spent webhookId rate now := by
  rw [(gate.checkRateLimit_window webhookId rate now).1, decide_eq_true_iff, spent_iff,
    currentWindow_limit, UInt32.not_le]

/-- A request that passes is counted once, and the count does not overflow. -/
theorem checkRateLimit_counts (unspent : ¬gate.Spent webhookId rate now) :
    CountsOnce gate (gate.checkRateLimit webhookId rate now).2 webhookId rate now := by
  have after := (gate.checkRateLimit_window webhookId rate now).2
  rw [checkRateLimit_isOk.mpr unspent, if_pos rfl] at after
  constructor
  · intro window stands
    rw [stands.currentWindow] at after
    refine ⟨_, after, rfl, ?_⟩
    have room : window.count.toNat < rate.limit.toNat := by
      have less : ¬rate.limit ≤ window.count := fun full => unspent (.inr ⟨window, stands, full⟩)
      exact UInt32.lt_iff_toNat_lt.mp (UInt32.not_le.mp less)
    have small := rate.limit.toNat_lt
    change (window.count + 1).toNat = window.count.toNat + 1
    rw [UInt32.toNat_add]
    exact Nat.mod_eq_of_lt (Nat.lt_of_le_of_lt room small)
  · intro none
    rw [currentWindow_opens none] at after
    exact ⟨_, after, rfl, rfl⟩

/-- A request that does not pass leaves what all windows have used up. -/
theorem checkRateLimit_idle (spent : gate.Spent webhookId rate now) (positive : rate.limit ≠ 0)
    (other : String) : (gate.checkRateLimit webhookId rate now).2.use? other = gate.use? other := by
  by_cases same : other = webhookId
  · subst same
    have after := (gate.checkRateLimit_window other rate now).2
    have refused : (gate.checkRateLimit other rate now).1.isOk = false := by
      rw [Bool.eq_false_iff, Ne, checkRateLimit_isOk, not_not]
      exact spent
    obtain ⟨window, stands, _⟩ := spent.resolve_left positive
    rw [refused, stands.currentWindow] at after
    rw [use?, use?, after, stands.opened]
    simp
  · rw [use?, use?, checkRateLimit_other (Ne.symm same)]

/-- A request that is not authentic is refused before anything is counted. -/
theorem admission_forged (known : gate.webhook? webhookId = some webhook)
    (forged : webhook.auth.accepts request = false) :
    gate.admission webhookId webhook.tenantId request = (.error .authenticationFailed, gate) := by
  simp [admission, known, forged]

/-- An authentic request is refused by its rate if that is spent. -/
theorem admission_limited (known : gate.webhook? webhookId = some webhook)
    (authentic : webhook.auth.accepts request = true)
    (spent : gate.Spent webhookId webhook.rateLimit request.receivedAt) :
    ∃ retryAfter, gate.admission webhookId webhook.tenantId request =
      (.error (.rateLimited webhookId retryAfter),
        (gate.checkRateLimit webhookId webhook.rateLimit request.receivedAt).2) := by
  have failed := checkRateLimit_isOk.not_left.mpr spent
  simp only [admission, known, ne_eq, not_true_eq_false, if_false, authentic, Bool.not_true,
    Bool.false_eq_true]
  rcases answer : gate.checkRateLimit webhookId webhook.rateLimit request.receivedAt with
    ⟨error | passed, after⟩
  · obtain ⟨retryAfter, rfl⟩ := checkRateLimit_error (congrArg Prod.fst answer)
    exact ⟨retryAfter, rfl⟩
  · rw [answer] at failed
    exact absurd rfl failed

/-- A request that its rate lets pass is admitted if its tenant is not full. -/
theorem admission_passed (known : gate.webhook? webhookId = some webhook)
    (authentic : webhook.auth.accepts request = true)
    (unspent : ¬gate.Spent webhookId webhook.rateLimit request.receivedAt) :
    (gate.Full webhook.tenantId →
      (gate.admission webhookId webhook.tenantId request).1 = .error (.tenantAtCapacity
        webhook.tenantId (gate.tenants.limits webhook.tenantId).maxConcurrentExecutions)) ∧
    (¬gate.Full webhook.tenantId →
      (gate.admission webhookId webhook.tenantId request).1 = .ok request.triggerInput) := by
  have succeeded := checkRateLimit_isOk.mpr unspent
  obtain ⟨running, tenants⟩ :=
    gate.checkRateLimit_rest webhookId webhook.rateLimit request.receivedAt
  simp only [admission, known, ne_eq, not_true_eq_false, if_false, authentic, Bool.not_true,
    Bool.false_eq_true]
  rcases answer : gate.checkRateLimit webhookId webhook.rateLimit request.receivedAt with
    ⟨error | passed, after⟩
  · rw [answer] at succeeded
    cases succeeded
  · rw [answer] at running tenants
    dsimp only at running tenants
    simp only [Full, reserve, runningCount, running, tenants]
    constructor
    · intro full
      rw [if_pos full]
    · intro room
      rw [if_neg room]

/-- A request that its rate lets pass is counted once, whether or not its tenant is full. -/
theorem admission_counts (known : gate.webhook? webhookId = some webhook)
    (authentic : webhook.auth.accepts request = true)
    (unspent : ¬gate.Spent webhookId webhook.rateLimit request.receivedAt) :
    CountsOnce gate (gate.admission webhookId webhook.tenantId request).2 webhookId
      webhook.rateLimit request.receivedAt :=
  (checkRateLimit_counts unspent).congr (admission_window known authentic)

/-- Whatever is decided, an admission is confined to its webhook. -/
theorem admission_confined (gate : Gate) (webhookId : String) (tenantId : Uuid)
    (request : WebhookRequest) :
    Confined gate (gate.admission webhookId tenantId request).2 webhookId := by
  refine ⟨(gate.admission_serves webhookId tenantId request).webhooks, ?_, fun other different =>
    gate.admission_other (Ne.symm different) tenantId request⟩
  obtain ⟨admitted, refused⟩ := gate.admission_counted webhookId tenantId request
  cases answer : (gate.admission webhookId tenantId request).1 with
  | ok input => exact (admitted input answer).2.tenants
  | error error => exact (refused error answer).tenants

/-- A slot that is given back leaves all windows. -/
theorem Confined.release {before after : Gate} {webhookId : String}
    (confined : Confined before after webhookId) (tenantId : Uuid) :
    Confined before (after.release tenantId) webhookId :=
  ⟨(after.release_serves tenantId).webhooks.trans confined.webhooks,
    (after.release_tenants tenantId).trans confined.tenants, fun other different =>
      (after.release_window tenantId other).trans (confined.windows other different)⟩

end WorkflowEngine.Gate
