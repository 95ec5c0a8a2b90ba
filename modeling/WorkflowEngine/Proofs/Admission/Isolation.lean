/-
This file proves that the gate keeps its tenants apart, and its webhooks. What others reserve, give
back and trigger is not seen in the answers for a tenant, and the requests that are checked for other
webhooks are not seen in the rulings on a webhook.
-/

import WorkflowEngine.Proofs.Admission.RateWindows
import WorkflowEngine.Proofs.Admission.Running

namespace WorkflowEngine

open Time

namespace Gate

/-- Between the halves of a drop other operations may come. -/
inductive Operation where
  | reserve (tenantId : Uuid)
  | drop (tenantId : Uuid)
  | decrement (tenantId : Uuid)
  | removeIdle (tenantId : Uuid)
  | admission (webhookId : String) (tenantId : Uuid) (request : WebhookRequest)
  | check (webhookId : String) (rate : RateLimit) (now : Timestamp)
  | quota (tenantId : Uuid)

inductive Answer where
  | reserved (outcome : Except AdmissionError Unit)
  | dropped
  | admitted (outcome : Except AdmissionError Json)
  | checked (outcome : Except AdmissionError Unit)
  | shown (quota : TenantQuota)

/-- The answer stands beside the gate that the operation leaves. -/
def operate (gate : Gate) : Operation → Answer × Gate
  | .reserve tenantId =>
    let (outcome, gate) := gate.reserve tenantId
    (.reserved outcome, gate)
  | .drop tenantId => (.dropped, gate.release tenantId)
  | .decrement tenantId => (.dropped, gate.decrement tenantId)
  | .removeIdle tenantId => (.dropped, gate.removeIdle tenantId)
  | .admission webhookId tenantId request =>
    let (outcome, gate) := gate.admission webhookId tenantId request
    (.admitted outcome, gate)
  | .check webhookId rate now =>
    let (outcome, gate) := gate.checkRateLimit webhookId rate now
    (.checked outcome, gate)
  | .quota tenantId => (.shown (gate.quota tenantId), gate)

namespace Operation

def isForOther (tenantId : Uuid) : Operation → Bool
  | .reserve other => other != tenantId
  | .drop other => other != tenantId
  | .decrement other => other != tenantId
  | .removeIdle other => other != tenantId
  | .admission _ other _ => other != tenantId
  | .check _ _ _ => false
  | .quota _ => false

def isSeenBy (tenantId : Uuid) : Operation → Bool
  | .reserve other => other == tenantId
  | .admission _ other _ => other == tenantId
  | .quota other => other == tenantId
  | _ => false

def isCheckOfOther (webhookId : String) : Operation → Bool
  | .check other _ _ => other != webhookId
  | _ => false

def isAbout (webhookId : String) : Operation → Bool
  | .admission other _ _ => other == webhookId
  | .check other _ _ => other == webhookId
  | _ => false

end Operation

/-- A tenant without room says nothing against the request. -/
def Answer.ruling : Answer → Except AdmissionError Unit
  | .checked outcome => outcome
  | .admitted (.error (.tenantAtCapacity _ _)) => .ok ()
  | .admitted (.error error) => .error error
  | _ => .ok ()

/-- A tenant sees the answers to these operations. -/
def answersFor (tenantId : Uuid) (gate : Gate) : List Operation → List (Operation × Answer)
  | [] => []
  | operation :: rest =>
    let later := (gate.operate operation).2.answersFor tenantId rest
    if operation.isSeenBy tenantId then (operation, (gate.operate operation).1) :: later else later

/-- These are the rulings on the requests for one webhook. -/
def rulings (webhookId : String) (gate : Gate) :
    List Operation → List (Operation × Except AdmissionError Unit)
  | [] => []
  | operation :: rest =>
    let later := (gate.operate operation).2.rulings webhookId rest
    if operation.isAbout webhookId then
      (operation, (gate.operate operation).1.ruling) :: later
    else later

section

/-- A request that its webhook does not know is refused. -/
def addressed (gate : Gate) (webhookId : String) (tenantId : Uuid) (request : WebhookRequest) :
    Except AdmissionError Webhook :=
  match gate.webhook? webhookId with
  | none => .error (.unknownWebhook webhookId)
  | some webhook =>
    if webhook.tenantId ≠ tenantId then .error .authenticationFailed
    else if !webhook.auth.accepts request then .error .authenticationFailed
    else .ok webhook

/-- The limit of the webhook is passed before the execution is reserved. -/
def reserveCounted (gate : Gate) (webhookId : String) (rate : RateLimit) (tenantId : Uuid)
    (request : WebhookRequest) : Checked Json :=
  match gate.checkRateLimit webhookId rate request.receivedAt with
  | (.error error, gate) => (.error error, gate)
  | (.ok (), gate) =>
    match gate.reserve tenantId with
    | (.error error, gate) => (.error error, gate)
    | (.ok (), gate) => (.ok request.triggerInput, gate)

variable {left right gate : Gate} {tenantId other : Uuid} {webhookId : String}
  {request : WebhookRequest} {rate : RateLimit} {now : Timestamp}

theorem admission_addressed (gate : Gate) (webhookId : String) (tenantId : Uuid)
    (request : WebhookRequest) :
    gate.admission webhookId tenantId request =
      match gate.addressed webhookId tenantId request with
      | .error error => (.error error, gate)
      | .ok webhook => gate.reserveCounted webhookId webhook.rateLimit tenantId request := by
  unfold admission addressed
  cases gate.webhook? webhookId with
  | none => rfl
  | some webhook =>
    dsimp only
    split
    · rfl
    · split
      · rfl
      · rfl

/-- A gate has checked a request, and then perhaps has reserved an execution for it. -/
theorem reserveCounted_gate (gate : Gate) (webhookId : String) (rate : RateLimit)
    (tenantId : Uuid) (request : WebhookRequest) :
    (gate.reserveCounted webhookId rate tenantId request).2 =
      (gate.checkRateLimit webhookId rate request.receivedAt).2 ∨
    (gate.reserveCounted webhookId rate tenantId request).2 =
      ((gate.checkRateLimit webhookId rate request.receivedAt).2.reserve tenantId).2 := by
  unfold reserveCounted
  split
  · next answer => exact .inl (by rw [answer])
  · next answer =>
    rw [answer]
    split
    · next refused => exact .inr (by rw [refused])
    · next taken => exact .inr (by rw [taken])

theorem addressed_congr (webhooks : left.webhooks = right.webhooks) :
    left.addressed webhookId tenantId request = right.addressed webhookId tenantId request := by
  rw [addressed, webhook?, webhooks]
  rfl

/-- A request is for a webhook of its tenant. -/
theorem addressed_owned {webhook : Webhook}
    (found : gate.addressed webhookId tenantId request = .ok webhook) :
    gate.webhook? webhookId = some webhook ∧ webhook.tenantId = tenantId := by
  unfold addressed at found
  split at found
  · cases found
  · next owner known =>
    split at found
    · cases found
    · next owned =>
      split at found
      · cases found
      · cases found
        exact ⟨known, by simpa using owned⟩

theorem reserve_fixed (gate : Gate) (tenantId : Uuid) :
    (gate.reserve tenantId).2.tenants = gate.tenants ∧
    (gate.reserve tenantId).2.webhooks = gate.webhooks := by
  unfold reserve
  dsimp only
  split <;> exact ⟨rfl, rfl⟩

theorem removeIdle_fixed (gate : Gate) (tenantId : Uuid) :
    (gate.removeIdle tenantId).tenants = gate.tenants ∧
    (gate.removeIdle tenantId).webhooks = gate.webhooks ∧
    (gate.removeIdle tenantId).windows = gate.windows := by
  unfold removeIdle
  split <;> exact ⟨rfl, rfl, rfl⟩

theorem checkRateLimit_fixed (gate : Gate) (webhookId : String) (rate : RateLimit)
    (now : Timestamp) :
    (gate.checkRateLimit webhookId rate now).2.tenants = gate.tenants ∧
    (gate.checkRateLimit webhookId rate now).2.webhooks = gate.webhooks := by
  unfold checkRateLimit
  dsimp only
  split <;> exact ⟨rfl, rfl⟩

/-- A check sees nothing of a gate but the window of its webhook. -/
theorem checkRateLimit_congr (same : left.window? webhookId = right.window? webhookId)
    (rate : RateLimit) (now : Timestamp) :
    (left.checkRateLimit webhookId rate now).1 = (right.checkRateLimit webhookId rate now).1 ∧
    (left.checkRateLimit webhookId rate now).2.window? webhookId =
      (right.checkRateLimit webhookId rate now).2.window? webhookId := by
  have current : left.currentWindow webhookId rate now =
      right.currentWindow webhookId rate now := by
    rw [currentWindow, same, currentWindow]
  unfold checkRateLimit window?
  rw [current]
  dsimp only
  split
  · exact ⟨rfl, by rw [Table.getInsertSame, Table.getInsertSame]⟩
  · exact ⟨rfl, by rw [Table.getInsertSame, Table.getInsertSame]⟩

/-- A reservation sees nothing of a gate but the limit of its tenant and what it runs. -/
theorem reserve_congr (tenants : left.tenants = right.tenants)
    (running : left.runningCount tenantId = right.runningCount tenantId) :
    (left.reserve tenantId).1 = (right.reserve tenantId).1 ∧
    (left.reserve tenantId).2.runningCount tenantId =
      (right.reserve tenantId).2.runningCount tenantId := by
  unfold reserve
  rw [tenants, running]
  dsimp only
  split
  · refine ⟨rfl, ?_⟩
    simp only [runningCount, Table.getInsertSame]
  · refine ⟨rfl, ?_⟩
    simp only [runningCount, Table.getInsertSame]

theorem reserve_other (different : other ≠ tenantId) :
    (gate.reserve other).2.runningCount tenantId = gate.runningCount tenantId := by
  unfold reserve
  dsimp only
  split
  · rw [runningCount_insert, if_neg (Ne.symm different)]
  · rw [runningCount_insert, if_neg (Ne.symm different)]

theorem checkRateLimit_error {error : AdmissionError}
    (refused : (gate.checkRateLimit webhookId rate now).1 = .error error) :
    ∃ wait, error = .rateLimited webhookId wait := by
  unfold checkRateLimit at refused
  dsimp only at refused
  split at refused
  · cases refused
    exact ⟨_, rfl⟩
  · cases refused

theorem reserve_error {error : AdmissionError} (refused : (gate.reserve tenantId).1 = .error error) :
    ∃ limit, error = .tenantAtCapacity tenantId limit := by
  unfold reserve at refused
  dsimp only at refused
  split at refused
  · cases refused
    exact ⟨_, rfl⟩
  · cases refused

end

/-- Two gates look the same to a tenant if they agree on all that concerns it. -/
structure SameFor (tenantId : Uuid) (left right : Gate) : Prop where
  tenants : left.tenants = right.tenants
  webhooks : left.webhooks = right.webhooks
  running : left.runningCount tenantId = right.runningCount tenantId
  windows : ∀ webhookId webhook, left.webhook? webhookId = some webhook →
    webhook.tenantId = tenantId → left.window? webhookId = right.window? webhookId

namespace SameFor

variable {left middle right gate : Gate} {tenantId other : Uuid} {webhookId : String}
  {webhook : Webhook} {request : WebhookRequest} {rate : RateLimit} {now : Timestamp}

theorem refl (gate : Gate) : SameFor tenantId gate gate :=
  ⟨rfl, rfl, rfl, fun _ _ _ _ => rfl⟩

theorem trans (one : SameFor tenantId left middle) (two : SameFor tenantId middle right) :
    SameFor tenantId left right := by
  refine ⟨one.tenants.trans two.tenants, one.webhooks.trans two.webhooks,
    one.running.trans two.running, ?_⟩
  intro webhookId webhook known owned
  have still : middle.webhook? webhookId = some webhook := by
    rw [webhook?, ← one.webhooks]
    exact known
  exact (one.windows webhookId webhook known owned).trans
    (two.windows webhookId webhook still owned)

/-- Whatever is checked, the gates look the same after it. -/
theorem check (same : SameFor tenantId left right) (webhookId : String) (rate : RateLimit)
    (now : Timestamp) :
    SameFor tenantId (left.checkRateLimit webhookId rate now).2
      (right.checkRateLimit webhookId rate now).2 := by
  have leftFixed := left.checkRateLimit_fixed webhookId rate now
  have rightFixed := right.checkRateLimit_fixed webhookId rate now
  have leftCount := left.checkRateLimit_rest webhookId rate now
  have rightCount := right.checkRateLimit_rest webhookId rate now
  refine ⟨?_, ?_, ?_, ?_⟩
  · rw [leftFixed.1, rightFixed.1, same.tenants]
  · rw [leftFixed.2, rightFixed.2, same.webhooks]
  · rw [runningCount, leftCount.1, runningCount, rightCount.1]
    exact same.running
  · intro ownId webhook known owned
    rw [webhook?, leftFixed.2] at known
    have before := same.windows ownId webhook known owned
    by_cases own : webhookId = ownId
    · subst own
      exact (checkRateLimit_congr before rate now).2
    · rw [checkRateLimit_other own, checkRateLimit_other own]
      exact before

theorem reserve (same : SameFor tenantId left right) :
    SameFor tenantId (left.reserve tenantId).2 (right.reserve tenantId).2 := by
  have leftFixed := left.reserve_fixed tenantId
  have rightFixed := right.reserve_fixed tenantId
  refine ⟨?_, ?_, (reserve_congr same.tenants same.running).2, ?_⟩
  · rw [leftFixed.1, rightFixed.1, same.tenants]
  · rw [leftFixed.2, rightFixed.2, same.webhooks]
  · intro webhookId webhook known owned
    rw [webhook?, leftFixed.2] at known
    rw [reserve_window, reserve_window]
    exact same.windows webhookId webhook known owned

/-- What a reservation for another tenant changes is not seen. -/
theorem reserveOther (different : other ≠ tenantId) :
    SameFor tenantId (gate.reserve other).2 gate := by
  have fixed := gate.reserve_fixed other
  refine ⟨fixed.1, fixed.2, reserve_other different, ?_⟩
  intro webhookId webhook _ _
  exact reserve_window gate other webhookId

/-- What a check for a webhook of another tenant changes is not seen. -/
theorem checkOther (known : gate.webhook? webhookId = some webhook)
    (different : webhook.tenantId ≠ tenantId) :
    SameFor tenantId (gate.checkRateLimit webhookId rate now).2 gate := by
  have fixed := gate.checkRateLimit_fixed webhookId rate now
  have count := gate.checkRateLimit_rest webhookId rate now
  refine ⟨fixed.1, fixed.2, ?_, ?_⟩
  · rw [runningCount, count.1, runningCount]
  · intro ownId own found owned
    rw [webhook?, fixed.2] at found
    apply checkRateLimit_other
    rintro rfl
    obtain rfl := Option.some.inj (known.symm.trans found)
    exact different owned

/-- A request for a webhook of the tenant is answered the same. -/
theorem admission (same : SameFor tenantId left right) (webhookId : String)
    (request : WebhookRequest) :
    (left.admission webhookId tenantId request).1 =
      (right.admission webhookId tenantId request).1 ∧
    SameFor tenantId (left.admission webhookId tenantId request).2
      (right.admission webhookId tenantId request).2 := by
  rw [admission_addressed, admission_addressed, addressed_congr same.webhooks]
  cases found : right.addressed webhookId tenantId request with
  | error error => exact ⟨rfl, same⟩
  | ok webhook =>
    rw [← addressed_congr same.webhooks] at found
    obtain ⟨known, owned⟩ := addressed_owned found
    have window := same.windows webhookId webhook known owned
    have ruled := (checkRateLimit_congr window webhook.rateLimit request.receivedAt).1
    have checked := same.check webhookId webhook.rateLimit request.receivedAt
    dsimp only
    unfold reserveCounted
    generalize left.checkRateLimit webhookId webhook.rateLimit request.receivedAt = onLeft,
      right.checkRateLimit webhookId webhook.rateLimit request.receivedAt = onRight
      at ruled checked
    obtain ⟨leftOutcome, left⟩ := onLeft
    obtain ⟨rightOutcome, right⟩ := onRight
    dsimp only at ruled checked
    subst ruled
    cases leftOutcome with
    | error error => exact ⟨rfl, checked⟩
    | ok passed =>
      have answered := (reserve_congr checked.tenants checked.running).1
      have reserved := checked.reserve
      dsimp only
      generalize left.reserve tenantId = onLeft, right.reserve tenantId = onRight
        at answered reserved
      obtain ⟨leftOutcome, left⟩ := onLeft
      obtain ⟨rightOutcome, right⟩ := onRight
      dsimp only at answered reserved
      subst answered
      cases leftOutcome with
      | error error => exact ⟨rfl, reserved⟩
      | ok taken => exact ⟨rfl, reserved⟩

/-- What a request for a webhook of another tenant changes is not seen. -/
theorem admissionOther (different : other ≠ tenantId) (webhookId : String)
    (request : WebhookRequest) :
    SameFor tenantId (gate.admission webhookId other request).2 gate := by
  rw [admission_addressed]
  cases found : gate.addressed webhookId other request with
  | error error => exact refl gate
  | ok webhook =>
    obtain ⟨known, owned⟩ := addressed_owned found
    have checked : SameFor tenantId
        (gate.checkRateLimit webhookId webhook.rateLimit request.receivedAt).2 gate :=
      checkOther known (owned ▸ different)
    dsimp only
    rcases gate.reserveCounted_gate webhookId webhook.rateLimit other request with
      refused | reserved
    · rw [refused]
      exact checked
    · rw [reserved]
      exact (reserveOther different).trans checked

theorem decrement (same : SameFor tenantId left right) (other : Uuid) :
    SameFor tenantId (left.decrement other) (right.decrement other) := by
  refine ⟨same.tenants, same.webhooks, ?_, same.windows⟩
  rw [decrement_running, decrement_running, same.running]

theorem decrementOther (different : other ≠ tenantId) :
    SameFor tenantId (gate.decrement other) gate := by
  refine ⟨rfl, rfl, ?_, fun _ _ _ _ => rfl⟩
  rw [decrement_running, if_neg (Ne.symm different), Nat.sub_zero]

/-- The removal of an entry that is zero is not seen by anyone. -/
theorem removeIdle (other : Uuid) : SameFor tenantId (gate.removeIdle other) gate := by
  obtain ⟨tenants, webhooks, windows⟩ := gate.removeIdle_fixed other
  refine ⟨tenants, webhooks, removeIdle_running gate other tenantId, ?_⟩
  intro webhookId webhook _ _
  rw [window?, windows, window?]

theorem symm (same : SameFor tenantId left right) : SameFor tenantId right left := by
  refine ⟨same.tenants.symm, same.webhooks.symm, same.running.symm, ?_⟩
  intro webhookId webhook known owned
  rw [webhook?, ← same.webhooks] at known
  exact (same.windows webhookId webhook known owned).symm

/-- What is done for another tenant is not seen. -/
theorem operateOther {operation : Operation} (others : operation.isForOther tenantId = true) :
    SameFor tenantId (gate.operate operation).2 gate := by
  cases operation with
  | reserve other => exact reserveOther (by simpa [Operation.isForOther] using others)
  | drop other =>
    exact (removeIdle other).trans (decrementOther (by simpa [Operation.isForOther] using others))
  | decrement other => exact decrementOther (by simpa [Operation.isForOther] using others)
  | removeIdle other => exact removeIdle other
  | admission webhookId other request =>
    exact admissionOther (by simpa [Operation.isForOther] using others) webhookId request
  | check webhookId rate now => cases others
  | quota other => cases others

/-- What is not done for another tenant is answered the same. -/
theorem operate (same : SameFor tenantId left right) {operation : Operation}
    (own : operation.isForOther tenantId = false) :
    (operation.isSeenBy tenantId = true →
      (left.operate operation).1 = (right.operate operation).1) ∧
    SameFor tenantId (left.operate operation).2 (right.operate operation).2 := by
  cases operation with
  | reserve other =>
    obtain rfl : other = tenantId := by simpa [Operation.isForOther] using own
    exact ⟨fun _ => congrArg Answer.reserved (reserve_congr same.tenants same.running).1,
      same.reserve⟩
  | drop other =>
    have dropped := same.decrement other
    exact ⟨fun _ => rfl, ((removeIdle other).trans dropped).trans (removeIdle other).symm⟩
  | decrement other => exact ⟨fun _ => rfl, same.decrement other⟩
  | removeIdle other =>
    exact ⟨fun _ => rfl, ((removeIdle other).trans same).trans (removeIdle other).symm⟩
  | admission webhookId other request =>
    obtain rfl : other = tenantId := by simpa [Operation.isForOther] using own
    obtain ⟨answered, after⟩ := same.admission webhookId request
    exact ⟨fun _ => congrArg Answer.admitted answered, after⟩
  | check webhookId rate now =>
    exact ⟨fun seen => (by cases seen), same.check webhookId rate now⟩
  | quota other =>
    refine ⟨fun seen => ?_, same⟩
    obtain rfl : other = tenantId := by simpa [Operation.isSeenBy] using seen
    change Answer.shown (left.quota other) = Answer.shown (right.quota other)
    rw [quota, quota, same.tenants, same.running]

/-- A tenant gets the same answers without what is done for others. -/
theorem answers (same : SameFor tenantId left right) (operations : List Operation) :
    left.answersFor tenantId operations =
      right.answersFor tenantId
        (operations.filter fun operation => !operation.isForOther tenantId) := by
  induction operations generalizing left right with
  | nil => rfl
  | cons operation rest inductionHypothesis =>
    cases others : operation.isForOther tenantId with
    | true =>
      have unseen : operation.isSeenBy tenantId = false := by
        cases operation <;> simp_all [Operation.isForOther, Operation.isSeenBy]
      rw [List.filter_cons_of_neg (by simp [others]), answersFor, unseen]
      exact inductionHypothesis ((operateOther others).trans same)
    | false =>
      obtain ⟨answered, after⟩ := same.operate others
      have later := inductionHypothesis after
      rw [List.filter_cons_of_pos (by simp [others]), answersFor, answersFor, later]
      cases seen : operation.isSeenBy tenantId with
      | false => rfl
      | true => rw [answered seen]

end SameFor

/-- No operation changes the webhooks. -/
theorem operate_webhooks (gate : Gate) (operation : Operation) :
    (gate.operate operation).2.webhooks = gate.webhooks := by
  cases operation with
  | reserve tenantId => exact (gate.reserve_fixed tenantId).2
  | drop tenantId => exact ((gate.decrement tenantId).removeIdle_fixed tenantId).2.1
  | decrement tenantId => rfl
  | removeIdle tenantId => exact (gate.removeIdle_fixed tenantId).2.1
  | admission webhookId tenantId request =>
    change (gate.admission webhookId tenantId request).2.webhooks = gate.webhooks
    rw [admission_addressed]
    split
    · rfl
    · next webhook _ =>
      have checked :=
        (gate.checkRateLimit_fixed webhookId webhook.rateLimit request.receivedAt).2
      rcases gate.reserveCounted_gate webhookId webhook.rateLimit tenantId request with
        refused | reserved
      · rw [refused]
        exact checked
      · rw [reserved]
        exact (reserve_fixed _ tenantId).2.trans checked
  | check webhookId rate now => exact (gate.checkRateLimit_fixed webhookId rate now).2
  | quota tenantId => rfl

/-- An operation that is not about a webhook leaves its window. -/
theorem operate_window {operation : Operation} {webhookId : String}
    (aside : operation.isAbout webhookId = false) (gate : Gate) :
    (gate.operate operation).2.window? webhookId = gate.window? webhookId := by
  cases operation with
  | reserve tenantId => exact reserve_window gate tenantId webhookId
  | drop tenantId => exact release_window gate tenantId webhookId
  | decrement tenantId => rfl
  | removeIdle tenantId =>
    change (gate.removeIdle tenantId).window? webhookId = gate.window? webhookId
    rw [window?, (gate.removeIdle_fixed tenantId).2.2, window?]
  | admission other tenantId request =>
    exact admission_other (by simpa [Operation.isAbout] using aside) tenantId request
  | check other rate now =>
    exact checkRateLimit_other (by simpa [Operation.isAbout] using aside) rate now
  | quota tenantId => rfl

/-- Two gates look the same on a webhook if its window and all webhooks agree. -/
structure SameOn (webhookId : String) (left right : Gate) : Prop where
  webhooks : left.webhooks = right.webhooks
  window : left.window? webhookId = right.window? webhookId

namespace SameOn

variable {left right gate : Gate} {webhookId : String} {operation : Operation}

/-- A reservation says nothing of its own in the ruling on a request. -/
theorem reserveCounted_ruling (gate : Gate) (webhookId : String) (rate : RateLimit)
    (tenantId : Uuid) (request : WebhookRequest) :
    (Answer.admitted (gate.reserveCounted webhookId rate tenantId request).1).ruling =
      (gate.checkRateLimit webhookId rate request.receivedAt).1 ∧
    (gate.reserveCounted webhookId rate tenantId request).2.window? webhookId =
      (gate.checkRateLimit webhookId rate request.receivedAt).2.window? webhookId := by
  unfold reserveCounted
  split
  · next error after answer =>
    obtain ⟨wait, rfl⟩ := checkRateLimit_error (congrArg Prod.fst answer)
    rw [answer]
    exact ⟨rfl, rfl⟩
  · next passed answer =>
    have window := reserve_window passed tenantId webhookId
    rw [answer]
    split
    · next error after refused =>
      obtain ⟨limit, rfl⟩ := reserve_error (congrArg Prod.fst refused)
      rw [refused] at window
      exact ⟨rfl, window⟩
    · next after taken =>
      rw [taken] at window
      exact ⟨rfl, window⟩

/-- What is about the webhook is ruled on the same. -/
theorem operate (same : SameOn webhookId left right) (operation : Operation) :
    (operation.isAbout webhookId = true →
      (left.operate operation).1.ruling = (right.operate operation).1.ruling) ∧
    SameOn webhookId (left.operate operation).2 (right.operate operation).2 := by
  have webhooks : (left.operate operation).2.webhooks = (right.operate operation).2.webhooks := by
    rw [operate_webhooks, operate_webhooks, same.webhooks]
  cases about : operation.isAbout webhookId with
  | false =>
    refine ⟨by simp, webhooks, ?_⟩
    rw [operate_window about, operate_window about, same.window]
  | true =>
    cases operation with
    | admission other tenantId request =>
      obtain rfl : other = webhookId := by simpa [Operation.isAbout] using about
      change (true = true →
          (Answer.admitted (left.admission other tenantId request).1).ruling =
            (Answer.admitted (right.admission other tenantId request).1).ruling) ∧
        SameOn other (left.admission other tenantId request).2
          (right.admission other tenantId request).2
      have after := webhooks
      change (left.admission other tenantId request).2.webhooks =
        (right.admission other tenantId request).2.webhooks at after
      rw [admission_addressed, admission_addressed, addressed_congr same.webhooks] at after ⊢
      cases found : right.addressed other tenantId request with
      | error error => exact ⟨fun _ => rfl, same⟩
      | ok webhook =>
        rw [found] at after
        obtain ⟨leftRuling, leftWindow⟩ :=
          reserveCounted_ruling left other webhook.rateLimit tenantId request
        obtain ⟨rightRuling, rightWindow⟩ :=
          reserveCounted_ruling right other webhook.rateLimit tenantId request
        obtain ⟨ruled, window⟩ :=
          checkRateLimit_congr same.window webhook.rateLimit request.receivedAt
        refine ⟨fun _ => ?_, after, ?_⟩
        · exact leftRuling.trans (ruled.trans rightRuling.symm)
        · exact leftWindow.trans (window.trans rightWindow.symm)
    | check other rate now =>
      obtain rfl : other = webhookId := by simpa [Operation.isAbout] using about
      obtain ⟨ruled, window⟩ := checkRateLimit_congr same.window rate now
      exact ⟨fun _ => ruled, webhooks, window⟩
    | _ => cases about

/-- The rulings on a webhook are the same without what is checked for others. -/
theorem rulings (same : SameOn webhookId left right) (operations : List Operation) :
    left.rulings webhookId operations =
      right.rulings webhookId
        (operations.filter fun operation => !operation.isCheckOfOther webhookId) := by
  induction operations generalizing left right with
  | nil => rfl
  | cons operation rest inductionHypothesis =>
    cases others : operation.isCheckOfOther webhookId with
    | true =>
      have aside : operation.isAbout webhookId = false := by
        cases operation <;> simp_all [Operation.isCheckOfOther, Operation.isAbout]
      have after : SameOn webhookId (left.operate operation).2 right :=
        ⟨(operate_webhooks left operation).trans same.webhooks,
          (operate_window aside left).trans same.window⟩
      rw [List.filter_cons_of_neg (by simp [others]), Gate.rulings, aside]
      exact inductionHypothesis after
    | false =>
      obtain ⟨ruled, after⟩ := same.operate operation
      have later := inductionHypothesis after
      rw [List.filter_cons_of_pos (by simp [others]), Gate.rulings, Gate.rulings, later]
      cases about : operation.isAbout webhookId with
      | false => rfl
      | true => rw [ruled about]

end SameOn

/-- A gate keeps its tenants apart, and it keeps its webhooks apart. -/
theorem isolated (gate : Gate) (operations : List Operation) :
    (∀ tenantId, gate.answersFor tenantId operations =
      gate.answersFor tenantId
        (operations.filter fun operation => !operation.isForOther tenantId)) ∧
    ∀ webhookId, gate.rulings webhookId operations =
      gate.rulings webhookId
        (operations.filter fun operation => !operation.isCheckOfOther webhookId) :=
  ⟨fun _ => (SameFor.refl gate).answers operations,
    fun _ => SameOn.rulings ⟨rfl, rfl⟩ operations⟩

end Gate

end WorkflowEngine
