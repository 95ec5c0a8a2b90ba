/-
This file proves for which tenants the gate keeps an entry. Whatever happens between the two halves
of a drop, a tenant with a live slot has an entry, and a tenant that has dropped its last slot has
none. A tenant that is refused under a limit of zero gets an entry that no drop takes away.
-/

import WorkflowEngine.Proofs.Admission.Running

namespace WorkflowEngine.Gate

/-- A dropped slot is given back first and its entry cleaned up afterwards. -/
inductive SlotEvent where
  | granted (tenantId : Uuid)
  | refused (tenantId : Uuid) (limit : UInt64)
  | givenBack (tenantId : Uuid)
  | cleanedUp (tenantId : Uuid)
  deriving DecidableEq

namespace SlotEvent

def live (past : List SlotEvent) (tenantId : Uuid) : Nat :=
  past.count (.granted tenantId) - past.count (.givenBack tenantId)

def halfDone (past : List SlotEvent) (tenantId : Uuid) : Nat :=
  past.count (.givenBack tenantId) - past.count (.cleanedUp tenantId)

/-- The refusal stays behind as long as no drop of the tenant is completed. -/
def StaysBehind (past : List SlotEvent) (tenantId : Uuid) : Prop :=
  ∃ earlier later, past = earlier ++ .refused tenantId 0 :: later ∧ .cleanedUp tenantId ∉ later

end SlotEvent

open SlotEvent

def reservation (gate : Gate) (tenantId : Uuid) : SlotEvent :=
  match (gate.reserve tenantId).1 with
  | .ok () => .granted tenantId
  | .error _ => .refused tenantId (gate.tenants.limits tenantId).maxConcurrentExecutions

/-- The halves of a drop are steps of their own, and limits may change at any time. -/
inductive SlotHistory (start : Gate) : List SlotEvent → Gate → Prop where
  | start : SlotHistory start [] start
  | reserved {past : List SlotEvent} {gate : Gate} (history : SlotHistory start past gate)
    (tenantId : Uuid) :
    SlotHistory start (past ++ [gate.reservation tenantId]) (gate.reserve tenantId).2
  | givenBack {past : List SlotEvent} {gate : Gate} (history : SlotHistory start past gate)
    {tenantId : Uuid} (held : 0 < live past tenantId) :
    SlotHistory start (past ++ [.givenBack tenantId]) (gate.decrement tenantId)
  | cleanedUp {past : List SlotEvent} {gate : Gate} (history : SlotHistory start past gate)
    {tenantId : Uuid} (begun : 0 < halfDone past tenantId) :
    SlotHistory start (past ++ [.cleanedUp tenantId]) (gate.removeIdle tenantId)
  | limited {past : List SlotEvent} {gate : Gate} (history : SlotHistory start past gate)
    (tenants : TenantRegistry) : SlotHistory start past { gate with tenants := tenants }

section

variable {past : List SlotEvent} {event : SlotEvent} {tenantId other : Uuid} {gate : Gate}

/-- One more event is such a refusal, or lets an earlier one stay behind. -/
theorem SlotEvent.staysBehind_concat : StaysBehind (past ++ [event]) tenantId ↔
    event = .refused tenantId 0 ∨ event ≠ .cleanedUp tenantId ∧ StaysBehind past tenantId := by
  constructor
  · rintro ⟨earlier, later, listed, unclean⟩
    rcases List.eq_nil_or_concat later with rfl | ⟨front, last, rfl⟩
    · exact .inl (List.cons.inj (List.append_inj' listed rfl).2).1
    · rw [List.concat_eq_append, ← List.cons_append, ← List.append_assoc] at listed
      obtain ⟨same, alike⟩ := List.append_inj' listed rfl
      cases alike
      simp only [List.concat_eq_append, List.mem_append, List.mem_singleton, not_or] at unclean
      exact .inr ⟨Ne.symm unclean.2, earlier, front, same, unclean.1⟩
  · rintro (rfl | ⟨different, earlier, later, rfl, unclean⟩)
    · exact ⟨past, [], rfl, List.not_mem_nil⟩
    · refine ⟨earlier, later ++ [event], by simp, ?_⟩
      simp [unclean, different.symm]

/-- A reservation leaves an entry for its tenant, whether it is granted or not. -/
theorem reserve_entered (gate : Gate) (tenantId other : Uuid) :
    (gate.reserve tenantId).2.running.has other = true ↔
      other = tenantId ∨ gate.running.has other = true := by
  have inserted (count : Nat) : (gate.running.insert tenantId count).has other = true ↔
      other = tenantId ∨ gate.running.has other = true := by
    unfold Table.has
    by_cases same : other = tenantId
    · simp [same, Table.getInsertSame]
    · simp [same, Table.getInsertOther _ _ (Ne.symm same)]
  unfold reserve
  dsimp only
  split
  · exact inserted _
  · exact inserted _

/-- A refused reservation means that its tenant has reached its limit. -/
theorem reservation_counted (gate : Gate) (tenantId : Uuid) :
    gate.reservation tenantId = .granted tenantId ∧
        Counted gate (gate.reserve tenantId).2 tenantId 1 ∨
      ∃ limit, gate.reservation tenantId = .refused tenantId limit ∧
        limit.toNat ≤ gate.runningCount tenantId ∧
        Counted gate (gate.reserve tenantId).2 tenantId 0 := by
  obtain ⟨grants, refuses⟩ := gate.reserve_counted tenantId
  have full (error : AdmissionError) (refused : (gate.reserve tenantId).1 = .error error) :
      (gate.tenants.limits tenantId).maxConcurrentExecutions.toNat ≤
        gate.runningCount tenantId := by
    unfold reserve at refused
    dsimp only at refused
    split at refused
    · assumption
    · cases refused
  unfold reservation
  split
  · next granted => exact .inl ⟨rfl, (grants granted).2⟩
  · next error refused => exact .inr ⟨_, rfl, full error refused, refuses error refused⟩

theorem decrement_entered (gate : Gate) (tenantId other : Uuid) :
    (gate.decrement tenantId).running.has other = gate.running.has other := by
  unfold decrement Table.has
  rw [Table.get_update]
  split
  · next same => rw [same, Option.isSome_map]
  · rfl

/-- A tenant that keeps its entry through a cleaning runs something. -/
theorem removeIdle_entered (gate : Gate) (tenantId : Uuid) :
    ((gate.removeIdle tenantId).running.has tenantId = true → 0 < gate.runningCount tenantId) ∧
    ∀ other, other ≠ tenantId →
      (gate.removeIdle tenantId).running.has other = gate.running.has other := by
  unfold removeIdle
  split
  · next idle =>
    refine ⟨fun entered => ?_, fun other different => ?_⟩
    · simp [Table.has, Table.getEraseSame] at entered
    · simp [Table.has, Table.getEraseOther _ (Ne.symm different)]
  · next busy =>
    refine ⟨fun entered => ?_, fun _ _ => rfl⟩
    obtain ⟨count, found⟩ := Option.isSome_iff_exists.mp entered
    rw [found, Option.some.injEq] at busy
    simp only [runningCount, found, Option.getD_some]
    omega

/-- No more slots are given back than granted, nor more cleaned up than given back. -/
structure SlotEvent.Orderly (past : List SlotEvent) : Prop where
  returned : ∀ tenantId, past.count (.givenBack tenantId) ≤ past.count (.granted tenantId)
  cleaned : ∀ tenantId, past.count (.cleanedUp tenantId) ≤ past.count (.givenBack tenantId)

theorem SlotEvent.Orderly.live_concat (orderly : Orderly past) (event : SlotEvent)
    (tenantId : Uuid) : live (past ++ [event]) tenantId = live past tenantId +
      (if event = .granted tenantId then 1 else 0) -
      (if event = .givenBack tenantId then 1 else 0) := by
  have returned := orderly.returned tenantId
  simp only [live, List.count_append, List.count_singleton, beq_iff_eq]
  omega

theorem SlotEvent.Orderly.halfDone_concat (orderly : Orderly past) (event : SlotEvent)
    (tenantId : Uuid) : halfDone (past ++ [event]) tenantId = halfDone past tenantId +
      (if event = .givenBack tenantId then 1 else 0) -
      (if event = .cleanedUp tenantId then 1 else 0) := by
  have cleaned := orderly.cleaned tenantId
  simp only [halfDone, List.count_append, List.count_singleton, beq_iff_eq]
  omega

/-- A history stays orderly if the next event has its cause. -/
theorem SlotEvent.Orderly.concat (orderly : Orderly past)
    (held : ∀ tenantId, event = .givenBack tenantId → 0 < live past tenantId)
    (begun : ∀ tenantId, event = .cleanedUp tenantId → 0 < halfDone past tenantId) :
    Orderly (past ++ [event]) := by
  refine ⟨fun tenantId => ?_, fun tenantId => ?_⟩
  · have returned := orderly.returned tenantId
    have held := held tenantId
    unfold live at held
    simp only [List.count_append, List.count_singleton, beq_iff_eq]
    split
    · next same =>
      have positive := held same
      omega
    · omega
  · have cleaned := orderly.cleaned tenantId
    have begun := begun tenantId
    unfold halfDone at begun
    simp only [List.count_append, List.count_singleton, beq_iff_eq]
    split
    · next same =>
      have positive := begun same
      omega
    · omega

theorem SlotHistory.orderly {start : Gate} (history : SlotHistory start past gate) :
    Orderly past := by
  induction history with
  | start => exact ⟨by simp, by simp⟩
  | @reserved past gate history tenantId orderly =>
    rcases gate.reservation_counted tenantId with ⟨granted, _⟩ | ⟨limit, refused, _⟩
    · rw [granted]
      exact orderly.concat (by simp) (by simp)
    · rw [refused]
      exact orderly.concat (by simp) (by simp)
  | givenBack history held orderly =>
    exact orderly.concat (by rintro _ ⟨⟩; exact held) (by simp)
  | cleanedUp history begun orderly =>
    exact orderly.concat (by simp) (by rintro _ ⟨⟩; exact begun)
  | limited history tenants orderly => exact orderly

/-- The gate counts the live slots of every tenant, also between the halves of a drop. -/
theorem SlotHistory.counted {start : Gate} (idle : start.running = [])
    (history : SlotHistory start past gate) (other : Uuid) :
    gate.runningCount other = live past other := by
  induction history with
  | start => simp [runningCount, idle, Table.get?, live]
  | @reserved past gate history tenantId inductionHypothesis =>
    rw [history.orderly.live_concat]
    rcases gate.reservation_counted tenantId with ⟨granted, _, running⟩ | ⟨_, refused, _, _, running⟩
    · rw [running, inductionHypothesis, granted]
      simp [eq_comm]
    · rw [running, inductionHypothesis, refused]
      simp
  | @givenBack past gate history tenantId held inductionHypothesis =>
    rw [history.orderly.live_concat, decrement_running, inductionHypothesis]
    simp [eq_comm]
  | @cleanedUp past gate history tenantId begun inductionHypothesis =>
    rw [history.orderly.live_concat, removeIdle_running, inductionHypothesis]
    simp
  | limited history tenants inductionHypothesis => exact inductionHypothesis

/-- A refusal that stays behind leaves its entry. -/
theorem SlotHistory.behind {start : Gate} (history : SlotHistory start past gate) {other : Uuid}
    (stays : StaysBehind past other) : gate.running.has other = true := by
  induction history with
  | start =>
    obtain ⟨earlier, later, listed, _⟩ := stays
    simp at listed
  | @reserved past gate history tenantId inductionHypothesis =>
    rw [reserve_entered]
    rcases staysBehind_concat.mp stays with refused | ⟨_, stays⟩
    · left
      rcases gate.reservation_counted tenantId with ⟨granted, _⟩ | ⟨_, again, _⟩
      · rw [granted] at refused
        cases refused
      · rw [again] at refused
        cases refused
        rfl
    · exact .inr (inductionHypothesis stays)
  | @givenBack past gate history tenantId held inductionHypothesis =>
    rw [decrement_entered]
    apply inductionHypothesis
    simpa [staysBehind_concat] using stays
  | @cleanedUp past gate history tenantId begun inductionHypothesis =>
    obtain ⟨different, stays⟩ := by simpa [staysBehind_concat] using stays
    rw [(gate.removeIdle_entered tenantId).2 other (Ne.symm different)]
    exact inductionHypothesis stays
  | limited history tenants inductionHypothesis => exact inductionHypothesis stays

/-- An entry needs a live slot, a drop half done, or a refusal that stays behind. -/
def SlotEvent.Warranted (past : List SlotEvent) (tenantId : Uuid) : Prop :=
  0 < live past tenantId ∨ 0 < halfDone past tenantId ∨ StaysBehind past tenantId

/-- A reason lasts until the tenant drops something. -/
theorem SlotEvent.Warranted.concat (warranted : Warranted past tenantId) (orderly : Orderly past)
    (kept : event ≠ .givenBack tenantId) (unclean : event ≠ .cleanedUp tenantId) :
    Warranted (past ++ [event]) tenantId := by
  rcases warranted with live | half | stays
  · left
    rw [orderly.live_concat, if_neg kept]
    omega
  · right; left
    rw [orderly.halfDone_concat, if_neg unclean]
    omega
  · right; right
    exact staysBehind_concat.mpr (.inr ⟨unclean, stays⟩)

/-- Every entry has a reason. -/
theorem SlotHistory.warranted {start : Gate} (idle : start.running = [])
    (history : SlotHistory start past gate) {other : Uuid}
    (entered : gate.running.has other = true) : Warranted past other := by
  induction history with
  | start => simp [idle, Table.has, Table.get?] at entered
  | @reserved past gate history tenantId inductionHypothesis =>
    have orderly := history.orderly
    have counted := history.counted idle
    rcases gate.reservation_counted tenantId with ⟨granted, _⟩ | ⟨limit, refused, full, _⟩
    · rw [granted]
      rcases (reserve_entered gate tenantId other).mp entered with rfl | before
      · left
        simp [orderly.live_concat]
      · exact (inductionHypothesis before).concat orderly (by simp) (by simp)
    · rw [refused]
      rcases (reserve_entered gate tenantId other).mp entered with rfl | before
      · -- A limit above zero is reached by live slots only.
        by_cases closed : limit = 0
        · right; right
          exact staysBehind_concat.mpr (.inl (by rw [closed]))
        · left
          have positive : 0 < limit.toNat := Nat.pos_of_ne_zero fun zero =>
            closed (UInt64.toNat_inj.mp zero)
          rw [counted] at full
          simp only [orderly.live_concat, reduceCtorEq, if_false]
          omega
      · exact (inductionHypothesis before).concat orderly (by simp) (by simp)
  | @givenBack past gate history tenantId held inductionHypothesis =>
    rw [decrement_entered] at entered
    by_cases same : tenantId = other
    · subst same
      right; left
      simp [history.orderly.halfDone_concat]
    · exact (inductionHypothesis entered).concat history.orderly (by simpa using same) (by simp)
  | @cleanedUp past gate history tenantId begun inductionHypothesis =>
    obtain ⟨runs, others⟩ := gate.removeIdle_entered tenantId
    by_cases same : tenantId = other
    · subst same
      left
      have counted := history.counted idle tenantId
      simp only [history.orderly.live_concat, reduceCtorEq, if_false, ← counted]
      exact runs entered
    · rw [others other (Ne.symm same)] at entered
      exact (inductionHypothesis entered).concat history.orderly (by simp) (by simpa using same)
  | limited history tenants inductionHypothesis => exact inductionHypothesis entered

/-- Without a drop half done, a tenant has an entry exactly if there is a reason for it. -/
theorem entry_iff_live_or_behind {start : Gate} (idle : start.running = [])
    (history : SlotHistory start past gate) (settled : halfDone past tenantId = 0) :
    (gate.running.has tenantId = true ↔ 0 < live past tenantId ∨ StaysBehind past tenantId) ∧
    (.refused tenantId 0 ∉ past → (gate.running.has tenantId = true ↔ 0 < live past tenantId)) ∧
    gate.runningCount tenantId = live past tenantId := by
  have counted := history.counted idle tenantId
  have present (held : 0 < live past tenantId) : gate.running.has tenantId = true := by
    by_contra missing
    have none : gate.running.get? tenantId = none := by simpa [Table.has] using missing
    rw [← counted, runningCount, none] at held
    exact Nat.lt_irrefl 0 held
  have exact : gate.running.has tenantId = true ↔
      0 < live past tenantId ∨ StaysBehind past tenantId := by
    constructor
    · intro entered
      rcases history.warranted idle entered with held | half | stays
      · exact .inl held
      · omega
      · exact .inr stays
    · rintro (held | stays)
      · exact present held
      · exact history.behind stays
  refine ⟨exact, fun admitted => ?_, counted⟩
  rw [exact]
  refine ⟨fun reason => reason.resolve_right ?_, .inl⟩
  rintro ⟨earlier, later, rfl, _⟩
  simp at admitted

end

/-- Every tenant has the same room. -/
def withRoom (limit : UInt64) : Gate :=
  { tenants := { defaults := ⟨limit, 100⟩ } }

/-- A tenant reserves again between the two halves of a drop, and once more in vain. -/
def racedEvents : List SlotEvent :=
  [.granted .nil, .givenBack .nil, .granted .nil, .cleanedUp .nil, .refused .nil 1]

/-- The gate after the drop that was raced keeps the entry of its tenant. -/
theorem raced_entry_iff_live : ∃ gate, SlotHistory (withRoom 1) racedEvents gate ∧
    halfDone racedEvents .nil = 0 ∧ gate.running.has .nil = true ∧
    (gate.running.has .nil = true ↔ 0 < live racedEvents .nil) := by
  have reserved := (@SlotHistory.start (withRoom 1)).reserved .nil
  have dropped := reserved.givenBack (show 0 < live _ .nil by decide)
  have raced := dropped.reserved .nil
  have history := (raced.cleanedUp (show 0 < halfDone _ .nil by decide)).reserved .nil
  have settled : halfDone racedEvents .nil = 0 := by decide
  refine ⟨_, history, settled, by decide, ?_⟩
  exact (entry_iff_live_or_behind rfl history settled).2.1 (by decide)

/-- A refusal under a limit of zero leaves an entry for a tenant without a live slot. -/
theorem refused_tenant_entered :
    ¬∀ (start gate : Gate) (past : List SlotEvent), start.running = [] →
      SlotHistory start past gate → (∀ tenantId, halfDone past tenantId = 0) →
      ∀ tenantId, gate.running.has tenantId = true ↔ 0 < live past tenantId := by
  intro claimed
  have history : SlotHistory (withRoom 0) [.refused .nil 0] ((withRoom 0).reserve .nil).2 :=
    SlotHistory.start.reserved .nil
  have same := claimed _ _ _ rfl history (fun tenantId => by simp [halfDone]) .nil
  exact absurd (same.mp (by decide)) (by decide)

end WorkflowEngine.Gate
