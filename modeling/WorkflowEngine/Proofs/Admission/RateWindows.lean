/-
This file proves what the limit of a rate lets pass. The requests of a webhook fall into periods,
one for each window that its gate opens, and the window of the gate is that of the last period.
-/

import WorkflowEngine.Admission.Gate
import WorkflowEngine.Proofs.Time.Elapsed
import Mathlib.Data.List.Chain
import Mathlib.Data.List.Induction

namespace WorkflowEngine

open Time

/-- A window lasts as long as its rate says, up to the greatest word of 32 bits. -/
def RateLimit.span (rate : RateLimit) : Nat :=
  min rate.windowSecs.toNat 4294967295

theorem Gate.windowSeconds_eq (rate : RateLimit) : windowSeconds rate = rate.span :=
  rfl

/-- A ruling tells when a request came and whether the limit let it pass. -/
structure Ruling where
  now : Timestamp
  passed : Bool
  deriving DecidableEq, Repr

def Ruling.passedWithin (leaps : List Int) (opening nanoseconds : Int) (ruling : Ruling) : Bool :=
  ruling.passed && decide (opening ≤ ruling.now.elapsed leaps) &&
    decide (ruling.now.elapsed leaps < opening + nanoseconds)

/-- A period is a window with the requests that came in it, in order. -/
structure Period where
  start : Timestamp
  rulings : List Ruling
  deriving DecidableEq, Repr

namespace Period

def passed (period : Period) : Nat :=
  period.rulings.countP Ruling.passed

/-- A period is over from its start and the length of a window on. -/
def isOver (seconds : Nat) (now : Timestamp) (period : Period) : Bool :=
  (period.start.addSeconds seconds).le now

/-- The last period stands first, unless it is over. -/
def current? (seconds : Nat) (now : Timestamp) (periods : List Period) : Option Period :=
  periods.head?.filter fun period => !period.isOver seconds now

/-- A request belongs to the current period, or else it opens a new one. -/
def extend (seconds : Nat) (periods : List Period) (ruling : Ruling) : List Period :=
  match current? seconds ruling.now periods with
  | none => ⟨ruling.now, [ruling]⟩ :: periods
  | some period => ⟨period.start, period.rulings ++ [ruling]⟩ :: periods.tail

/-- The last period comes first. -/
def ofRulings (seconds : Nat) (rulings : List Ruling) : List Period :=
  rulings.foldl (extend seconds) []

/-- A period follows an earlier one if it starts when that is over. -/
def Follows (seconds : Nat) (later earlier : Period) : Prop :=
  earlier.isOver seconds later.start = true

section

variable {seconds : Nat} {now : Timestamp} {periods : List Period} {period : Period}
  {rulings : List Ruling}

theorem current_eq_none : current? seconds now periods = none ↔
    ∀ period, periods.head? = some period → period.isOver seconds now = true := by
  cases periods <;> simp [current?, Option.filter]

theorem current_eq_some : current? seconds now periods = some period ↔
    periods.head? = some period ∧ period.isOver seconds now = false := by
  cases periods with
  | nil => simp [current?]
  | cons first rest =>
    simp only [current?, List.head?_cons, Option.filter_eq_some_iff, Option.some.injEq,
      Bool.not_eq_true']

theorem ofRulings_append (seconds : Nat) (rulings : List Ruling) (ruling : Ruling) :
    ofRulings seconds (rulings ++ [ruling]) =
      extend seconds (ofRulings seconds rulings) ruling := by
  simp [ofRulings]

/-- The first request of a period comes at its start. -/
theorem ofRulings_opens (member : period ∈ ofRulings seconds rulings) :
    ∃ passed later, period.rulings = ⟨period.start, passed⟩ :: later := by
  induction rulings using List.reverseRecOn generalizing period with
  | nil => cases member
  | append_singleton rulings ruling inductionHypothesis =>
    rw [ofRulings_append, extend] at member
    split at member
    · rcases List.mem_cons.mp member with rfl | earlier
      · exact ⟨ruling.passed, [], rfl⟩
      · exact inductionHypothesis earlier
    · next last current =>
      have head := (current_eq_some.mp current).1
      rcases List.mem_cons.mp member with rfl | earlier
      · obtain ⟨passed, later, opens⟩ := inductionHypothesis (List.mem_of_head? head)
        exact ⟨passed, later ++ [ruling], by rw [opens, List.cons_append]⟩
      · exact inductionHypothesis (List.mem_of_mem_tail earlier)

/-- No request is lost: the periods hold all requests in order. -/
theorem ofRulings_flatMap (seconds : Nat) (rulings : List Ruling) :
    (ofRulings seconds rulings).reverse.flatMap Period.rulings = rulings := by
  induction rulings using List.reverseRecOn with
  | nil => rfl
  | append_singleton rulings ruling inductionHypothesis =>
    rw [ofRulings_append, extend]
    split
    · simp [inductionHypothesis]
    · next last current =>
      have head := (current_eq_some.mp current).1
      cases listed : ofRulings seconds rulings with
      | nil => simp [listed] at head
      | cons first rest =>
        simp only [listed, List.head?_cons, Option.some.injEq] at head
        simp only [listed, List.reverse_cons, List.flatMap_append, List.flatMap_cons,
          List.flatMap_nil, List.append_nil, head] at inductionHypothesis
        simp [← inductionHypothesis]

/-- The next period starts when the one before it is over. -/
theorem ofRulings_follow (seconds : Nat) (rulings : List Ruling) :
    (ofRulings seconds rulings).IsChain (Follows seconds) := by
  induction rulings using List.reverseRecOn with
  | nil => exact .nil
  | append_singleton rulings ruling inductionHypothesis =>
    rw [ofRulings_append, extend]
    split
    · next ended =>
      cases listed : ofRulings seconds rulings with
      | nil => exact .singleton _
      | cons first rest =>
        rw [listed] at ended inductionHypothesis
        exact .cons_cons (current_eq_none.mp ended first rfl) inductionHypothesis
    · next last current =>
      have head := (current_eq_some.mp current).1
      cases listed : ofRulings seconds rulings with
      | nil => simp [listed] at head
      | cons first rest =>
        simp only [listed, List.head?_cons, Option.some.injEq] at head
        subst head
        rw [listed] at inductionHypothesis
        cases rest with
        | nil => exact .singleton _
        | cons second rest =>
          obtain ⟨follows, chain⟩ := List.isChain_cons_cons.mp inductionHypothesis
          exact .cons_cons follows chain

end


section

variable {seconds limit : Nat} {leaps : List Int}

/-- These are periods in the order of time, with requests that do not run back. -/
structure Timely (seconds limit : Nat) (leaps : List Int) (periods : List Period) : Prop where
  follow : periods.IsChain fun earlier later => Follows seconds later earlier
  opens : ∀ period ∈ periods, ∃ passed later, period.rulings = ⟨period.start, passed⟩ :: later
  bounded : ∀ period ∈ periods, period.passed ≤ limit
  ordered : (periods.flatMap Period.rulings).Pairwise
    fun earlier later => earlier.now.le later.now = true
  occurs : ∀ ruling ∈ periods.flatMap Period.rulings, ruling.now.Occurs leaps

theorem Timely.rest {first : Period} {rest : List Period}
    (timely : Timely seconds limit leaps (first :: rest)) : Timely seconds limit leaps rest := by
  have ordered := timely.ordered
  have occurs := timely.occurs
  rw [List.flatMap_cons] at ordered occurs
  refine ⟨timely.follow.of_cons,
    fun period member => timely.opens period (List.mem_cons_of_mem _ member),
    fun period member => timely.bounded period (List.mem_cons_of_mem _ member),
    (List.pairwise_append.mp ordered).2.1,
    fun ruling member => occurs ruling (List.mem_append_right _ member)⟩

/-- Requests that are two periods apart lie further apart than a window is long. -/
theorem Timely.elapsed_between {first second third : Period} {rest : List Period}
    (timely : Timely seconds limit leaps (first :: second :: third :: rest))
    {earlier later : Ruling} (early : earlier ∈ first.rulings)
    (late : later ∈ (third :: rest).flatMap Period.rulings) :
    earlier.now.elapsed leaps + seconds * Timestamp.billion ≤ later.now.elapsed leaps := by
  obtain ⟨secondPassed, secondLater, secondOpens⟩ := timely.opens second (by simp)
  obtain ⟨thirdPassed, thirdLater, thirdOpens⟩ := timely.opens third (by simp)
  have follows := (List.isChain_cons_cons.mp timely.rest.follow).1
  have secondOccurs : second.start.Occurs leaps :=
    timely.occurs ⟨second.start, secondPassed⟩ (by simp [secondOpens])
  have thirdOccurs : third.start.Occurs leaps :=
    timely.occurs ⟨third.start, thirdPassed⟩ (by simp [thirdOpens])
  have one : earlier.now.elapsed leaps ≤ second.start.elapsed leaps := by
    have ordered := timely.ordered
    rw [List.flatMap_cons, List.pairwise_append] at ordered
    exact Timestamp.elapsed_mono (timely.occurs earlier (by simp [early]))
      (ordered.2.2 earlier early ⟨second.start, secondPassed⟩ (by simp [secondOpens]))
  have two := Timestamp.elapsed_addSeconds secondOccurs seconds
  have three : (second.start.addSeconds seconds).elapsed leaps ≤ third.start.elapsed leaps :=
    Timestamp.elapsed_mono (secondOccurs.addSeconds seconds) follows
  have four : third.start.elapsed leaps ≤ later.now.elapsed leaps := by
    have ordered := timely.rest.rest.ordered
    apply Timestamp.elapsed_mono thirdOccurs
    rw [List.flatMap_cons, thirdOpens, List.cons_append] at late ordered
    rcases List.mem_cons.mp late with rfl | behind
    · exact Timestamp.le_refl _
    · exact (List.pairwise_cons.mp ordered).1 later behind
  omega

/-- One period lets no more pass within a span than it does at all. -/
theorem Timely.passedWithin_single {first : Period} {rest : List Period}
    (timely : Timely seconds limit leaps (first :: rest)) (opening nanoseconds : Int) :
    first.rulings.countP (Ruling.passedWithin leaps opening nanoseconds) ≤ limit := by
  refine Nat.le_trans (List.countP_mono_left fun ruling _ within => ?_)
    (timely.bounded first List.mem_cons_self)
  simp only [Ruling.passedWithin, Bool.and_eq_true] at within
  exact within.1.1

/-- A span that begins in one period ends before the next but one. -/
theorem Timely.passedWithin_next {first : Period} {rest : List Period}
    (timely : Timely seconds limit leaps (first :: rest)) {opening : Int} {early : Ruling}
    (member : early ∈ first.rulings)
    (within : early.passedWithin leaps opening (seconds * Timestamp.billion) = true) :
    (rest.flatMap Period.rulings).countP
      (Ruling.passedWithin leaps opening (seconds * Timestamp.billion)) ≤ limit := by
  cases rest with
  | nil => simp
  | cons second rest =>
    have single := timely.rest.passedWithin_single opening (seconds * Timestamp.billion)
    cases rest with
    | nil => simpa using single
    | cons third rest =>
      have beyond : ((third :: rest).flatMap Period.rulings).countP
          (Ruling.passedWithin leaps opening (seconds * Timestamp.billion)) = 0 := by
        rw [List.countP_eq_zero]
        intro late behind both
        have distance := timely.elapsed_between member behind
        simp only [Ruling.passedWithin, Bool.and_eq_true, decide_eq_true_eq] at within both
        omega
      rw [List.flatMap_cons, List.countP_append, beyond]
      exact single

/-- A span of the length of a window lets the requests of two periods pass at most. -/
theorem Timely.passedWithin_bound {periods : List Period}
    (timely : Timely seconds limit leaps periods) (opening : Int) :
    (periods.flatMap Period.rulings).countP
      (Ruling.passedWithin leaps opening (seconds * Timestamp.billion)) ≤ 2 * limit := by
  induction periods with
  | nil => simp
  | cons first rest inductionHypothesis =>
    rw [List.flatMap_cons, List.countP_append]
    have single := timely.passedWithin_single opening (seconds * Timestamp.billion)
    by_cases none : first.rulings.countP
        (Ruling.passedWithin leaps opening (seconds * Timestamp.billion)) = 0
    · have later := inductionHypothesis timely.rest
      omega
    · obtain ⟨early, member, within⟩ := List.countP_pos_iff.mp (Nat.pos_of_ne_zero none)
      have later := timely.passedWithin_next member within
      omega

end

end Period

namespace Gate

/-- These are the calls that a gate may get. -/
inductive Call where
  | register (webhook : Webhook)
  | unregister (webhookId : String)
  | check (webhookId : String) (rate : RateLimit) (now : Timestamp)
  | admission (webhookId : String) (tenantId : Uuid) (request : WebhookRequest)
  | reserve (tenantId : Uuid)
  | release (tenantId : Uuid)
  | limit (tenants : TenantRegistry)

def perform (gate : Gate) : Call → Gate
  | .register webhook => gate.registerWebhook webhook
  | .unregister webhookId => gate.unregisterWebhook webhookId
  | .check webhookId rate now => (gate.checkRateLimit webhookId rate now).2
  | .admission webhookId tenantId request => (gate.admission webhookId tenantId request).2
  | .reserve tenantId => (gate.reserve tenantId).2
  | .release tenantId => gate.release tenantId
  | .limit tenants => { gate with tenants := tenants }

/-- A call aside from a webhook neither counts a request of it nor removes it. -/
def Call.Aside (webhookId : String) : Call → Prop
  | .unregister other => other ≠ webhookId
  | .check other _ _ => other ≠ webhookId
  | .admission other _ _ => other ≠ webhookId
  | _ => True

/-- The rulings of a history are those on the requests for one webhook. -/
inductive History (webhookId : String) (rate : RateLimit) (start : Gate) : List Ruling → Gate → Prop
    where
  | start : History webhookId rate start [] start
  | aside {rulings : List Ruling} {gate : Gate} (history : History webhookId rate start rulings gate)
    {call : Call} (aside : call.Aside webhookId) :
    History webhookId rate start rulings (gate.perform call)
  | checked {rulings : List Ruling} {gate : Gate}
    (history : History webhookId rate start rulings gate) (now : Timestamp) :
    History webhookId rate start
      (rulings ++ [⟨now, (gate.checkRateLimit webhookId rate now).1.isOk⟩])
      (gate.perform (.check webhookId rate now))
  | admitted {rulings : List Ruling} {gate : Gate}
    (history : History webhookId rate start rulings gate) {webhook : Webhook}
    (known : gate.webhook? webhookId = some webhook) (rated : webhook.rateLimit = rate)
    (request : WebhookRequest) (accepted : webhook.auth.accepts request = true) :
    History webhookId rate start
      (rulings ++ [⟨request.receivedAt,
        (gate.checkRateLimit webhookId rate request.receivedAt).1.isOk⟩])
      (gate.perform (.admission webhookId webhook.tenantId request))

section

variable {gate : Gate} {webhookId : String} {rate : RateLimit} {now : Timestamp}

theorem reserve_window (gate : Gate) (tenantId : Uuid) (webhookId : String) :
    (gate.reserve tenantId).2.window? webhookId = gate.window? webhookId := by
  unfold reserve
  dsimp only
  split <;> rfl

theorem release_window (gate : Gate) (tenantId : Uuid) (webhookId : String) :
    (gate.release tenantId).window? webhookId = gate.window? webhookId := by
  unfold release removeIdle
  split <;> rfl

/-- The check of a request reaches the window of its webhook alone. -/
theorem checkRateLimit_other {other : String} (different : other ≠ webhookId) (rate : RateLimit)
    (now : Timestamp) :
    (gate.checkRateLimit other rate now).2.window? webhookId = gate.window? webhookId := by
  unfold checkRateLimit
  dsimp only
  split <;> exact Table.getInsertOther _ _ different

theorem checkRateLimit_window (gate : Gate) (webhookId : String) (rate : RateLimit)
    (now : Timestamp) : (gate.checkRateLimit webhookId rate now).1.isOk =
        decide ((gate.currentWindow webhookId rate now).count <
          (gate.currentWindow webhookId rate now).limit) ∧
      (gate.checkRateLimit webhookId rate now).2.window? webhookId =
        some { gate.currentWindow webhookId rate now with
          count := (gate.currentWindow webhookId rate now).count +
            if (gate.checkRateLimit webhookId rate now).1.isOk then 1 else 0 } := by
  unfold checkRateLimit
  dsimp only
  split
  · next full =>
    refine ⟨?_, ?_⟩
    · simp [Except.isOk, Except.toBool, UInt32.not_lt.mpr full]
    · simp [Except.isOk, Except.toBool, window?, Table.getInsertSame]
  · next room =>
    refine ⟨?_, ?_⟩
    · simp [Except.isOk, Except.toBool, UInt32.not_le.mp room]
    · simp [Except.isOk, Except.toBool, window?, Table.getInsertSame]

/-- An admission counts its request as a check by itself does. -/
theorem admission_window {webhook : Webhook} (known : gate.webhook? webhookId = some webhook)
    {request : WebhookRequest} (accepted : webhook.auth.accepts request = true) :
    (gate.admission webhookId webhook.tenantId request).2.window? webhookId =
      (gate.checkRateLimit webhookId webhook.rateLimit request.receivedAt).2.window? webhookId := by
  unfold admission
  simp only [known, ne_eq, not_true_eq_false, if_false, accepted, Bool.not_true,
    Bool.false_eq_true]
  split
  · next refused => rw [refused]
  · next passed checked =>
    rw [checked, ← reserve_window passed webhook.tenantId]
    split <;> · next reserved => rw [reserved]

/-- An admission to another webhook leaves the window. -/
theorem admission_other {other : String} (different : other ≠ webhookId) (tenantId : Uuid)
    (request : WebhookRequest) :
    (gate.admission other tenantId request).2.window? webhookId = gate.window? webhookId := by
  unfold admission
  split
  · rfl
  · next webhook known =>
    split
    · rfl
    · split
      · rfl
      · have checked := gate.checkRateLimit_other different webhook.rateLimit request.receivedAt
        split
        · next refused => rwa [refused] at checked
        · next passed answer =>
          rw [answer] at checked
          rw [← checked, ← reserve_window passed tenantId]
          split <;> · next reserved => rw [reserved]

theorem Call.Aside.window {call : Call} (aside : call.Aside webhookId) :
    (gate.perform call).window? webhookId = gate.window? webhookId := by
  cases call with
  | register webhook => rfl
  | unregister other => exact Table.getEraseOther _ aside
  | check other rate now => exact checkRateLimit_other aside rate now
  | admission other tenantId request => exact admission_other aside tenantId request
  | reserve tenantId => exact reserve_window gate tenantId webhookId
  | release tenantId => exact release_window gate tenantId webhookId
  | limit tenants => rfl

/-- The window of a gate shows the last period. -/
structure Tracks (gate : Gate) (webhookId : String) (rate : RateLimit) (periods : List Period) :
    Prop where
  window : gate.window? webhookId = periods.head?.map fun period =>
    ⟨period.start, .ofNat period.passed, rate.limit⟩
  bounded : ∀ period ∈ periods, period.passed ≤ rate.limit.toNat

section

variable {periods : List Period}

theorem Tracks.congr {after : Gate} (tracks : gate.Tracks webhookId rate periods)
    (same : after.window? webhookId = gate.window? webhookId) :
    after.Tracks webhookId rate periods :=
  ⟨same.trans tracks.window, tracks.bounded⟩

/-- A count that is bounded by the limit fits into its word. -/
theorem Tracks.fits (tracks : gate.Tracks webhookId rate periods) {period : Period}
    (member : period ∈ periods) : (UInt32.ofNat period.passed).toNat = period.passed := by
  have bounded := tracks.bounded period member
  have small := rate.limit.toNat_lt
  rw [UInt32.toNat_ofNat']
  exact Nat.mod_eq_of_lt (by omega)

/-- A request is counted in the current period, or in a new one. -/
theorem Tracks.currentWindow (tracks : gate.Tracks webhookId rate periods) (now : Timestamp) :
    gate.currentWindow webhookId rate now =
      match Period.current? rate.span now periods with
      | none => ⟨now, 0, rate.limit⟩
      | some period => ⟨period.start, .ofNat period.passed, rate.limit⟩ := by
  unfold Gate.currentWindow
  rw [tracks.window, windowSeconds_eq]
  cases periods with
  | nil => rfl
  | cons first rest =>
    by_cases elapsed : (first.start.addSeconds rate.span).le now = true
    · simp [Period.current?, Option.filter, Period.isOver, elapsed]
    · simp [Period.current?, Option.filter, Period.isOver, elapsed]

/-- A request passes if fewer than the limit have passed in the period in which it comes. -/
theorem Tracks.isOk (tracks : gate.Tracks webhookId rate periods) (now : Timestamp) :
    (gate.checkRateLimit webhookId rate now).1.isOk = true ↔
      (Period.current? rate.span now periods).elim 0 Period.passed <
        rate.limit.toNat := by
  rw [(checkRateLimit_window gate webhookId rate now).1, decide_eq_true_iff,
    UInt32.lt_iff_toNat_lt, tracks.currentWindow]
  cases current : Period.current? rate.span now periods with
  | none => rfl
  | some period =>
    have head := (Period.current_eq_some.mp current).1
    dsimp only [Option.elim]
    rw [tracks.fits (List.mem_of_head? head)]

theorem Tracks.next (tracks : gate.Tracks webhookId rate periods) (now : Timestamp) :
    (gate.checkRateLimit webhookId rate now).2.Tracks webhookId rate
      (Period.extend rate.span periods
        ⟨now, (gate.checkRateLimit webhookId rate now).1.isOk⟩) := by
  have window := (checkRateLimit_window gate webhookId rate now).2
  have passes := tracks.isOk now
  rw [tracks.currentWindow] at window
  generalize (gate.checkRateLimit webhookId rate now).1.isOk = passed at *
  unfold Period.extend
  cases current : Period.current? rate.span now periods with
  | none =>
    simp only [current, Option.elim] at window passes
    refine ⟨?_, ?_⟩
    · rw [window]
      cases passed <;> rfl
    · intro period member
      rcases List.mem_cons.mp member with rfl | earlier
      · cases passed with
        | false => exact Nat.zero_le _
        | true => exact passes.mp rfl
      · exact tracks.bounded period earlier
  | some last =>
    have head := (Period.current_eq_some.mp current).1
    have bounded := tracks.bounded last (List.mem_of_head? head)
    simp only [current, Option.elim] at window passes
    refine ⟨?_, ?_⟩
    · rw [window]
      cases passed <;> simp [Period.passed, UInt32.ofNat_add]
    · intro period member
      rcases List.mem_cons.mp member with rfl | earlier
      · cases passed with
        | false => simpa [Period.passed] using bounded
        | true => simpa [Period.passed, Nat.succ_le_iff] using passes.mp rfl
      · exact tracks.bounded period (List.mem_of_mem_tail earlier)

theorem History.tracks {start : Gate} {rulings : List Ruling}
    (fresh : start.window? webhookId = none)
    (history : History webhookId rate start rulings gate) :
    gate.Tracks webhookId rate (Period.ofRulings rate.span rulings) := by
  induction history with
  | start => exact ⟨fresh, by simp [Period.ofRulings]⟩
  | aside history aside inductionHypothesis => exact inductionHypothesis.congr aside.window
  | checked history now inductionHypothesis =>
    rw [Period.ofRulings_append]
    exact inductionHypothesis.next now
  | admitted history known rated request accepted inductionHypothesis =>
    subst rated
    rw [Period.ofRulings_append]
    exact (inductionHypothesis.next request.receivedAt).congr (admission_window known accepted)

/-- Each ruling was made by the gate as the history before had left it. -/
theorem History.upTo {start : Gate} {rulings earlier later : List Ruling} {ruling : Ruling}
    (history : History webhookId rate start rulings gate)
    (listed : rulings = earlier ++ ruling :: later) :
    ∃ before : Gate, History webhookId rate start earlier before ∧
      ruling.passed = (before.checkRateLimit webhookId rate ruling.now).1.isOk := by
  have last {rulings : List Ruling} {before : Gate} {now : Timestamp}
      (history : History webhookId rate start rulings before)
      (inductionHypothesis : ∀ {later : List Ruling}, rulings = earlier ++ ruling :: later →
        ∃ before : Gate, History webhookId rate start earlier before ∧
          ruling.passed = (before.checkRateLimit webhookId rate ruling.now).1.isOk)
      {later : List Ruling}
      (listed : rulings ++ [⟨now, (before.checkRateLimit webhookId rate now).1.isOk⟩] =
        earlier ++ ruling :: later) :
      ∃ before : Gate, History webhookId rate start earlier before ∧
        ruling.passed = (before.checkRateLimit webhookId rate ruling.now).1.isOk := by
    rcases List.eq_nil_or_concat later with rfl | ⟨front, final, rfl⟩
    · obtain ⟨rfl, same⟩ := List.append_inj' listed rfl
      cases same
      exact ⟨before, history, rfl⟩
    · rw [List.concat_eq_append, ← List.cons_append, ← List.append_assoc] at listed
      exact inductionHypothesis (List.append_inj' listed rfl).1
  induction history generalizing later with
  | start => simp at listed
  | aside history aside inductionHypothesis => exact inductionHypothesis listed
  | checked history now inductionHypothesis => exact last history inductionHypothesis listed
  | admitted history known rated request accepted inductionHypothesis =>
    exact last history inductionHypothesis listed

/-- A request is refused while a period stands that is used up. -/
theorem Tracks.refused (tracks : gate.Tracks webhookId rate periods) (now : Timestamp) :
    (gate.checkRateLimit webhookId rate now).1.isOk = false ↔
      (∃ period, periods.head? = some period ∧
        period.isOver rate.span now = false ∧ period.passed = rate.limit.toNat) ∨
      rate.limit = 0 := by
  have zero : rate.limit = 0 ↔ rate.limit.toNat = 0 := UInt32.toNat_inj.symm
  rw [← Bool.not_eq_true, tracks.isOk, zero]
  cases current : Period.current? rate.span now periods with
  | none =>
    have ended := Period.current_eq_none.mp current
    constructor
    · intro spent
      exact Or.inr (Nat.eq_zero_of_not_pos spent)
    · rintro (⟨period, head, stands, _⟩ | none)
      · simp [ended period head] at stands
      · simp [none]
  | some period =>
    obtain ⟨head, stands⟩ := Period.current_eq_some.mp current
    have bounded := tracks.bounded period (List.mem_of_head? head)
    dsimp only [Option.elim]
    constructor
    · intro spent
      exact Or.inl ⟨period, head, stands, by omega⟩
    · rintro (⟨other, own, _, spent⟩ | none)
      · rw [head, Option.some.injEq] at own
        subst own
        omega
      · omega

end

/-- A request is refused exactly if it comes while a window stands that is used up. -/
structure RateLimited (gate : Gate) (webhookId : String) (rate : RateLimit)
    (rulings : List Ruling) : Prop where
  counted : (gate.window? webhookId).map (fun window => (window.start, window.count.toNat)) =
    (Period.ofRulings rate.span rulings).head?.map
      fun period => (period.start, period.passed)
  bounded : ∀ period ∈ Period.ofRulings rate.span rulings,
    period.passed ≤ rate.limit.toNat
  spaced : (Period.ofRulings rate.span rulings).IsChain
    (Period.Follows rate.span)
  refused : ∀ earlier ruling later, rulings = earlier ++ ruling :: later →
    (ruling.passed = false ↔
      (∃ period, (Period.ofRulings rate.span earlier).head? = some period ∧
        period.isOver rate.span ruling.now = false ∧
        period.passed = rate.limit.toNat) ∨
      rate.limit = 0)
  dense : rulings.Pairwise (fun earlier later => earlier.now.le later.now = true) →
    ∀ leaps : List Int, (∀ ruling ∈ rulings, ruling.now.Occurs leaps) → ∀ opening : Int,
      rulings.countP (Ruling.passedWithin leaps opening
        (rate.span * Timestamp.billion)) ≤ 2 * rate.limit.toNat

end

/-- The limit of a rate rules over every history of a gate. -/
theorem rate_limited {start gate : Gate} {webhookId : String} {rate : RateLimit}
    {rulings : List Ruling} (fresh : start.window? webhookId = none)
    (history : History webhookId rate start rulings gate) :
    gate.RateLimited webhookId rate rulings := by
  have tracks := history.tracks fresh
  refine ⟨?_, tracks.bounded, Period.ofRulings_follow _ rulings, ?_, ?_⟩
  · rw [tracks.window, Option.map_map]
    cases listed : Period.ofRulings rate.span rulings with
    | nil => rfl
    | cons first rest =>
      have fits := tracks.fits (listed ▸ List.mem_cons_self)
      simp [fits]
  · intro earlier ruling later listed
    obtain ⟨before, history, answer⟩ := history.upTo listed
    rw [answer]
    exact (history.tracks fresh).refused ruling.now
  · intro ordered leaps occurs opening
    have together := Period.ofRulings_flatMap rate.span rulings
    have timely : Period.Timely rate.span rate.limit.toNat leaps
        (Period.ofRulings rate.span rulings).reverse := by
      refine ⟨List.isChain_reverse.mpr (Period.ofRulings_follow _ rulings),
        fun period member => Period.ofRulings_opens (List.mem_reverse.mp member),
        fun period member => tracks.bounded period (List.mem_reverse.mp member), ?_, ?_⟩
      · rwa [together]
      · rwa [together]
    have bound := timely.passedWithin_bound opening
    rwa [together] at bound

/-- The requests for a webhook come one after the other. -/
def requests (webhookId : String) (rate : RateLimit) (past : List Ruling × Gate)
    (times : List Timestamp) : List Ruling × Gate :=
  times.foldl (fun past now =>
    (past.1 ++ [⟨now, (past.2.checkRateLimit webhookId rate now).1.isOk⟩],
      past.2.perform (.check webhookId rate now))) past

theorem History.requests {start : Gate} {webhookId : String} {rate : RateLimit}
    {past : List Ruling × Gate} (history : History webhookId rate start past.1 past.2)
    (times : List Timestamp) : History webhookId rate start
      (requests webhookId rate past times).1 (requests webhookId rate past times).2 := by
  induction times generalizing past with
  | nil => exact history
  | cons now rest inductionHypothesis => exact inductionHypothesis (history.checked now)

def unused : Gate :=
  { tenants := ⟨.standard, []⟩ }

/-- The third request comes in the leap second before the minute is over. -/
def busy : List Ruling × Gate :=
  let past := requests "hook" ⟨2, 60⟩ ([], unused) [⟨0, 0⟩, ⟨59, 0⟩, ⟨59, 1200000000⟩]
  requests "hook" ⟨2, 60⟩ (past.1, past.2.perform (.register ⟨"hook", .nil, .unprotected, ⟨9, 1⟩⟩))
    [⟨60, 0⟩, ⟨61, 0⟩]

/-- The longest window is over after 4294967295 seconds. -/
def patient : List Ruling × Gate :=
  requests "hook" ⟨1, 18446744073709551615⟩ ([], unused)
    [⟨0, 0⟩, ⟨4294967294, 999999999⟩, ⟨4294967295, 0⟩]

theorem busy_rate_limited :
    busy.1.map Ruling.passed = [true, true, false, true, true] ∧
      busy.2.RateLimited "hook" ⟨2, 60⟩ busy.1 ∧
      patient.1.map Ruling.passed = [true, false, true] ∧
      patient.2.RateLimited "hook" ⟨1, 18446744073709551615⟩ patient.1 := by
  have morning := @History.requests unused "hook" ⟨2, 60⟩ ([], unused) .start
    [⟨0, 0⟩, ⟨59, 0⟩, ⟨59, 1200000000⟩]
  have renewed : History "hook" ⟨2, 60⟩ unused _
    (Gate.perform _ (.register ⟨"hook", .nil, .unprotected, ⟨9, 1⟩⟩)) := morning.aside trivial
  have history : History "hook" ⟨2, 60⟩ unused busy.1 busy.2 :=
    @History.requests unused "hook" ⟨2, 60⟩ (_, _) renewed [⟨60, 0⟩, ⟨61, 0⟩]
  have waiting : History "hook" ⟨1, 18446744073709551615⟩ unused patient.1 patient.2 :=
    @History.requests unused "hook" ⟨1, 18446744073709551615⟩ ([], unused) .start
      [⟨0, 0⟩, ⟨4294967294, 999999999⟩, ⟨4294967295, 0⟩]
  exact ⟨by decide +kernel, rate_limited rfl history, by decide +kernel, rate_limited rfl waiting⟩

end Gate

end WorkflowEngine
