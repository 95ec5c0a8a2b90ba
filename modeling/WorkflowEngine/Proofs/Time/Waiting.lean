/-
This file adds a duration to a timestamp, and proves when the time that is told from one timestamp
to a later one leads there. A leap second in between is overlooked at the end of a day.
-/

import WorkflowEngine.Proofs.Time.Elapsed

namespace WorkflowEngine.Time

namespace Duration

/-- The seconds that a duration is rounded up to are the fewest that are not shorter. -/
theorem secondsRoundedUp_least (wait : Duration) (count : Nat) :
    wait.secondsRoundedUp ≤ count ↔ wait.nanoseconds ≤ (ofSeconds count).nanoseconds := by
  unfold secondsRoundedUp
  show wait.nanoseconds / 1000000000 + (if 0 < wait.nanoseconds % 1000000000 then 1 else 0) ≤
    count ↔ wait.nanoseconds ≤ count * 1000000000
  split <;> omega

end Duration

namespace Timestamp

/-- A proper timestamp lies less than two seconds behind the start of its second. -/
def Proper (time : Timestamp) : Prop :=
  time.fraction < 2 * billion

/-- A timestamp is ordinary outside leap seconds. -/
def Ordinary (time : Timestamp) : Prop :=
  time.fraction < billion

/-- A timestamp inside a leap second stays there as long as the duration allows. -/
def plus (time : Timestamp) (wait : Duration) : Timestamp :=
  if billion ≤ time.fraction ∧ time.fraction + wait.nanoseconds < 2 * billion then
    ⟨time.seconds, time.fraction + wait.nanoseconds⟩
  else
    let total := time.fraction % billion + wait.nanoseconds
    ⟨time.seconds + total / billion, total % billion⟩

theorem le_trans {first second third : Timestamp} (one : first.le second = true)
    (two : second.le third = true) : first.le third = true := by
  rw [le_iff] at one two ⊢
  omega

theorem le_antisymm {first second : Timestamp} (one : first.le second = true)
    (two : second.le first = true) : first = second := by
  rw [le_iff] at one two
  obtain ⟨seconds, fraction⟩ := first
  obtain ⟨otherSeconds, otherFraction⟩ := second
  dsimp only at one two
  rw [mk.injEq]
  omega

theorem le_of_not_le {first second : Timestamp} (later : first.le second = false) :
    second.le first = true := by
  rw [Bool.eq_false_iff, ne_eq, le_iff] at later
  rw [le_iff]
  omega

/-- Whoever waits longer comes no earlier. -/
theorem plus_mono {time : Timestamp} (proper : time.Proper) {wait longer : Duration}
    (ordered : wait.nanoseconds ≤ longer.nanoseconds) :
    (time.plus wait).le (time.plus longer) = true := by
  rw [le_iff]
  unfold plus
  split <;> split <;> simp only [Proper, billion, true_and, Int.lt_irrefl, false_or] at * <;> omega

theorem addSeconds_proper {time : Timestamp} (proper : time.Proper) (count : Nat) :
    (time.addSeconds count).Proper := by
  unfold addSeconds
  split
  · exact proper
  · show time.fraction % billion < 2 * billion
    simp only [billion]
    omega

/-- The time to a later timestamp is told exactly in these three cases. -/
inductive Reckons (now later : Timestamp) : Prop where
  | ordinary (early : now.Ordinary) (late : later.Ordinary)
  | leaving (early : ¬now.Ordinary) (late : later.Ordinary)
    (ascends : now.secondOfDay < later.secondOfDay)
  | within (early : ¬now.Ordinary) (late : ¬later.Ordinary) (same : now.seconds = later.seconds)

section

variable {now later : Timestamp}

theorem leapBetween_ordinary (early : now.Ordinary) (late : later.Ordinary) :
    leapBetween later now = 0 := by
  unfold Ordinary at early late
  simp [leapBetween, Nat.not_le.mpr early, Nat.not_le.mpr late]

/-- A leap second is counted for a later time of day only. -/
theorem leapBetween_leaving (early : ¬now.Ordinary) (late : later.Ordinary) :
    leapBetween later now = if now.secondOfDay < later.secondOfDay then 1 else 0 := by
  unfold Ordinary at early late
  simp [leapBetween, Nat.not_lt.mp early, Nat.not_le.mpr late]

theorem leapBetween_within (same : now.seconds = later.seconds) : leapBetween later now = 0 := by
  simp [leapBetween, secondOfDay, same]

theorem plus_within {time : Timestamp} (leap : ¬time.Ordinary) {wait : Duration}
    (short : time.fraction + wait.nanoseconds < 2 * billion) :
    time.plus wait = ⟨time.seconds, time.fraction + wait.nanoseconds⟩ :=
  if_pos ⟨Nat.not_lt.mp leap, short⟩

/-- A wait that does not end in a leap second ends at an ordinary time. -/
theorem plus_beyond {time : Timestamp} {wait : Duration}
    (long : ¬(¬time.Ordinary ∧ time.fraction + wait.nanoseconds < 2 * billion)) :
    time.plus wait = ⟨time.seconds + ↑((time.fraction % billion + wait.nanoseconds) / billion),
      (time.fraction % billion + wait.nanoseconds) % billion⟩ := by
  unfold Ordinary at long
  exact if_neg (by omega)

/-- Where the two reckon, the time that is told leads to the later timestamp. -/
theorem Reckons.plus_durationSince (reckons : now.Reckons later) (proper : now.Proper)
    (bounded : later.Proper) (after : later.le now = false) :
    now.plus (later.durationSince now) = later := by
  rw [Bool.eq_false_iff, ne_eq, le_iff] at after
  obtain ⟨seconds, fraction⟩ := later
  cases reckons with
  | ordinary early late =>
    rw [plus_beyond (by tauto)]
    simp only [durationSince, since, leapBetween_ordinary early late]
    simp only [Proper, Ordinary, billion, mk.injEq] at *
    omega
  | leaving early late ascends =>
    have counted := leapBetween_leaving early late
    rw [if_pos ascends] at counted
    rw [plus_beyond]
    all_goals
      simp only [durationSince, since, counted]
      simp only [Proper, Ordinary, billion, mk.injEq] at *
      omega
  | within early late same =>
    have counted := leapBetween_within same
    rw [plus_within early]
    all_goals
      simp only [durationSince, since, counted]
      simp only [Proper, Ordinary, billion, mk.injEq] at *
      omega

/-- Elsewhere it misses it. -/
theorem reckons_of_plus (proper : now.Proper)
    (arrives : now.plus (later.durationSince now) = later) : now.Reckons later := by
  by_cases stays : ¬now.Ordinary ∧
      now.fraction + (later.durationSince now).nanoseconds < 2 * billion
  · obtain ⟨early, short⟩ := stays
    rw [plus_within early short] at arrives
    have same : now.seconds = later.seconds := by rw [← arrives]
    have sum : now.fraction + (later.durationSince now).nanoseconds = later.fraction :=
      congrArg Timestamp.fraction arrives
    apply Reckons.within early _ same
    unfold Ordinary at early ⊢
    omega
  · rw [plus_beyond stays] at arrives
    have remainder : (now.fraction % billion + (later.durationSince now).nanoseconds) % billion =
        later.fraction := congrArg fraction arrives
    have late : later.Ordinary := by
      rw [Ordinary, ← remainder]
      exact Nat.mod_lt _ (by decide)
    by_cases early : now.Ordinary
    · exact .ordinary early late
    · apply Reckons.leaving early late
      by_contra descends
      have counted := leapBetween_leaving early late
      rw [if_neg descends] at counted
      have reached := congrArg seconds arrives
      simp only [durationSince, since, counted] at *
      simp only [Proper, Ordinary, billion] at *
      omega

/-- The time that is told leads to the later timestamp exactly if the two reckon. -/
theorem plus_durationSince (proper : now.Proper) (bounded : later.Proper)
    (after : later.le now = false) :
    now.plus (later.durationSince now) = later ↔ now.Reckons later :=
  ⟨reckons_of_plus proper, fun reckons => reckons.plus_durationSince proper bounded after⟩

end

end Timestamp

end WorkflowEngine.Time
