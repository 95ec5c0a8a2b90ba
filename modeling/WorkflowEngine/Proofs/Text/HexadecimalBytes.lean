/-
This file proves which texts are read as which bytes: those that, put into lower case, are what is
written for the bytes.
-/

import WorkflowEngine.Proofs.Text.WrittenUuids

namespace WorkflowEngine.Text.Hexadecimal

/-- A hexadecimal digit may be of either case. -/
def IsDigit (c : Char) : Prop :=
  '0' ≤ c ∧ c ≤ '9' ∨ 'a' ≤ c ∧ c ≤ 'f' ∨ 'A' ≤ c ∧ c ≤ 'F'

theorem value?_isSome {c : Char} : (value? c).isSome = true ↔ IsDigit c := by
  unfold value? IsDigit
  split
  · next decimal => simp [decimal]
  · next other =>
    split
    · next lower => simp [lower]
    · next neither => split <;> simp_all

/-- Whatever has a value is an ASCII character, and so is what changes its case. -/
theorem ascii_digit : ∀ code < 128,
    value? (lowerAsciiChar (Char.ofNat code)) = value? (Char.ofNat code) ∧
      ∀ value ∈ value? (Char.ofNat code),
        value < 16 ∧ lowerAsciiChar (Char.ofNat code) = digit value := by
  decide

/-- A character up to an ASCII character is one itself. -/
theorem ascii_of_le {c last : Char} (bound : c ≤ last) (ascii : last.toNat < 128) :
    c.toNat < 128 := by
  have ordered : c.toNat ≤ last.toNat := UInt32.le_iff_toNat_le.mp (Char.le_def.mp bound)
  omega

theorem IsDigit.ascii {c : Char} (digit : IsDigit c) : c.toNat < 128 := by
  rcases digit with decimal | lower | upper
  · exact ascii_of_le decimal.2 (by decide)
  · exact ascii_of_le lower.2 (by decide)
  · exact ascii_of_le upper.2 (by decide)

theorem IsDigit.visible {c : Char} (digit : IsDigit c) : isBlank c = false := by
  have each : ∀ code < 128, (value? (Char.ofNat code)).isSome = true →
      isBlank (Char.ofNat code) = false := by decide
  have own := each c.toNat digit.ascii
  rw [Char.ofNat_toNat] at own
  exact own (value?_isSome.mpr digit)

/-- The case of a digit does not change its value. -/
theorem value?_lowerAsciiChar (c : Char) : value? (lowerAsciiChar c) = value? c := by
  by_cases upper : 'A' ≤ c ∧ c ≤ 'Z'
  · have same := (ascii_digit c.toNat (ascii_of_le upper.2 (by decide))).1
    rwa [Char.ofNat_toNat] at same
  · rw [lowerAsciiChar, if_neg upper]

/-- A digit has a value if that is what its lower case is written for. -/
theorem value?_eq_some_iff {c : Char} {value : Nat} :
    value? c = some value ↔ value < 16 ∧ lowerAsciiChar c = digit value := by
  constructor
  · intro read
    have digit := value?_isSome.mp (Option.isSome_of_eq_some read)
    have written := (ascii_digit c.toNat digit.ascii).2 value
    rw [Char.ofNat_toNat] at written
    exact written read
  · rintro ⟨small, same⟩
    rw [← value?_lowerAsciiChar, same, value?_digit small]

theorem length_encode (bytes : List UInt8) : (encode bytes).length = 2 * bytes.length := by
  induction bytes with
  | nil => rfl
  | cons byte rest inductionHypothesis =>
    simp only [encode, List.length_cons, inductionHypothesis]
    omega

/-- A byte is read from the digits of its two halves. -/
theorem decode?_cons {high low : Char} {text : List Char} {byte : UInt8} {rest : List UInt8} :
    decode? (high :: low :: text) = some (byte :: rest) ↔
      value? high = some (byte.toNat / 16) ∧ value? low = some (byte.toNat % 16) ∧
        decode? text = some rest := by
  have bound := byte.toNat_lt
  rw [decode?]
  constructor
  · intro read
    split at read
    · next first second others one two remaining =>
      obtain ⟨rfl, rfl⟩ := List.cons.inj (Option.some.inj read)
      have upper := (value?_eq_some_iff.mp one).1
      have lower := (value?_eq_some_iff.mp two).1
      have whole : (UInt8.ofNat (first * 16 + second)).toNat = first * 16 + second :=
        UInt8.toNat_ofNat_of_lt' (by change _ < 256; omega)
      have quotient : (first * 16 + second) / 16 = first := by omega
      have remainder : (first * 16 + second) % 16 = second := by omega
      rw [whole, quotient, remainder]
      exact ⟨one, two, remaining⟩
    · cases read
  · rintro ⟨one, two, remaining⟩
    have whole : byte.toNat / 16 * 16 + byte.toNat % 16 = byte.toNat := by omega
    simp only [one, two, remaining, whole, UInt8.ofNat_toNat]

/-- No text but the empty one is read as no bytes. -/
theorem decode?_eq_nil {text : List Char} : decode? text = some [] ↔ text = [] := by
  match text with
  | [] => simp [decode?]
  | [_] => simp [decode?]
  | high :: low :: rest =>
    unfold decode?
    split <;> simp

/-- A text is read as the bytes for which its lower case is written. -/
theorem decode?_eq_some_iff {text : List Char} {bytes : List UInt8} :
    decode? text = some bytes ↔ text.map lowerAsciiChar = encode bytes := by
  induction bytes generalizing text with
  | nil => rw [decode?_eq_nil, encode, List.map_eq_nil_iff]
  | cons byte rest inductionHypothesis =>
    have bound := byte.toNat_lt
    match text with
    | [] => simp [decode?, encode]
    | [_] => simp [decode?, encode]
    | high :: low :: text =>
      have upper : byte.toNat / 16 < 16 := by omega
      have lower : byte.toNat % 16 < 16 := by omega
      simp only [decode?_cons, value?_eq_some_iff, upper, lower, true_and, inductionHypothesis,
        List.map_cons, encode, List.cons.injEq]

theorem decode?_encode (bytes : List UInt8) : decode? (encode bytes) = some bytes := by
  induction bytes with
  | nil => rfl
  | cons byte rest inductionHypothesis =>
    have bound := byte.toNat_lt
    exact decode?_cons.mpr ⟨value?_digit (by omega), value?_digit (by omega), inductionHypothesis⟩

/-- Only digits are read. -/
theorem isDigit_of_decode? {text : List Char} {bytes : List UInt8}
    (read : decode? text = some bytes) : ∀ c ∈ text, IsDigit c := by
  induction bytes generalizing text with
  | nil =>
    rw [decode?_eq_nil.mp read]
    simp
  | cons byte rest inductionHypothesis =>
    match text with
    | [] => simp
    | [_] => simp [decode?] at read
    | high :: low :: text =>
      obtain ⟨one, two, remaining⟩ := decode?_cons.mp read
      intro c member
      rcases List.mem_cons.mp member with rfl | member
      · exact value?_isSome.mp (Option.isSome_of_eq_some one)
      · rcases List.mem_cons.mp member with rfl | member
        · exact value?_isSome.mp (Option.isSome_of_eq_some two)
        · exact inductionHypothesis remaining c member

end WorkflowEngine.Text.Hexadecimal
