/-
This file proves that an identifier is read back from its text: the digits of fixed width are those
of its number, and the hyphens between them are taken out again.
-/

import WorkflowEngine.Uuid
import Mathlib.Algebra.Group.Nat.Defs
import Mathlib.Data.List.TakeDrop

namespace WorkflowEngine

open Text

namespace Text.Hexadecimal

theorem value?_digit {value : Nat} (small : value < 16) : value? (digit value) = some value := by
  have each : ∀ value < 16, value? (digit value) = some value := by decide
  exact each value small

theorem digit_letter {value : Nat} (small : value < 16) :
    digit value ≠ '-' ∧ digit value ≠ '\x7b' ∧ lowerAsciiChar (digit value) ≠ 'u' := by
  have each : ∀ value < 16,
      digit value ≠ '-' ∧ digit value ≠ '\x7b' ∧ lowerAsciiChar (digit value) ≠ 'u' := by decide
  exact each value small

theorem length_fixedWidth (count value : Nat) : (fixedWidth count value).length = count := by
  induction count generalizing value with
  | zero => rfl
  | succ count inductionHypothesis =>
    rw [fixedWidth, List.length_append, inductionHypothesis]
    rfl

/-- Every character of a written number is a digit. -/
theorem mem_fixedWidth {count value : Nat} {c : Char} (member : c ∈ fixedWidth count value) :
    ∃ place < 16, c = digit place := by
  induction count generalizing value with
  | zero => cases member
  | succ count inductionHypothesis =>
    rcases List.mem_append.mp member with earlier | last
    · exact inductionHypothesis earlier
    · exact ⟨value % 16, Nat.mod_lt value (by decide), List.mem_singleton.mp last⟩

/-- A number is read back from its lowest digits, if they are all. -/
theorem number?_fixedWidth (count value : Nat) :
    number? (fixedWidth count value) = some (value % 16 ^ count) := by
  induction count generalizing value with
  | zero =>
    rw [Nat.pow_zero, Nat.mod_one]
    rfl
  | succ count inductionHypothesis =>
    have earlier := inductionHypothesis (value / 16)
    unfold number? at earlier ⊢
    rw [fixedWidth, List.foldl_append, earlier, List.foldl_cons, List.foldl_nil,
      value?_digit (Nat.mod_lt value (by decide)), Nat.pow_succ', Nat.mod_mul]
    dsimp only
    congr 1
    omega

end Text.Hexadecimal

namespace Uuid

open Hexadecimal

/-- The digits of an identifier stand between the hyphens. -/
theorem filter_hyphenate {digits : List Char} (plain : ∀ c ∈ digits, c ≠ '-') :
    (hyphenate digits).filter (fun c => c != '-') = digits := by
  have kept (part : List Char) (within : ∀ c ∈ part, c ∈ digits) :
      part.filter (fun c => c != '-') = part :=
    List.filter_eq_self.mpr fun c member => by simpa using plain c (within c member)
  have joined (start count : Nat) :
      (digits.drop start).take count ++ digits.drop (start + count) = digits.drop start := by
    rw [← List.drop_drop, List.take_append_drop]
  unfold hyphenate
  simp only [List.filter_append, List.filter_cons, bne_self_eq_false, Bool.false_eq_true, if_false,
    List.append_assoc]
  rw [kept _ fun c member => List.mem_of_mem_take member,
    kept _ fun c member => List.mem_of_mem_drop (List.mem_of_mem_take member),
    kept _ fun c member => List.mem_of_mem_drop (List.mem_of_mem_take member),
    kept _ fun c member => List.mem_of_mem_drop (List.mem_of_mem_take member),
    kept _ fun c member => List.mem_of_mem_drop member, joined 16 4, joined 12 4, joined 8 4,
    List.take_append_drop]

/-- A text that begins with a digit is not wrapped. -/
theorem unwrap_digit {value : Nat} (small : value < 16) (rest : List Char) :
    unwrap (digit value :: rest) = (.bare, digit value :: rest) := by
  obtain ⟨-, brace, letter⟩ := digit_letter small
  have other : ((digit value :: rest).take resourceStart.length).map lowerAsciiChar ≠
      resourceStart := by
    intro same
    exact letter (List.cons.inj same).1
  unfold unwrap
  rw [if_neg other]
  split
  · next shape => exact absurd (List.cons.inj shape).1 brace
  · rfl

/-- An identifier is read back from its text. -/
theorem ofText?_text (id : Uuid) : ofText? id.text = some id := by
  have length := length_fixedWidth 32 id.value.toNat
  have plain : ∀ c ∈ fixedWidth 32 id.value.toNat, c ≠ '-' := by
    intro c member
    obtain ⟨place, small, rfl⟩ := mem_fixedWidth member
    exact (digit_letter small).1
  have number := number?_fixedWidth 32 id.value.toNat
  have text : id.text.toList = hyphenate (fixedWidth 32 id.value.toNat) := String.toList_ofList
  have whole : id.value.toNat % 16 ^ 32 = id.value.toNat := Nat.mod_eq_of_lt id.value.isLt
  have bare : unwrap (hyphenate (fixedWidth 32 id.value.toNat)) =
      (.bare, hyphenate (fixedWidth 32 id.value.toNat)) := by
    cases shape : fixedWidth 32 id.value.toNat with
    | nil =>
      rw [shape] at length
      cases length
    | cons first others =>
      obtain ⟨place, small, rfl⟩ := mem_fixedWidth (shape ▸ List.mem_cons_self)
      exact unwrap_digit small _
  have hyphenated : (hyphenate (fixedWidth 32 id.value.toNat)).length ≠ 32 := by
    simp [hyphenate, length]
  have digits : withoutHyphens? (hyphenate (fixedWidth 32 id.value.toNat)) =
      some (fixedWidth 32 id.value.toNat) := by
    unfold withoutHyphens?
    rw [filter_hyphenate plain]
    exact if_pos rfl
  unfold ofText? parse?
  rw [text, bare]
  dsimp only
  rw [if_neg hyphenated, ofHyphenated?, digits, Option.bind_some, ofDigits?, if_pos length, number,
    whole, Option.map_some, BitVec.ofNat_toNat, BitVec.setWidth_eq]

end Uuid

end WorkflowEngine
