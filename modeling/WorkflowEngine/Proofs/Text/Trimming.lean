/-
This file proves what is left of a text without the blanks at its ends, and without a given
beginning.
-/

import WorkflowEngine.Text.Blank
import Mathlib.Data.List.TakeWhile

namespace WorkflowEngine.Text

/-- A text is what is left of it between blanks. -/
theorem trim_between (text : List Char) : ∃ front back, text = front ++ trim text ++ back ∧
    (∀ c ∈ front, isBlank c = true) ∧ ∀ c ∈ back, isBlank c = true := by
  have tail := List.takeWhile_append_dropWhile
    (p := isBlank) (l := (text.dropWhile isBlank).reverse)
  have rest := congrArg List.reverse tail
  rw [List.reverse_append, List.reverse_reverse] at rest
  refine ⟨text.takeWhile isBlank, ((text.dropWhile isBlank).reverse.takeWhile isBlank).reverse,
    ?_, fun c => List.mem_takeWhile_imp, ?_⟩
  · rw [List.append_assoc, trim, rest, List.takeWhile_append_dropWhile]
  · intro c member
    exact List.mem_takeWhile_imp (List.mem_reverse.mp member)

theorem dropWhile_visible {text : List Char} (visible : ∀ c ∈ text, isBlank c = false)
    (rest : List Char) (some : text ≠ []) :
    (text ++ rest).dropWhile isBlank = text ++ rest := by
  cases text with
  | nil => exact absurd rfl some
  | cons first others =>
    rw [List.cons_append, List.dropWhile_cons, visible first List.mem_cons_self]
    rfl

/-- Blanks around a text without blanks are all that is removed. -/
theorem trim_surrounded {front core back : List Char} (before : ∀ c ∈ front, isBlank c = true)
    (visible : ∀ c ∈ core, isBlank c = false) (some : core ≠ [])
    (behind : ∀ c ∈ back, isBlank c = true) : trim (front ++ core ++ back) = core := by
  have reversed : ∀ c ∈ core.reverse, isBlank c = false := fun c member =>
    visible c (List.mem_reverse.mp member)
  have kept := dropWhile_visible reversed [] (mt List.reverse_eq_nil_iff.mp some)
  rw [List.append_nil] at kept
  rw [trim, List.append_assoc, List.dropWhile_append_of_pos before,
    dropWhile_visible visible back some, List.reverse_append,
    List.dropWhile_append_of_pos fun c member => behind c (List.mem_reverse.mp member), kept,
    List.reverse_reverse]

/-- What is left without a beginning is what stands behind it. -/
theorem withoutStart_eq_some_iff {start text rest : List Char} :
    withoutStart start text = some rest ↔ text = start ++ rest := by
  induction start generalizing text with
  | nil => simp [withoutStart]
  | cons expected start inductionHypothesis =>
    cases text with
    | nil => simp [withoutStart]
    | cons c text =>
      by_cases same : expected = c
      · simp [withoutStart, same, inductionHypothesis]
      · simp [withoutStart, same, Ne.symm same]

end WorkflowEngine.Text
