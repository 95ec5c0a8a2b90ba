/-
This file holds the reference evaluation of a plan: its steps one after the other, each with its
retries, without a store, a clock or a second task.
-/

import WorkflowEngine.Proofs.Execution.Ledger
import WorkflowEngine.Proofs.Workflow.Backoff

namespace WorkflowEngine

/-- An attempt depends on its node, parameters, input and number only. -/
abbrev Behaviour := String → Json → Json → UInt32 → AttemptOutcome

/-- So many further attempts may follow. -/
def StepOutcome.ofAttempts (act : UInt32 → AttemptOutcome) : Nat → UInt32 → StepOutcome
  | 0, attempt =>
    match (act attempt).result with
    | .ok output => ⟨.succeeded, attempt, some output, none⟩
    | .error failure => ⟨.failed, attempt, none, some failure.message⟩
  | left + 1, attempt =>
    match (act attempt).result with
    | .ok output => ⟨.succeeded, attempt, some output, none⟩
    | .error failure =>
      if failure.retryable then ofAttempts act left (attempt + 1)
      else ⟨.failed, attempt, none, some failure.message⟩

namespace Predecessor

def read (outputs : Nat → Json) (predecessor : Predecessor) : Json :=
  match predecessor.outputSlot with
  | some slot => ((outputs predecessor.index).get? slot).getD .null
  | none => outputs predecessor.index

end Predecessor

namespace PlanStep

/-- The input of a step is made of the outputs of others. -/
def feed (step : PlanStep) (triggerInput : Json) (outputs : Nat → Json) : Json :=
  match step.predecessors with
  | [] => triggerInput
  | [predecessor] => predecessor.read outputs
  | several => Json.ofMembers (several.map fun predecessor =>
      (predecessor.nodeId, predecessor.read outputs))

def act (step : PlanStep) (behaviour : Behaviour) (input : Json) (attempt : UInt32) :
    AttemptOutcome :=
  behaviour step.nodeType step.parameters input attempt

def perform (step : PlanStep) (behaviour : Behaviour) (input : Json) : StepOutcome :=
  .ofAttempts (step.act behaviour input) (step.retry.limit - 1) 1

end PlanStep

/-- A step without an output gives null. -/
def outputs (outcomes : List StepOutcome) (index : Nat) : Json :=
  ((outcomes[index]?).bind StepOutcome.output).getD .null

namespace Plan

def evaluateStep (behaviour : Behaviour) (triggerInput : Json) (earlier : List StepOutcome)
    (step : PlanStep) : List StepOutcome :=
  earlier ++ [step.perform behaviour (step.feed triggerInput (outputs earlier))]

/-- The reference performs the steps one by one in the order of the plan. -/
def reference (plan : Plan) (behaviour : Behaviour) (triggerInput : Json) : List StepOutcome :=
  plan.steps.foldl (evaluateStep behaviour triggerInput) []

end Plan

section

variable {behaviour : Behaviour} {triggerInput : Json}

/-- The input of a step depends only on the outputs of its dependencies. -/
theorem PlanStep.feed_congr {step : PlanStep} {left right : Nat → Json}
    (same : ∀ predecessor ∈ step.predecessors,
      left predecessor.index = right predecessor.index) :
    step.feed triggerInput left = step.feed triggerInput right := by
  have read : ∀ predecessor ∈ step.predecessors,
      predecessor.read left = predecessor.read right := by
    intro predecessor member
    unfold Predecessor.read
    rw [same predecessor member]
  unfold feed
  split
  · rfl
  · next predecessor alone => exact read predecessor (by simp [alone])
  · congr 1
    apply List.map_congr_left
    intro predecessor member
    rw [read predecessor member]

theorem evaluate_extends (steps : List PlanStep) (earlier : List StepOutcome) :
    earlier <+: steps.foldl (Plan.evaluateStep behaviour triggerInput) earlier := by
  induction steps generalizing earlier with
  | nil => exact List.prefix_refl earlier
  | cons first rest inductionHypothesis =>
    exact (List.prefix_append earlier _).trans (inductionHypothesis _)

theorem evaluate_length (steps : List PlanStep) (earlier : List StepOutcome) :
    (steps.foldl (Plan.evaluateStep behaviour triggerInput) earlier).length =
      earlier.length + steps.length := by
  induction steps generalizing earlier with
  | nil => rfl
  | cons first rest inductionHypothesis =>
    rw [List.foldl_cons, inductionHypothesis]
    simp [Plan.evaluateStep]
    omega

/-- Each step is performed on the outcomes of those before it. -/
theorem evaluate_get {steps : List PlanStep} {earlier : List StepOutcome} {index : Nat}
    {step : PlanStep} (found : steps[index]? = some step) :
    (steps.foldl (Plan.evaluateStep behaviour triggerInput) earlier)[earlier.length + index]? =
      some (step.perform behaviour (step.feed triggerInput (outputs
        ((steps.foldl (Plan.evaluateStep behaviour triggerInput) earlier).take
          (earlier.length + index))))) := by
  induction steps generalizing earlier index with
  | nil => simp at found
  | cons first rest inductionHypothesis =>
    cases index with
    | zero =>
      simp only [List.getElem?_cons_zero, Option.some.injEq] at found
      subst found
      obtain ⟨later, whole⟩ := @evaluate_extends behaviour triggerInput rest
        (Plan.evaluateStep behaviour triggerInput earlier first)
      rw [List.foldl_cons, ← whole]
      simp [Plan.evaluateStep]
    | succ index =>
      have later := @inductionHypothesis (Plan.evaluateStep behaviour triggerInput earlier first)
        index (by simpa using found)
      have length : (Plan.evaluateStep behaviour triggerInput earlier first).length =
          earlier.length + 1 := by simp [Plan.evaluateStep]
      rw [length, show earlier.length + 1 + index = earlier.length + (index + 1) by omega] at later
      exact later

theorem Plan.reference_length (plan : Plan) :
    (plan.reference behaviour triggerInput).length = plan.steps.length := by
  rw [reference, evaluate_length, List.length_nil, Nat.zero_add]

/-- The outcome of a step comes from the outcomes that its input is read from. -/
theorem Plan.reference_get {plan : Plan} (wellFormed : plan.WellFormed) {index : Nat}
    {step : PlanStep} (found : plan.steps[index]? = some step) :
    (plan.reference behaviour triggerInput)[index]? = some (step.perform behaviour
      (step.feed triggerInput (outputs (plan.reference behaviour triggerInput)))) := by
  have performed := @evaluate_get behaviour triggerInput _ [] _ _ found
  rw [List.length_nil, Nat.zero_add] at performed
  rw [reference, performed]
  congr 2
  apply PlanStep.feed_congr
  intro predecessor member
  have earlier := wellFormed.backward found predecessor member
  simp [outputs, earlier]

end

end WorkflowEngine
