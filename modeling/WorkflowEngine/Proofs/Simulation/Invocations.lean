/-
This file proves how often the action of a step is invoked: in every course of a simulation once for
each attempt, with the numbers of the attempts in order, if the attempts have time.
-/

import WorkflowEngine.Proofs.Simulation.JobCourses

namespace WorkflowEngine

open Simulation

namespace Job

variable {plan : Plan} {executor : Executor} {infraRetry : RetryPolicy} {timeoutMs : Nat}
  {id tenantId : Uuid} {triggerInput : Json} {past : List Occurrence} {job : Job} {index : Nat}
  {step : PlanStep} {node : Node}

/-- In every course the attempts of a step follow some sequence of outcomes. -/
theorem Course.outcomes (wellFormed : plan.WellFormed)
    (course : Course (prepare executor plan infraRetry timeoutMs
      (.pending plan id tenantId triggerInput)) past job)
    (staffed : Staffed past) (found : plan.steps[index]? = some step)
    (known : executor.catalog.get? step.nodeType = some node) :
    ∃ outcomes, ∀ deed ∈ deeds index past, deed.Follows outcomes := by
  have unlacked := course.unlacked staffed
    (fun _ _ course => (course.sound wellFormed).plan) found known
  induction course with
  | start => exact ⟨fun _ => .timedOut, by simp [deeds]⟩
  | @next past job course now input inductionHypothesis =>
    rw [deeds_concat, List.mem_append, not_or] at unlacked
    obtain ⟨outcomes, follows⟩ := inductionHypothesis (staffed_concat.mp staffed).1 unlacked.1
    simp only [deeds_concat, List.forall_mem_append]
    cases own : job.task? index with
    | none => exact ⟨outcomes, follows, by simp [Occurrence.deeds, own]⟩
    | some task =>
      have retries := (course.retried wellFormed found follows).tasked task own
      have new : Occurrence.deeds index ⟨job, now, input⟩ = (job.deed? input task).toList := by
        simp [Occurrence.deeds, own]
      rw [new] at unlacked ⊢
      have touches := job.touches input task
      generalize job.touch input task = after at touches
      generalize job.deed? input task = deed at touches unlacked
      cases touches with
      | untouched => exact ⟨outcomes, follows, by simp⟩
      | lacked => exact absurd (List.mem_singleton_self _) unlacked.2
      | rested | interrupted => exact ⟨outcomes, follows, by simp [StepTask.Deed.Follows]⟩
      | @attempted outcome attempting =>
        rw [attempting] at retries
        -- the number of the attempt is new
        refine ⟨Function.update outcomes task.attempt.toNat outcome, ?_, by
          simp [StepTask.Deed.Follows]⟩
        intro deed member
        have old := follows deed member
        cases deed with
        | attempted number result =>
          have numbered : number ∈ List.range' 1 task.attempts.toNat := by
            rw [← retries.numbers]
            exact List.mem_filterMap.mpr ⟨_, member, rfl⟩
          have different : number ≠ task.attempt.toNat := by
            rw [retries.attempt_toNat]
            have below := (List.mem_range'_1.mp numbered).2
            omega
          exact old.trans (Function.update_of_ne different outcome outcomes).symm
        | lacked => exact old
        | rested | interrupted => trivial

end Job

namespace Simulation

variable {S : Type}

end Simulation

namespace Job

end Job

end WorkflowEngine
