/-
This file holds the states of executions and of their steps.
-/

import WorkflowEngine.Json.Record

namespace WorkflowEngine

open Json

inductive ExecutionStatus where
  | pending
  | running
  | succeeded
  | failed
  | cancelled
  deriving DecidableEq, Repr

inductive StepStatus where
  | pending
  | ready
  | running
  | succeeded
  | failed
  | skipped
  | cancelled
  deriving DecidableEq, Repr

/-- A status is its name, or an object whose only member is that name. -/
def Json.statusName? : Json → Option String
  | string name => some name
  | object [(name, null)] => some name
  | _ => none

namespace ExecutionStatus

def all : List ExecutionStatus := [pending, running, succeeded, failed, cancelled]

def name : ExecutionStatus → String
  | pending => "pending"
  | running => "running"
  | succeeded => "succeeded"
  | failed => "failed"
  | cancelled => "cancelled"

def ofName? (text : String) : Option ExecutionStatus :=
  all.find? fun status => status.name == text

/-- An execution in a terminal state has ended. -/
def isTerminal : ExecutionStatus → Bool
  | pending => false
  | running => false
  | succeeded => true
  | failed => true
  | cancelled => true

def unknownMessage (text : String) : String :=
  "unknown execution status: " ++ text

def decode? (value : Json) : Option ExecutionStatus :=
  (statusName? value).bind ofName?

/-- A state is a free value. -/
def format : Format ExecutionStatus := ⟨.free fun value => (decode? value).isSome, decode?⟩

def encode (status : ExecutionStatus) : Json :=
  string status.name

theorem ofNameName (status : ExecutionStatus) : ofName? status.name = some status := by
  cases status <;> decide

end ExecutionStatus

namespace StepStatus

def all : List StepStatus := [pending, ready, running, succeeded, failed, skipped, cancelled]

def name : StepStatus → String
  | pending => "pending"
  | ready => "ready"
  | running => "running"
  | succeeded => "succeeded"
  | failed => "failed"
  | skipped => "skipped"
  | cancelled => "cancelled"

def ofName? (text : String) : Option StepStatus :=
  all.find? fun status => status.name == text

/-- A settled step does not change any more. -/
def isSettled : StepStatus → Bool
  | pending => false
  | ready => false
  | running => false
  | succeeded => true
  | failed => true
  | skipped => true
  | cancelled => true

def unknownMessage (text : String) : String :=
  "unknown step status: " ++ text

def decode? (value : Json) : Option StepStatus :=
  (statusName? value).bind ofName?

/-- A state is a free value. -/
def format : Format StepStatus := ⟨.free fun value => (decode? value).isSome, decode?⟩

def encode (status : StepStatus) : Json :=
  string status.name

theorem ofNameName (status : StepStatus) : ofName? status.name = some status := by
  cases status <;> decide

end StepStatus

end WorkflowEngine
