/-
This file holds the store over the tables of the database. Records are laid out in rows, and the
step records of a loaded execution stand in the order of its plan.
-/

import WorkflowEngine.Store.Basic
import WorkflowEngine.Store.Database

namespace WorkflowEngine

open Time

namespace Execution

def toRow (execution : Execution) : ExecutionRow :=
  { id := execution.id
    workflowId := execution.workflowId
    workflowVersion := Int32.ofNat execution.workflowVersion.toNat
    tenantId := execution.tenantId
    status := execution.status.name
    triggerInput := execution.triggerInput
    stepOrder := execution.steps.map StepRecord.nodeId
    failure := execution.failure.map FailureReason.encode
    startedAt := execution.startedAt
    finishedAt := execution.finishedAt }

end Execution

namespace StepRecord

def toRow (executionId : Uuid) (step : StepRecord) : NodeRow :=
  { executionId := executionId
    nodeId := step.nodeId
    status := step.status.name
    attempt := Int32.ofNat step.attempt.toNat
    output := step.output
    error := step.error
    startedAt := step.startedAt
    finishedAt := step.finishedAt }

/-- A negative number of attempts counts as zero. -/
def ofRow (row : NodeRow) : Except StoreError StepRecord :=
  match StepStatus.ofName? row.status with
  | none => .error (.corrupt (StepStatus.unknownMessage row.status))
  | some status => .ok {
      nodeId := row.nodeId
      status := status
      attempt := UInt32.ofNat row.attempt.toInt.toNat
      output := row.output
      error := row.error
      startedAt := row.startedAt
      finishedAt := row.finishedAt }

/-- Records outside the order follow by identifier. -/
def inPlanOrder : List String → List StepRecord → List StepRecord
  | [], saved => saved.mergeSort fun left right => left.nodeId ≤ right.nodeId
  | nodeId :: order, saved =>
    (saved.find? fun step => step.nodeId == nodeId).getD (.pending nodeId) ::
      inPlanOrder order (saved.filter fun step => step.nodeId != nodeId)

end StepRecord

namespace Execution

def failureOfColumn : Option Json → Except StoreError (Option FailureReason)
  | none => .ok none
  | some value =>
    match FailureReason.decode? value with
    | some reason => .ok (some reason)
    | none => .error .serialization

/-- A negative version counts as zero. -/
def ofRows (row : ExecutionRow) (nodes : List NodeRow) : Except StoreError Execution := do
  let saved ← nodes.mapM StepRecord.ofRow
  match ExecutionStatus.ofName? row.status with
  | none => .error (.corrupt (ExecutionStatus.unknownMessage row.status))
  | some status =>
    let failure ← failureOfColumn row.failure
    .ok {
      id := row.id
      tenantId := row.tenantId
      workflowId := row.workflowId
      workflowVersion := UInt32.ofNat row.workflowVersion.toInt.toNat
      status := status
      triggerInput := row.triggerInput
      failure := failure
      startedAt := row.startedAt
      finishedAt := row.finishedAt
      steps := StepRecord.inPlanOrder row.stepOrder saved }

end Execution

namespace Definition

/-- Identity and version are those of the row, and the version is at least one. -/
def ofRow (now : Timestamp) (row : WorkflowRow) : Except StoreError Definition :=
  match Definition.decode? now row.definition with
  | none => .error .serialization
  | some definition => .ok { definition with
      id := row.id, version := UInt32.ofNat (max row.version.toInt 1).toNat }

end Definition

namespace Database

def lookupError (subject : String) : DatabaseError → StoreError
  | .rowNotFound => .notFound subject
  | .server detail => .database (.server detail)

def loadDefinition (now : Timestamp) (workflowId : Uuid) (database : Database) :
    Except StoreError Definition × Database :=
  match getWorkflow workflowId database with
  | (.error error, database) =>
    (.error (lookupError ("workflow " ++ workflowId.text) error), database)
  | (.ok row, database) => (Definition.ofRow now row, database)

def saveExecution (execution : Execution) (database : Database) :
    Except StoreError Unit × Database :=
  let (outcome, database) := upsertExecution execution.toRow database
  (outcome.mapError .database, database)

def saveStep (executionId : Uuid) (step : StepRecord) (database : Database) :
    Except StoreError Unit × Database :=
  let (outcome, database) := upsertNode (step.toRow executionId) database
  (outcome.mapError .database, database)

def loadExecution (executionId : Uuid) (database : Database) :
    Except StoreError Execution × Database :=
  match getExecution executionId database with
  | (.error error, database) =>
    (.error (lookupError ("execution " ++ executionId.text) error), database)
  | (.ok row, database) =>
    match listNodes executionId database with
    | (.error error, database) => (.error (.database error), database)
    | (.ok nodes, database) => (Execution.ofRows row nodes, database)

end Database

instance : ExecutionStore Database where
  loadDefinition := Database.loadDefinition
  saveExecution := Database.saveExecution
  saveStep := Database.saveStep
  loadExecution := Database.loadExecution

end WorkflowEngine
