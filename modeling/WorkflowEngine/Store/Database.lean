/-
This file holds the four tables of the database and the statements on them. A row is found by its
primary key, an update stays in place, and a node row needs its execution row. Times are kept in
microseconds from the start of 2000. All other values are taken to fit their columns, and columns
of texts and of JSON give back what they were given.
-/

import WorkflowEngine.Store.Error
import WorkflowEngine.Store.Row
import WorkflowEngine.Table

namespace WorkflowEngine

open Time

structure Database where
  workflows : Table Uuid WorkflowRow := []
  tenants : Table Uuid TenantRow := []
  executions : Table Uuid ExecutionRow := []
  nodes : Table (Uuid × String) NodeRow := []
  failingStatements : Nat := 0
  deriving DecidableEq, Repr

/-- A statement gives its rows or its error, and the tables after it. -/
abbrev Statement (A : Type) := Database → Except DatabaseError A × Database

namespace Database

/-- The error of a statement that fails as told. -/
def injectedFailure : DatabaseError := .server "injected failure"

/-- The error of a node row without an execution row. -/
def missingExecution : DatabaseError :=
  .server "insert on table node_executions violates its foreign key to workflow_executions"

def failNext (database : Database) (count : Nat) : Database :=
  { database with failingStatements := count }

def run {A : Type} (statement : Statement A) : Statement A := fun database =>
  match database.failingStatements with
  | 0 => statement database
  | left + 1 => (.error injectedFailure, { database with failingStatements := left })

def query {A : Type} (read : Database → Except DatabaseError A) : Statement A :=
  run fun database => (read database, database)

def ping : Statement Unit :=
  query fun _ => .ok ()

def found {A : Type} : Option A → Except DatabaseError A
  | some row => .ok row
  | none => .error .rowNotFound

/-- An update of a workflow keeps the time of its creation. -/
def storedWorkflow (database : Database) (row : WorkflowRow) : WorkflowRow :=
  match database.workflows.get? row.id with
  | some old => { row with createdAt := old.createdAt }
  | none => { row with createdAt := row.createdAt.truncated }

def upsertWorkflow (row : WorkflowRow) : Statement WorkflowRow :=
  run fun database =>
    let stored := database.storedWorkflow row
    (.ok stored, { database with workflows := database.workflows.insert row.id stored })

def getWorkflow (id : Uuid) : Statement WorkflowRow :=
  query fun database => found (database.workflows.get? id)

/-- The newest workflow comes first. -/
def listWorkflows : Statement (List WorkflowRow) :=
  query fun database => .ok ((database.workflows.map Prod.snd).mergeSort
    fun left right => right.createdAt.le left.createdAt)

def deleteWorkflow (id : Uuid) : Statement Unit :=
  run fun database =>
    if database.workflows.has id then
      (.ok (), { database with workflows := database.workflows.erase id })
    else (.error .rowNotFound, database)

def listTenants : Statement (List TenantRow) :=
  query fun database => .ok ((database.tenants.map Prod.snd).mergeSort
    fun left right => left.name ≤ right.name)

/-- An update changes the status, the failure and the times, and nothing else. -/
def storedExecution (database : Database) (row : ExecutionRow) : ExecutionRow :=
  let startedAt := row.startedAt.map Timestamp.truncated
  let finishedAt := row.finishedAt.map Timestamp.truncated
  match database.executions.get? row.id with
  | some old => { old with
      status := row.status, failure := row.failure, startedAt := startedAt,
      finishedAt := finishedAt }
  | none => { row with startedAt := startedAt, finishedAt := finishedAt }

def upsertExecution (row : ExecutionRow) : Statement Unit :=
  run fun database => (.ok (), { database with
    executions := database.executions.insert row.id (database.storedExecution row) })

def getExecution (id : Uuid) : Statement ExecutionRow :=
  query fun database => found (database.executions.get? id)

/-- A node row is kept as it is, but for its times. -/
def storedNode (row : NodeRow) : NodeRow :=
  { row with
    startedAt := row.startedAt.map Timestamp.truncated
    finishedAt := row.finishedAt.map Timestamp.truncated }

def upsertNode (row : NodeRow) : Statement Unit :=
  run fun database =>
    if database.executions.has row.executionId then
      (.ok (), { database with
        nodes := database.nodes.insert (row.executionId, row.nodeId) (storedNode row) })
    else (.error missingExecution, database)

def listNodes (executionId : Uuid) : Statement (List NodeRow) :=
  query fun database => .ok
    ((database.nodes.filter fun entry => entry.1.1 == executionId).map Prod.snd)

end Database

end WorkflowEngine
