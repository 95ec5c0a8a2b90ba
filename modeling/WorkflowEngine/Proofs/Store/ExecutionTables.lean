/-
This file proves what the tables of executions and of their nodes hold after any upserts. The row
of an execution keeps its identity from the first upsert and its last transition from the last one.
A node has one row, the last one written, and no row without its execution.
-/

import Mathlib.Data.List.Induction
import Mathlib.Data.List.TakeWhile
import Mathlib.Data.Prod.Basic
import WorkflowEngine.Proofs.Table
import WorkflowEngine.Store.Database

namespace WorkflowEngine

open Time

/-- An upsert writes the row of an execution or the row of a node. -/
inductive Upsert where
  | execution (row : ExecutionRow)
  | node (row : NodeRow)
  deriving DecidableEq

namespace Upsert

def executionId : Upsert → Uuid
  | .execution row => row.id
  | .node row => row.executionId

def statement : Upsert → Statement Unit
  | .execution row => Database.upsertExecution row
  | .node row => Database.upsertNode row

def header? (id : Uuid) : Upsert → Option ExecutionRow
  | .execution row => if row.id = id then some row else none
  | .node _ => none

def node? (id : Uuid) : Upsert → Option NodeRow
  | .execution _ => none
  | .node row => if row.executionId = id then some row else none

def headers (id : Uuid) (calls : List Upsert) : List ExecutionRow :=
  calls.filterMap (header? id)

/-- Rows from before the first row of the execution do not count. -/
def nodeRows (id : Uuid) (calls : List Upsert) : List NodeRow :=
  (calls.dropWhile fun call => (call.header? id).isNone).filterMap (node? id)

section

variable {id : Uuid} {call : Upsert} {calls : List Upsert}

theorem headers_concat (id : Uuid) (calls : List Upsert) (call : Upsert) :
    headers id (calls ++ [call]) = headers id calls ++ (call.header? id).toList := by
  rw [headers, List.filterMap_append]
  cases found : call.header? id <;> simp [headers, found]

theorem headers_eq_nil : headers id calls = [] ↔
    calls.dropWhile (fun call => (call.header? id).isNone) = [] := by
  rw [headers, List.filterMap_eq_nil_iff, List.dropWhile_eq_nil_iff]
  simp only [Option.isNone_iff_eq_none]

/-- The row of a node counts if a row of its execution went before. -/
theorem nodeRows_concat (id : Uuid) (calls : List Upsert) (call : Upsert) :
    nodeRows id (calls ++ [call]) = nodeRows id calls ++
      if headers id calls = [] then [] else (call.node? id).toList := by
  unfold nodeRows
  by_cases before : headers id calls = []
  · rw [if_pos before, List.dropWhile_append, headers_eq_nil.mp before]
    cases call with
    | execution row => by_cases own : row.id = id <;> simp [header?, node?, own]
    | node row => simp [header?]
  · rw [if_neg before, List.dropWhile_append, if_neg (by rwa [List.isEmpty_iff, ← headers_eq_nil]),
      List.filterMap_append]
    cases found : call.node? id <;> simp [found]

/-- An upsert for another execution brings no row. -/
theorem rows_other (other : call.executionId ≠ id) :
    call.header? id = none ∧ call.node? id = none := by
  cases call with
  | execution row => exact ⟨if_neg other, rfl⟩
  | node row => exact ⟨rfl, if_neg other⟩

theorem headers_own (id : Uuid) (calls : List Upsert) :
    headers id (calls.filter fun call => call.executionId = id) = headers id calls := by
  induction calls using List.reverseRecOn with
  | nil => rfl
  | append_singleton calls call inductionHypothesis =>
    rw [List.filter_append, headers_concat, ← inductionHypothesis]
    by_cases own : call.executionId = id
    · rw [List.filter_cons_of_pos (by simpa using own), List.filter_nil, headers_concat]
    · rw [List.filter_cons_of_neg (by simpa using own), List.filter_nil, (rows_other own).1]
      simp

theorem nodeRows_own (id : Uuid) (calls : List Upsert) :
    nodeRows id (calls.filter fun call => call.executionId = id) = nodeRows id calls := by
  induction calls using List.reverseRecOn with
  | nil => rfl
  | append_singleton calls call inductionHypothesis =>
    rw [List.filter_append, nodeRows_concat, ← inductionHypothesis]
    by_cases own : call.executionId = id
    · rw [List.filter_cons_of_pos (by simpa using own), List.filter_nil, nodeRows_concat,
        headers_own]
    · rw [List.filter_cons_of_neg (by simpa using own), List.filter_nil, (rows_other own).2]
      simp

end

end Upsert

/-- A time is rounded to the nearest whole microsecond toward the epoch of the database. -/
structure Time.Timestamp.Rounds (time rounded : Timestamp) : Prop where
  ordinary : rounded.fraction < billion
  whole : 1000 ∣ rounded.since databaseEpoch
  after : 0 ≤ time.since databaseEpoch →
    rounded.since databaseEpoch ≤ time.since databaseEpoch ∧
      time.since databaseEpoch < rounded.since databaseEpoch + 1000
  before : time.since databaseEpoch ≤ 0 →
    time.since databaseEpoch ≤ rounded.since databaseEpoch ∧
      rounded.since databaseEpoch < time.since databaseEpoch + 1000

/-- The epoch is the start of a day, so that no leap second lies between it and a time. -/
theorem Time.Timestamp.since_epoch (time : Timestamp) : time.since databaseEpoch =
    (time.seconds - databaseEpoch.seconds) * billion + time.fraction := by
  have midnight : databaseEpoch.secondOfDay = 0 := by decide
  have day : ¬time.secondOfDay < 0 := by
    unfold secondOfDay
    omega
  have none : leapBetween time databaseEpoch = 0 := by
    rw [leapBetween, midnight, if_neg day]
    split <;> rfl
  rw [since, none, databaseEpoch]
  simp

theorem Time.Timestamp.truncated_rounds (time : Timestamp) : time.Rounds time.truncated := by
  have kept : time.truncated.since databaseEpoch =
      (time.since databaseEpoch).tdiv 1000 * 1000 := by
    rw [since_epoch time.truncated]
    simp only [truncated, databaseEpoch, billion]
    omega
  constructor
  · simp only [truncated, billion]
    omega
  · rw [kept]
    exact Int.dvd_mul_left _ _
  · intro positive
    rw [kept, Int.tdiv_eq_ediv_of_nonneg positive]
    omega
  · intro negative
    have opposite := Int.neg_tdiv (a := -time.since databaseEpoch) (b := 1000)
    rw [Int.neg_neg, Int.tdiv_eq_ediv_of_nonneg (Int.neg_nonneg_of_nonpos negative)] at opposite
    rw [kept, opposite]
    omega

/-- Status, failure and times are those of the later row. -/
def ExecutionRow.updatedBy (first last : ExecutionRow) : ExecutionRow :=
  { first with
    status := last.status
    failure := last.failure
    startedAt := last.startedAt.map Timestamp.truncated
    finishedAt := last.finishedAt.map Timestamp.truncated }

/-- The first row is updated by the last one. -/
def ExecutionRow.merged : List ExecutionRow → Option ExecutionRow
  | [] => none
  | first :: later => some (first.updatedBy (later.getLastD first))

def NodeRow.rounded (row : NodeRow) : NodeRow :=
  { row with
    startedAt := row.startedAt.map Timestamp.truncated
    finishedAt := row.finishedAt.map Timestamp.truncated }

def NodeRow.lastOf (nodeId : String) (rows : List NodeRow) : Option NodeRow :=
  rows.reverse.find? fun row => row.nodeId == nodeId

namespace Database

open Upsert

def upserts (database : Database) (calls : List Upsert) : Database :=
  calls.foldl (fun database call => (call.statement database).2) database

def entries (database : Database) (id : Uuid) : Table (Uuid × String) NodeRow :=
  database.nodes.filter fun entry => entry.1.1 == id

/-- The tables are vacant for an execution if they hold no row of it. -/
structure Vacant (database : Database) (id : Uuid) : Prop where
  execution : database.executions.get? id = none
  nodes : database.entries id = []

/-- The listed rows are the last ones of those that were written, one for each node. -/
structure LastRows (written listed : List NodeRow) : Prop where
  distinct : (listed.map NodeRow.nodeId).Nodup
  named : ∀ nodeId,
    nodeId ∈ listed.map NodeRow.nodeId ↔ nodeId ∈ written.map NodeRow.nodeId
  last : ∀ row ∈ listed, (NodeRow.lastOf row.nodeId written).map NodeRow.rounded = some row

def entered (id : Uuid) (rows : List NodeRow) : Table (Uuid × String) NodeRow :=
  rows.foldl (fun table row => table.insert (id, row.nodeId) row.rounded) []

/-- The tables reflect upserts if they hold of an execution what these make of its rows. -/
structure Reflects (database : Database) (id : Uuid) (calls : List Upsert) : Prop where
  works : database.failingStatements = 0
  header : database.executions.get? id = ExecutionRow.merged (headers id calls)
  nodes : database.entries id = entered id (nodeRows id calls)

variable {database : Database} {id : Uuid} {call : Upsert} {calls : List Upsert}
  {rows : List NodeRow} {nodeId : String}

theorem run_works {A : Type} (works : database.failingStatements = 0) (statement : Statement A) :
    run statement database = statement database := by
  simp only [run, works]

theorem upsert_works (works : database.failingStatements = 0) (call : Upsert) :
    (call.statement database).2.failingStatements = 0 := by
  cases call with
  | execution row =>
    change (upsertExecution row database).2.failingStatements = 0
    rw [upsertExecution, run_works works]
    exact works
  | node row =>
    change (upsertNode row database).2.failingStatements = 0
    rw [upsertNode, run_works works]
    split
    · exact works
    · exact works

/-- An upsert for another execution leaves the rows of an execution alone. -/
theorem upsert_other (works : database.failingStatements = 0) (call : Upsert)
    (other : call.executionId ≠ id) :
    (call.statement database).2.executions.get? id = database.executions.get? id ∧
    (call.statement database).2.entries id = database.entries id := by
  cases call with
  | execution row =>
    change (upsertExecution row database).2.executions.get? id = _ ∧
      (upsertExecution row database).2.entries id = _
    rw [upsertExecution, run_works works]
    exact ⟨Table.getInsertOther _ _ other, rfl⟩
  | node row =>
    change (upsertNode row database).2.executions.get? id = _ ∧
      (upsertNode row database).2.entries id = _
    rw [upsertNode, run_works works]
    split
    · have dropped : (row.executionId == id) = false := beq_eq_false_iff_ne.mpr other
      exact ⟨rfl, Table.filter_insert (fun key : Uuid × String => key.1 == id) dropped
        database.nodes _⟩
    · exact ⟨rfl, rfl⟩

/-- The row of an execution is inserted as it is, or updates the row that is there. -/
theorem merged_concat (rows : List ExecutionRow) (row : ExecutionRow) :
    ExecutionRow.merged (rows ++ [row]) =
      some (((ExecutionRow.merged rows).getD row).updatedBy row) := by
  cases rows with
  | nil => rfl
  | cons first later =>
    rw [List.cons_append, ExecutionRow.merged, List.getLastD_concat]
    rfl

theorem storedExecution_eq (database : Database) (row : ExecutionRow) :
    database.storedExecution row =
      ((database.executions.get? row.id).getD row).updatedBy row := by
  unfold storedExecution
  cases database.executions.get? row.id with
  | none => rfl
  | some old => rfl

theorem merged_eq_none (rows : List ExecutionRow) : ExecutionRow.merged rows = none ↔ rows = [] := by
  cases rows with
  | nil => exact iff_of_true rfl rfl
  | cons first later => exact iff_of_false nofun nofun

theorem entered_concat (id : Uuid) (rows : List NodeRow) (row : NodeRow) :
    entered id (rows ++ [row]) = (entered id rows).insert (id, row.nodeId) row.rounded :=
  List.foldl_concat ..

theorem entered_distinct (id : Uuid) (rows : List NodeRow) :
    ((entered id rows).map Prod.fst).Nodup := by
  induction rows using List.reverseRecOn with
  | nil => exact List.nodup_nil
  | append_singleton rows row inductionHypothesis =>
    rw [entered_concat]
    exact Table.insert_distinct inductionHypothesis _ _

/-- An entry stands under the name of its node. -/
theorem entered_named {entry : (Uuid × String) × NodeRow} (member : entry ∈ entered id rows) :
    entry.1 = (id, entry.2.nodeId) := by
  induction rows using List.reverseRecOn with
  | nil => cases member
  | append_singleton rows row inductionHypothesis =>
    rw [entered_concat] at member
    rcases Table.mem_insert member with rfl | before
    · rfl
    · exact inductionHypothesis before

/-- What is looked up is the last row of the node. -/
theorem get_entered (id : Uuid) (rows : List NodeRow) (nodeId : String) :
    (entered id rows).get? (id, nodeId) = (NodeRow.lastOf nodeId rows).map NodeRow.rounded := by
  induction rows using List.reverseRecOn with
  | nil => rfl
  | append_singleton rows row inductionHypothesis =>
    rw [entered_concat, NodeRow.lastOf, List.reverse_concat, List.find?_cons]
    by_cases same : row.nodeId = nodeId
    · rw [same, Table.getInsertSame, beq_self_eq_true]
      rfl
    · rw [Table.getInsertOther _ _ (by simpa using same), inductionHypothesis,
        beq_eq_false_iff_ne.mpr same]
      rfl

theorem entered_keys (id : Uuid) (rows : List NodeRow) : (entered id rows).map Prod.fst =
    (((entered id rows).map Prod.snd).map NodeRow.nodeId).map (Prod.mk id) := by
  rw [List.map_map, List.map_map]
  exact List.map_congr_left fun entry member => entered_named member

/-- A node has a last row if any row of it was written. -/
theorem lastOf_isSome : (NodeRow.lastOf nodeId rows).isSome ↔ nodeId ∈ rows.map NodeRow.nodeId := by
  simp [NodeRow.lastOf, List.find?_isSome]

/-- The entered rows are the last ones of those that were written. -/
theorem entered_lastRows (id : Uuid) (rows : List NodeRow) :
    LastRows rows ((entered id rows).map Prod.snd) := by
  have distinct := entered_distinct id rows
  refine ⟨?_, fun nodeId => ?_, fun row listed => ?_⟩
  · rw [entered_keys] at distinct
    exact distinct.of_map
  · have key : (id, nodeId) ∈ (entered id rows).map Prod.fst ↔
        nodeId ∈ ((entered id rows).map Prod.snd).map NodeRow.nodeId := by
      rw [entered_keys]
      exact List.mem_map_of_injective (Prod.mk_right_injective id)
    rw [← key, ← Table.get_isSome, get_entered, Option.isSome_map, lastOf_isSome]
  · obtain ⟨⟨key, row⟩, member, rfl⟩ := List.mem_map.mp listed
    have key : key = (id, row.nodeId) := entered_named member
    subst key
    rw [← get_entered id]
    exact Table.get_of_mem distinct member

/-- An execution is known exactly if a row of it was upserted. -/
theorem Reflects.known (reflects : Reflects database id calls) :
    database.executions.has id = true ↔ headers id calls ≠ [] := by
  rw [Table.has, reflects.header, Option.isSome_iff_ne_none, Ne, merged_eq_none]

/-- The first row of an execution is inserted, and a later one updates it. -/
theorem Reflects.execution (reflects : Reflects database id calls) {row : ExecutionRow}
    (own : row.id = id) :
    Reflects (upsertExecution row database).2 id (calls ++ [.execution row]) := by
  subst own
  have rows : headers row.id (calls ++ [.execution row]) = headers row.id calls ++ [row] := by
    rw [headers_concat]
    simp [header?]
  have nodes : nodeRows row.id (calls ++ [.execution row]) = nodeRows row.id calls := by
    rw [nodeRows_concat]
    simp [node?]
  rw [upsertExecution, run_works reflects.works]
  refine ⟨reflects.works, ?_, ?_⟩
  · change (database.executions.insert row.id _).get? row.id = _
    rw [Table.getInsertSame, storedExecution_eq, reflects.header, rows, merged_concat]
  · rw [nodes]
    exact reflects.nodes

/-- The row of a node is entered once its execution has a row. -/
theorem Reflects.node (reflects : Reflects database id calls) {row : NodeRow}
    (own : row.executionId = id) :
    Reflects (upsertNode row database).2 id (calls ++ [.node row]) := by
  subst own
  have rows : headers row.executionId (calls ++ [.node row]) =
      headers row.executionId calls := by
    rw [headers_concat]
    simp [header?]
  have nodes : nodeRows row.executionId (calls ++ [.node row]) =
      nodeRows row.executionId calls ++
        if headers row.executionId calls = [] then [] else [row] := by
    rw [nodeRows_concat]
    simp [node?]
  rw [upsertNode, run_works reflects.works]
  split
  · next known =>
    rw [reflects.known] at known
    refine ⟨reflects.works, rows ▸ reflects.header, ?_⟩
    rw [nodes, if_neg known, entered_concat, ← reflects.nodes]
    exact Table.insert_filter (fun key : Uuid × String => key.1 == row.executionId)
      (beq_self_eq_true _) database.nodes _
  · next unknown =>
    rw [reflects.known, not_not] at unknown
    refine ⟨reflects.works, rows ▸ reflects.header, ?_⟩
    rw [nodes, if_pos unknown, List.append_nil]
    exact reflects.nodes

/-- One more upsert is reflected as well. -/
theorem Reflects.step (reflects : Reflects database id calls) (call : Upsert) :
    Reflects (call.statement database).2 id (calls ++ [call]) := by
  by_cases own : call.executionId = id
  · cases call with
    | execution row => exact reflects.execution own
    | node row => exact reflects.node own
  · obtain ⟨executions, nodes⟩ := upsert_other reflects.works call own
    obtain ⟨noHeader, noNode⟩ := rows_other own
    refine ⟨upsert_works reflects.works call, ?_, ?_⟩
    · rw [executions, headers_concat, noHeader, Option.toList, List.append_nil]
      exact reflects.header
    · rw [nodes, nodeRows_concat, noNode, Option.toList, ite_self, List.append_nil]
      exact reflects.nodes

/-- Tables that hold no row of an execution reflect all upserts. -/
theorem Vacant.reflects (vacant : database.Vacant id) (works : database.failingStatements = 0)
    (calls : List Upsert) : Reflects (database.upserts calls) id calls := by
  induction calls using List.reverseRecOn with
  | nil => exact ⟨works, vacant.execution, vacant.nodes⟩
  | append_singleton calls call inductionHypothesis =>
    rw [upserts, List.foldl_concat]
    exact inductionHypothesis.step call

theorem Reflects.getExecution (reflects : Reflects database id calls) :
    getExecution id database =
      (found (ExecutionRow.merged (headers id calls)), database) := by
  rw [Database.getExecution, query, run_works reflects.works, reflects.header]

theorem Reflects.listNodes (reflects : Reflects database id calls) :
    listNodes id database =
      (.ok ((entered id (nodeRows id calls)).map Prod.snd), database) := by
  rw [← reflects.nodes, Database.listNodes, query, run_works reflects.works]
  rfl

/-- The row of a node is refused without a row of its execution, and accepted with one. -/
theorem Reflects.upsertNode (reflects : Reflects database id calls) {row : NodeRow}
    (own : row.executionId = id) :
    (headers id calls = [] → upsertNode row database = (.error missingExecution, database)) ∧
    (headers id calls ≠ [] → (upsertNode row database).1 = .ok ()) := by
  subst own
  rw [Database.upsertNode, run_works reflects.works]
  constructor
  · intro unknown
    rw [if_neg (by simp [reflects.known, unknown])]
  · intro known
    rw [if_pos (reflects.known.mpr known)]

/-- An execution is found as its first row, updated by its last one. -/
theorem upserts_reflected (works : database.failingStatements = 0)
    (vacant : database.Vacant id) (calls : List Upsert) :
    let after := database.upserts calls
    let own := database.upserts (calls.filter fun call => call.executionId = id)
    Database.getExecution id after =
      (found (ExecutionRow.merged (headers id calls)), after) ∧
    (∃ rows, Database.listNodes id after = (.ok rows, after) ∧
      LastRows (nodeRows id calls) rows) ∧
    (Database.getExecution id after).1 = (Database.getExecution id own).1 ∧
    (Database.listNodes id after).1 = (Database.listNodes id own).1 ∧
    (∀ row : NodeRow, row.executionId = id →
      (headers id calls = [] →
        Database.upsertNode row after = (.error missingExecution, after)) ∧
      (headers id calls ≠ [] → (Database.upsertNode row after).1 = .ok ())) ∧
    ∀ time : Timestamp, time.Rounds time.truncated := by
  intro after own
  have all := vacant.reflects works calls
  have alone := vacant.reflects works (calls.filter fun call => call.executionId = id)
  refine ⟨all.getExecution, ⟨_, all.listNodes, entered_lastRows id _⟩, ?_, ?_,
    fun row own => all.upsertNode own, Timestamp.truncated_rounds⟩
  · rw [all.getExecution, alone.getExecution, headers_own]
  · rw [all.listNodes, alone.listNodes, nodeRows_own]

def executionOf (id : Uuid) (status : String) (startedAt : Option Timestamp) : ExecutionRow :=
  ⟨id, ⟨3⟩, 1, ⟨2⟩, status, .null, ["a"], none, startedAt, none⟩

def nodeOf (id : Uuid) (status : String) (attempt : Int32) : NodeRow :=
  ⟨id, "a", status, attempt, none, none, none, none⟩

/-- The row of a step comes too early, and later on once more. -/
def interleaved : List Upsert := [
  .node (nodeOf ⟨1⟩ "pending" 0), .execution (executionOf ⟨1⟩ "pending" none),
  .node (nodeOf ⟨1⟩ "running" 1), .execution (executionOf ⟨4⟩ "failed" none),
  .execution { executionOf ⟨1⟩ "running" (some ⟨0, 1001⟩) with workflowVersion := 9 },
  .node (nodeOf ⟨1⟩ "succeeded" 2)]

/-- The tables keep the first version with the last status, and the last row of the step. -/
theorem interleaved_reflected :
    let after := ({} : Database).upserts interleaved
    (Database.getExecution ⟨1⟩ after).1 = .ok (executionOf ⟨1⟩ "running" (some ⟨0, 2000⟩)) ∧
    ∃ rows, (Database.listNodes ⟨1⟩ after).1 = .ok rows ∧
      LastRows [nodeOf ⟨1⟩ "running" 1, nodeOf ⟨1⟩ "succeeded" 2] rows := by
  intro after
  have vacant : ({} : Database).Vacant ⟨1⟩ := ⟨rfl, rfl⟩
  obtain ⟨execution, ⟨rows, nodes, last⟩, _⟩ := upserts_reflected rfl vacant interleaved
  have written : nodeRows ⟨1⟩ interleaved =
      [nodeOf ⟨1⟩ "running" 1, nodeOf ⟨1⟩ "succeeded" 2] := by decide
  rw [written] at last
  refine ⟨?_, rows, congrArg Prod.fst nodes, last⟩
  rw [execution]
  decide

/-- A time below a microsecond is not given back. -/
theorem nanosecond_dropped :
    ¬∀ (database : Database) (id : Uuid) (calls : List Upsert) (first : ExecutionRow)
      (later : List ExecutionRow), database.failingStatements = 0 → database.Vacant id →
      headers id calls = first :: later →
      (Database.getExecution id (database.upserts calls)).1 = .ok { first with
        status := (later.getLastD first).status
        failure := (later.getLastD first).failure
        startedAt := (later.getLastD first).startedAt
        finishedAt := (later.getLastD first).finishedAt } := by
  intro claimed
  have same := claimed {} ⟨1⟩ [.execution (executionOf ⟨1⟩ "running" (some ⟨1709294400, 1⟩))]
    (executionOf ⟨1⟩ "running" (some ⟨1709294400, 1⟩)) [] rfl ⟨rfl, rfl⟩ rfl
  exact absurd same (by decide)

end Database

end WorkflowEngine
