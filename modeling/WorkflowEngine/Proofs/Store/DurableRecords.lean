/-
This file proves what the tables of the database give back of an execution. The header and the
records of the steps come back as they were saved, in the order of the plan. A version or a number
of attempts that needs all 32 bits comes back as zero, and a time loses what is below a microsecond.
-/

import WorkflowEngine.Proofs.Engine.StoredRecords
import WorkflowEngine.Proofs.Store.ExecutionTables
import WorkflowEngine.Proofs.Store.PlanOrder

namespace WorkflowEngine

open Time

def signedColumn (value : UInt32) : UInt32 :=
  if value < 2147483648 then value else 0

theorem signedColumn_stored (value : UInt32) :
    UInt32.ofNat (Int32.ofNat value.toNat).toInt.toNat = signedColumn value := by
  have bound := value.toNat_lt
  have small : value < 2147483648 ↔ value.toNat < 2147483648 := UInt32.lt_iff_toNat_lt
  rw [Int32.toInt_ofNat', signedColumn]
  split
  · next below =>
    rw [small] at below
    have kept : ((value.toNat : Int).bmod Int32.size).toNat = value.toNat := by
      rw [Int.bmod_def, Int32.size]
      omega
    rw [kept, UInt32.ofNat_toNat]
  · next above =>
    rw [small] at above
    have negative : ((value.toNat : Int).bmod Int32.size).toNat = 0 := by
      rw [Int.bmod_def, Int32.size]
      omega
    rw [negative]
    rfl

theorem signedColumn_same (value : UInt32) : signedColumn value = value ↔ value < 2147483648 := by
  unfold signedColumn
  split
  · next below => simp [below]
  · next above =>
    constructor
    · intro zero
      rw [← zero] at above
      exact absurd (by decide) above
    · intro below
      exact absurd below above

namespace StepRecord

/-- The tables keep this of a step record. -/
def kept (record : StepRecord) : StepRecord :=
  { record with
    attempt := signedColumn record.attempt
    startedAt := record.startedAt.map Timestamp.truncated
    finishedAt := record.finishedAt.map Timestamp.truncated }

def stored (executionId : Uuid) (record : StepRecord) : NodeRow :=
  Database.storedNode (record.toRow executionId)

theorem ofRow_stored (executionId : Uuid) (record : StepRecord) :
    ofRow (record.stored executionId) = .ok record.kept := by
  unfold ofRow stored Database.storedNode toRow
  simp only [StepStatus.ofNameName, signedColumn_stored]
  rfl

theorem mapM_ofRow_stored (executionId : Uuid) (records : List StepRecord) :
    (records.map (stored executionId)).mapM ofRow = .ok (records.map kept) := by
  induction records with
  | nil => rfl
  | cons record rest inductionHypothesis =>
    rw [List.map_cons, List.mapM_cons, ofRow_stored, inductionHypothesis]
    rfl

end StepRecord

theorem FailureReason.decode_encode (reason : FailureReason) :
    decode? reason.encode = some reason := by
  cases reason <;> rfl

namespace Execution

/-- The tables keep this of an execution. -/
def kept (execution : Execution) : Execution :=
  { execution with
    workflowVersion := signedColumn execution.workflowVersion
    startedAt := execution.startedAt.map Timestamp.truncated
    finishedAt := execution.finishedAt.map Timestamp.truncated
    steps := execution.steps.map StepRecord.kept }

def stored (execution : Execution) : ExecutionRow :=
  { execution.toRow with
    startedAt := execution.startedAt.map Timestamp.truncated
    finishedAt := execution.finishedAt.map Timestamp.truncated }

/-- Numbers fit if they leave the sign of a column alone. -/
structure Fits (execution : Execution) : Prop where
  version : execution.workflowVersion < 2147483648
  attempts : ∀ record ∈ execution.steps, record.attempt < 2147483648

/-- The times of an execution are whole if they are given in microseconds. -/
structure WholeTimes (execution : Execution) : Prop where
  started : execution.startedAt.map Timestamp.truncated = execution.startedAt
  finished : execution.finishedAt.map Timestamp.truncated = execution.finishedAt
  steps : ∀ record ∈ execution.steps,
    record.startedAt.map Timestamp.truncated = record.startedAt ∧
    record.finishedAt.map Timestamp.truncated = record.finishedAt

theorem failureOfColumn_encode (failure : Option FailureReason) :
    failureOfColumn (failure.map FailureReason.encode) = .ok failure := by
  cases failure with
  | none => rfl
  | some reason => simp [failureOfColumn, FailureReason.decode_encode]

/-- An execution is read back from its row and the rows of its steps in any order. -/
theorem ofRows_stored {execution : Execution} {records : List StepRecord}
    (distinct : (execution.steps.map StepRecord.nodeId).Nodup)
    (shuffled : records.Perm execution.steps) :
    ofRows execution.stored (records.map (StepRecord.stored execution.id)) =
      .ok execution.kept := by
  have names : execution.stored.stepOrder =
      (execution.steps.map StepRecord.kept).map StepRecord.nodeId := by
    simp [stored, toRow, Function.comp_def, StepRecord.kept]
  have ordered : StepRecord.inPlanOrder execution.stored.stepOrder
      (records.map StepRecord.kept) = execution.steps.map StepRecord.kept := by
    rw [names]
    apply StepRecord.inPlanOrder_perm _ (shuffled.map _)
    simpa [Function.comp_def, StepRecord.kept] using distinct
  have status : ExecutionStatus.ofName? execution.stored.status = some execution.status :=
    ExecutionStatus.ofNameName _
  have failure : failureOfColumn execution.stored.failure = .ok execution.failure :=
    failureOfColumn_encode _
  have version : UInt32.ofNat execution.stored.workflowVersion.toInt.toNat =
      signedColumn execution.workflowVersion := signedColumn_stored _
  unfold ofRows
  rw [StepRecord.mapM_ofRow_stored, status, failure, version]
  change Except.ok { execution.kept with
    steps := StepRecord.inPlanOrder execution.stored.stepOrder (records.map StepRecord.kept) } = _
  rw [ordered]
  rfl

/-- The tables keep an execution exactly if its numbers fit and its times are whole. -/
theorem kept_iff (execution : Execution) :
    execution.kept = execution ↔ execution.Fits ∧ execution.WholeTimes := by
  have columns : execution.kept = execution ↔
      (signedColumn execution.workflowVersion = execution.workflowVersion ∧
        execution.startedAt.map Timestamp.truncated = execution.startedAt ∧
        execution.finishedAt.map Timestamp.truncated = execution.finishedAt) ∧
      execution.steps.map StepRecord.kept = execution.steps := by
    obtain ⟨_, _, _, _, _, _, _, _, _, _⟩ := execution
    simp [kept, and_assoc]
  have records : execution.steps.map StepRecord.kept = execution.steps ↔
      ∀ record ∈ execution.steps, signedColumn record.attempt = record.attempt ∧
        record.startedAt.map Timestamp.truncated = record.startedAt ∧
        record.finishedAt.map Timestamp.truncated = record.finishedAt := by
    have each (record : StepRecord) : record.kept = record ↔
        signedColumn record.attempt = record.attempt ∧
        record.startedAt.map Timestamp.truncated = record.startedAt ∧
        record.finishedAt.map Timestamp.truncated = record.finishedAt := by
      obtain ⟨_, _, _, _, _, _, _⟩ := record
      simp [StepRecord.kept]
    have same := List.map_inj_left (l := execution.steps) (f := StepRecord.kept)
      (g := fun record => record)
    rw [List.map_id'] at same
    simp only [same, each]
  rw [columns, records]
  simp only [signedColumn_same]
  constructor
  · rintro ⟨⟨version, started, finished⟩, steps⟩
    exact ⟨⟨version, fun record member => (steps record member).1⟩,
      started, finished, fun record member => (steps record member).2⟩
  · rintro ⟨fits, whole⟩
    exact ⟨⟨fits.version, whole.started, whole.finished⟩, fun record member =>
      ⟨fits.attempts record member, whole.steps record member⟩⟩

end Execution

namespace Database

def write (database : Database) (saves : List Saved) : Database :=
  saves.foldl (fun database item => (item.put database).2) database

/-- The tables hold an execution with the records of some of its steps. -/
structure Keeps (database : Database) (execution : Execution) (records : List StepRecord) :
    Prop where
  header : database.executions.get? execution.id = some execution.stored
  rows : database.entries execution.id =
    records.map fun record => ((execution.id, record.nodeId), record.stored execution.id)

/-- The header is saved first, and then the steps in any order. -/
structure SavesOf (execution : Execution) (saves : List Saved) (records : List StepRecord) :
    Prop where
  own : saves.filter (fun item => item.owner = execution.id) =
    .header execution :: records.map (.step execution.id)
  shuffled : records.Perm execution.steps

section

variable {database : Database} {execution : Execution} {item : Saved} {id : Uuid}
  {record : StepRecord} {saves : List Saved} {done records : List StepRecord}

theorem put_works (works : database.failingStatements = 0) :
    (item.put database).2.failingStatements = 0 := by
  cases item with
  | header execution => exact upsert_works works (.execution execution.toRow)
  | step executionId record => exact upsert_works works (.node (record.toRow executionId))

/-- What is saved of another execution leaves the rows of an execution alone. -/
theorem put_other (works : database.failingStatements = 0) (other : item.owner ≠ id) :
    (item.put database).2.executions.get? id = database.executions.get? id ∧
    (item.put database).2.entries id = database.entries id := by
  cases item with
  | header execution => exact upsert_other works (.execution execution.toRow) other
  | step executionId record => exact upsert_other works (.node (record.toRow executionId)) other

theorem Vacant.other (vacant : database.Vacant id) (works : database.failingStatements = 0)
    (other : item.owner ≠ id) : (item.put database).2.Vacant id := by
  obtain ⟨executions, entries⟩ := put_other works other
  exact ⟨executions.trans vacant.execution, entries.trans vacant.nodes⟩

theorem Keeps.other (keeps : database.Keeps execution records)
    (works : database.failingStatements = 0) (other : item.owner ≠ execution.id) :
    (item.put database).2.Keeps execution records := by
  obtain ⟨executions, entries⟩ := put_other works other
  exact ⟨executions.trans keeps.header, entries.trans keeps.rows⟩

/-- The header of an unknown execution is inserted as it is handed over. -/
theorem Vacant.header (vacant : database.Vacant execution.id)
    (works : database.failingStatements = 0) :
    ((Saved.header execution).put database).2.Keeps execution [] := by
  have inserted : ((Saved.header execution).put database).2 = { database with
      executions := database.executions.insert execution.id execution.stored } := by
    change (upsertExecution execution.toRow database).2 = _
    have row : database.storedExecution execution.toRow = execution.stored := by
      unfold storedExecution
      rw [show execution.toRow.id = execution.id from rfl, vacant.execution]
      rfl
    rw [upsertExecution, run_works works, row]
    rfl
  rw [inserted]
  exact ⟨Table.getInsertSame _ _ _, vacant.nodes⟩

/-- The record of another step stands behind those saved before. -/
theorem Keeps.step (keeps : database.Keeps execution records)
    (works : database.failingStatements = 0)
    (new : record.nodeId ∉ records.map StepRecord.nodeId) :
    ((Saved.step execution.id record).put database).2.Keeps execution (records ++ [record]) := by
  have known : database.executions.has (record.toRow execution.id).executionId = true := by
    change (database.executions.get? execution.id).isSome = true
    rw [keeps.header]
    rfl
  have missing : database.nodes.get? (execution.id, record.nodeId) = none := by
    cases found : database.nodes.get? (execution.id, record.nodeId) with
    | none => rfl
    | some row =>
      have listed : ((execution.id, record.nodeId), row) ∈ database.entries execution.id :=
        List.mem_filter.mpr ⟨Table.mem_of_get found, beq_self_eq_true _⟩
      rw [keeps.rows] at listed
      obtain ⟨other, member, same⟩ := List.mem_map.mp listed
      have named : other.nodeId = record.nodeId := congrArg (fun entry => entry.1.2) same
      exact absurd (named ▸ List.mem_map_of_mem member) new
  have appended : ((Saved.step execution.id record).put database).2 = { database with
      nodes := database.nodes ++
        [((execution.id, record.nodeId), record.stored execution.id)] } := by
    change (upsertNode (record.toRow execution.id) database).2 = _
    rw [upsertNode, run_works works, if_pos known]
    exact congrArg (fun nodes => { database with nodes := nodes })
      (Table.insert_new missing (record.stored execution.id))
  rw [appended]
  refine ⟨keeps.header, ?_⟩
  have rows := keeps.rows
  unfold entries at rows ⊢
  rw [List.filter_append, rows, List.map_append]
  simp

/-- The records that are saved after the header are all kept. -/
theorem Keeps.write (keeps : database.Keeps execution done)
    (works : database.failingStatements = 0)
    (own : saves.filter (fun item => item.owner = execution.id) =
      records.map (.step execution.id))
    (distinct : ((done ++ records).map StepRecord.nodeId).Nodup) :
    (database.write saves).failingStatements = 0 ∧
    (database.write saves).Keeps execution (done ++ records) := by
  induction saves generalizing database done records with
  | nil =>
    obtain rfl : records = [] := by simpa using own.symm
    rw [List.append_nil]
    exact ⟨works, keeps⟩
  | cons item rest inductionHypothesis =>
    by_cases mine : item.owner = execution.id
    · rw [List.filter_cons_of_pos (by simpa using mine)] at own
      cases records with
      | nil => cases own
      | cons record others =>
        obtain ⟨rfl, later⟩ := List.cons.inj own
        -- The first of the remaining records goes over to those that are kept.
        rw [List.append_cons] at distinct ⊢
        have new : record.nodeId ∉ done.map StepRecord.nodeId := by
          rw [List.map_append, List.map_append, List.nodup_append, List.nodup_append] at distinct
          exact fun member => distinct.1.2.2 _ member _ (by simp) rfl
        exact inductionHypothesis (keeps.step works new) (put_works works) later distinct
    · rw [List.filter_cons_of_neg (by simpa using mine)] at own
      exact inductionHypothesis (keeps.other works mine) (put_works works) own distinct

/-- Tables that did not know an execution keep its header and all its records. -/
theorem Vacant.write (vacant : database.Vacant execution.id)
    (works : database.failingStatements = 0)
    (own : saves.filter (fun item => item.owner = execution.id) =
      .header execution :: records.map (.step execution.id))
    (distinct : (records.map StepRecord.nodeId).Nodup) :
    (database.write saves).failingStatements = 0 ∧
    (database.write saves).Keeps execution records := by
  induction saves generalizing database with
  | nil => cases own
  | cons item rest inductionHypothesis =>
    by_cases mine : item.owner = execution.id
    · rw [List.filter_cons_of_pos (by simpa using mine)] at own
      obtain ⟨rfl, later⟩ := List.cons.inj own
      exact (vacant.header works).write (put_works works) later distinct
    · rw [List.filter_cons_of_neg (by simpa using mine)] at own
      exact inductionHypothesis (vacant.other works mine) (put_works works) own

/-- An execution is loaded from the rows that the tables hold of it. -/
theorem Keeps.load (keeps : database.Keeps execution records)
    (works : database.failingStatements = 0)
    (distinct : (execution.steps.map StepRecord.nodeId).Nodup)
    (shuffled : records.Perm execution.steps) :
    (loadExecution execution.id database).1 = .ok execution.kept := by
  have header : getExecution execution.id database = (.ok execution.stored, database) := by
    rw [getExecution, query, run_works works, keeps.header]
    rfl
  have rows : listNodes execution.id database =
      (.ok (records.map (StepRecord.stored execution.id)), database) := by
    have values : (database.entries execution.id).map Prod.snd =
        records.map (StepRecord.stored execution.id) := by
      rw [keeps.rows, List.map_map]
      rfl
    rw [listNodes, query, run_works works, ← values]
    rfl
  rw [loadExecution, header]
  dsimp only
  rw [rows]
  exact Execution.ofRows_stored distinct shuffled

/-- What was saved of an execution is loaded as the tables keep it. -/
theorem SavesOf.load (writes : SavesOf execution saves records)
    (works : database.failingStatements = 0) (vacant : database.Vacant execution.id)
    (distinct : (execution.steps.map StepRecord.nodeId).Nodup) :
    (loadExecution execution.id (database.write saves)).1 = .ok execution.kept := by
  have names : (records.map StepRecord.nodeId).Nodup :=
    (writes.shuffled.map StepRecord.nodeId).nodup_iff.mpr distinct
  obtain ⟨works, keeps⟩ := vacant.write works writes.own names
  exact keeps.load works distinct writes.shuffled

/-- Exactly what was saved comes back if numbers fit and times are whole. -/
theorem saved_execution_restored (writes : SavesOf execution saves records)
    (works : database.failingStatements = 0) (vacant : database.Vacant execution.id)
    (distinct : (execution.steps.map StepRecord.nodeId).Nodup) :
    (loadExecution execution.id (database.write saves)).1 = .ok execution.kept ∧
    ((loadExecution execution.id (database.write saves)).1 = .ok execution ↔
      execution.Fits ∧ execution.WholeTimes) := by
  have loaded := writes.load works vacant distinct
  refine ⟨loaded, ?_⟩
  rw [loaded, Except.ok.injEq]
  exact execution.kept_iff

end

/-- The first step has given null and the second one nothing. -/
def twoSteps : Execution where
  id := ⟨1⟩
  tenantId := ⟨2⟩
  workflowId := ⟨3⟩
  workflowVersion := 7
  status := .failed
  triggerInput := .object [("n", .null)]
  failure := some (.stepFailed "b" "broken")
  startedAt := some ⟨0, 1000⟩
  finishedAt := some ⟨2, 0⟩
  steps := [
    { nodeId := "a", status := .succeeded, attempt := 1, output := some .null,
      startedAt := some ⟨0, 1000⟩, finishedAt := some ⟨1, 0⟩ },
    { nodeId := "b", status := .failed, attempt := 3, error := some "broken",
      startedAt := some ⟨1, 0⟩, finishedAt := some ⟨2, 0⟩ }]

/-- An execution of a version that needs all 32 bits. -/
def largeVersion : Execution where
  id := ⟨4⟩
  tenantId := ⟨2⟩
  workflowId := ⟨3⟩
  workflowVersion := 2147483648
  triggerInput := .null
  steps := []

/-- The steps are saved from the last one to the first one. -/
theorem shuffled_execution_restored :
    (loadExecution twoSteps.id (write {} (.header twoSteps :: .header largeVersion ::
      twoSteps.steps.reverse.map (.step twoSteps.id)))).1 = .ok twoSteps := by
  have writes : SavesOf twoSteps (.header twoSteps :: .header largeVersion ::
      twoSteps.steps.reverse.map (.step twoSteps.id)) twoSteps.steps.reverse :=
    ⟨by decide, List.reverse_perm _⟩
  have restored := saved_execution_restored writes (rfl : ({} : Database).failingStatements = 0)
    ⟨rfl, rfl⟩ (by decide)
  exact restored.2.mpr ⟨⟨by decide, by decide⟩, ⟨by decide, by decide, by decide⟩⟩

/-- A version that needs all 32 bits is not given back. -/
theorem large_version_lost :
    ¬∀ (database : Database) (execution : Execution) (saves : List Saved)
      (records : List StepRecord), SavesOf execution saves records →
      database.failingStatements = 0 → database.Vacant execution.id →
      (execution.steps.map StepRecord.nodeId).Nodup → execution.WholeTimes →
      (loadExecution execution.id (database.write saves)).1 = .ok execution := by
  intro restores
  have writes : SavesOf largeVersion [.header largeVersion] [] := ⟨by decide, .nil⟩
  have whole : largeVersion.WholeTimes := ⟨rfl, rfl, by decide⟩
  have same := restores {} _ _ _ writes rfl ⟨rfl, rfl⟩ (by decide) whole
  rw [writes.load rfl ⟨rfl, rfl⟩ (by decide), Except.ok.injEq] at same
  have version := congrArg Execution.workflowVersion same
  exact absurd version (by decide)

end Database

end WorkflowEngine
