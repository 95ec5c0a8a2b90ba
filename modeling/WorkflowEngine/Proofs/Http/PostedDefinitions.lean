/-
This file proves what is loaded of a workflow that was posted, as long as nothing else writes its
row: the whole definition, but for a version of zero or one that needs all 32 bits, which comes back
as one.
-/

import WorkflowEngine.Proofs.Http.WorkflowRows
import WorkflowEngine.Proofs.Store.DurableRecords
import WorkflowEngine.Proofs.Workflow.WrittenDefinitions

namespace WorkflowEngine

open Json Time

/-- The version passes through a signed column of 32 bits. -/
def versionColumn (version : UInt32) : UInt32 :=
  if 1 ≤ version ∧ version < 2147483648 then version else 1

theorem versionColumn_stored (version : UInt32) :
    UInt32.ofNat (max (Int32.ofNat version.toNat).toInt 1).toNat = versionColumn version := by
  have bound := version.toNat_lt
  have fits : (1 ≤ version ∧ version < 2147483648) ↔
      1 ≤ version.toNat ∧ version.toNat < 2147483648 :=
    and_congr UInt32.le_iff_toNat_le UInt32.lt_iff_toNat_lt
  rw [Int32.toInt_ofNat', versionColumn]
  split
  · next inside =>
    rw [fits] at inside
    have kept : (max ((version.toNat : Int).bmod Int32.size) 1).toNat = version.toNat := by
      rw [Int.bmod_def, Int32.size]
      omega
    rw [kept, UInt32.ofNat_toNat]
  · next outside =>
    rw [fits] at outside
    have lifted : (max ((version.toNat : Int).bmod Int32.size) 1).toNat = 1 := by
      rw [Int.bmod_def, Int32.size]
      omega
    rw [lifted]
    rfl

theorem versionColumn_same (version : UInt32) :
    versionColumn version = version ↔ 1 ≤ version ∧ version < 2147483648 := by
  unfold versionColumn
  split
  · next inside => simp [inside]
  · next outside =>
    constructor
    · intro one
      rw [← one] at outside
      exact absurd (by decide) outside
    · intro inside
      exact absurd inside outside

theorem Except.bind_eq_ok {E A B : Type} {outcome : Except E A} {next : A → Except E B}
    {result : B}
    (succeeds : outcome >>= next = .ok result) :
    ∃ value, outcome = .ok value ∧ next value = .ok result := by
  cases outcome with
  | error error => cases succeeds
  | ok value => exact ⟨value, rfl, succeeds⟩

namespace HttpRequest

section

variable {request : HttpRequest} {now : Timestamp} {definition : Definition}

/-- What is read from a body is decoded from a value. -/
theorem content_decoded {A : Type} {format : Format A} {content : A}
    (read : request.content format = .ok content) :
    ∃ value, format.decode? value = some content := by
  obtain ⟨_, _, parsed⟩ := content_ok.mp read
  obtain ⟨value, _, decoded⟩ := Except.bind_eq_ok parsed
  refine ⟨value, ?_⟩
  split at decoded
  · next found =>
    obtain rfl := Except.ok.inj decoded
    exact found
  · cases decoded

theorem demandOn_create {route : Route}
    (read : request.demandOn now route = .ok (.create definition)) :
    request.content (Definition.format now) = .ok definition := by
  cases route with
  | health => cases read
  | workflows =>
    by_cases post : request.method = "POST"
    · simp only [demandOn, if_pos post] at read
      obtain ⟨posted, content, same⟩ := Except.bind_eq_ok read
      cases same
      exact content
    · simp only [demandOn, if_neg post] at read
      cases read
  | workflow id =>
    obtain ⟨_, _, same⟩ := Except.bind_eq_ok read
    split at same <;> cases same
  | execute id =>
    obtain ⟨_, _, ordered⟩ := Except.bind_eq_ok read
    obtain ⟨_, _, same⟩ := Except.bind_eq_ok ordered
    cases same
  | execution id =>
    obtain ⟨_, _, same⟩ := Except.bind_eq_ok read
    cases same
  | cancellation id =>
    obtain ⟨_, _, same⟩ := Except.bind_eq_ok read
    cases same
  | webhook id =>
    obtain ⟨_, _, same⟩ := Except.bind_eq_ok read
    split at same <;> cases same

/-- A definition that is posted can be written and read again. -/
theorem demand_writable (clock : now.Representable)
    (read : request.demand now = .ok (.create definition)) : definition.Writable := by
  unfold demand at read
  split at read
  · cases read
  · split at read
    · cases read
    · split at read
      · cases read
      · obtain ⟨value, decoded⟩ := content_decoded (demandOn_create read)
        exact .of_read clock decoded

end

end HttpRequest

namespace Database

/-- The tables hold a definition if its row is laid out as a posted workflow is. -/
def Holds (database : Database) (definition : Definition) : Prop :=
  ∃ time, database.workflows.get? definition.id = some (HttpState.workflowRow time definition)

section

variable {database : Database} {definition : Definition}

/-- A definition that the tables hold is loaded, but for its version. -/
theorem Holds.load (holds : database.Holds definition) (works : database.failingStatements = 0)
    (writable : definition.Writable) (now : Timestamp) :
    (loadDefinition now definition.id database).1 =
      .ok { definition with version := versionColumn definition.version } := by
  obtain ⟨time, row⟩ := holds
  have found : getWorkflow definition.id database =
      (.ok (HttpState.workflowRow time definition), database) := by
    rw [getWorkflow, query, run_works works, row]
    rfl
  have decoded : Definition.decode? now (HttpState.workflowRow time definition).definition =
      some definition := Definition.decode?_normalize writable now
  have version : UInt32.ofNat
      (max (HttpState.workflowRow time definition).version.toInt 1).toNat =
      versionColumn definition.version := versionColumn_stored definition.version
  rw [loadDefinition, found]
  dsimp only
  rw [Definition.ofRow, decoded, version]
  rfl

/-- The tables hold a definition as soon as it has been stored. -/
theorem upsertWorkflow_holds (works : database.failingStatements = 0) (now : Timestamp)
    (definition : Definition) :
    (upsertWorkflow (HttpState.workflowRow now definition) database).2.Holds definition := by
  rw [upsertWorkflow, run_works works]
  have stored : ∃ time, database.storedWorkflow (HttpState.workflowRow now definition) =
      HttpState.workflowRow time definition := by
    unfold storedWorkflow
    split
    · exact ⟨_, rfl⟩
    · exact ⟨_, rfl⟩
  obtain ⟨time, row⟩ := stored
  refine ⟨time, ?_⟩
  dsimp only
  rw [row]
  exact Table.getInsertSame _ _ _

end

end Database

namespace HttpState

section

variable {state : HttpState Database} {now : Moment} {request : HttpRequest}
  {definition : Definition} {turns : List (HttpTurn Database)}

/-- The tables hold a definition that has been created. -/
theorem created_held (pool : state.database = some .whole) {now : Timestamp}
    (created : (respond (state.createWorkflow now definition).1).status = 201) :
    (state.createWorkflow now definition).2.engine.store.Holds definition := by
  have accepted {failure : HttpFailure} {after : HttpState Database} :
      state.createWorkflow now definition ≠ (.error failure, after) := by
    intro refused
    have error : 400 ≤ (respond (.error failure)).status := failure.status_error
    rw [refused] at created
    dsimp only at created
    rw [created] at error
    exact absurd error (by decide)
  rcases createWorkflow_store pool now definition with ⟨error, refused⟩ | stored
  · exact absurd refused accepted
  · rcases create_cases pool now definition with
      ⟨error, _, refused⟩ | ⟨works, _⟩ | ⟨left, refused⟩
    · exact absurd refused accepted
    · rw [stored]
      exact Database.upsertWorkflow_holds works now definition
    · exact absurd refused accepted

/-- The tables hold a definition whose posting was answered with success. -/
theorem posted_held (pool : state.database = some .whole)
    (read : request.demand now.wall = .ok (.create definition))
    (accepted : (state.handle now request).1.status = 201) :
    (state.handle now request).2.engine.store.Holds definition := by
  obtain ⟨response, after⟩ := state.handle_demand read
  rw [response, HttpRequest.sent_status] at accepted
  rw [after]
  exact created_held pool accepted

/-- A posted definition is loaded but for its version, which has to fit. -/
theorem posted_definition_loaded (pool : state.database = some .whole)
    (clock : now.wall.Representable)
    (read : request.demand now.wall = .ok (.create definition))
    (accepted : (state.handle now request).1.status = 201)
    (unwritten : (state.handle now request).2.Unwritten definition.id turns)
    (works : ((state.handle now request).2.after turns).engine.store.failingStatements = 0)
    (later : Timestamp) :
    (Database.loadDefinition later definition.id
        ((state.handle now request).2.after turns).engine.store).1 =
      .ok { definition with version := versionColumn definition.version } ∧
    ((Database.loadDefinition later definition.id
        ((state.handle now request).2.after turns).engine.store).1 = .ok definition ↔
      1 ≤ definition.version ∧ definition.version < 2147483648) := by
  have pooled : (state.handle now request).2.database = some .whole :=
    (state.react_database (.request now request)).trans pool
  have kept : ((state.handle now request).2.after turns).engine.store.Holds definition := by
    obtain ⟨time, row⟩ := posted_held pool read accepted
    exact ⟨time, (after_row pooled unwritten).trans row⟩
  have loaded := kept.load works (HttpRequest.demand_writable clock read) later
  refine ⟨loaded, ?_⟩
  rw [loaded, Except.ok.injEq, ← versionColumn_same]
  obtain ⟨_, _, _, _, _, _, _, _⟩ := definition
  simp

end

theorem dawn_representable : dawn.wall.Representable := by
  constructor
  · decide
  · exact .inl (by decide)

theorem posting_accepted : (fresh.handle dawn posting).1.status = 201 := by
  decide +kernel

/-- The database is out for a while after the workflow was posted. -/
def afterwards : List (HttpTurn Database) :=
  [.demand dawn (.delete ⟨5⟩), .outage 1, .demand dawn .health]

theorem afterwards_works :
    ((fresh.handle dawn posting).2.after afterwards).engine.store.failingStatements = 0 := by
  decide +kernel

/-- The workflow with one node is loaded as it was posted. -/
theorem single_loaded :
    (Database.loadDefinition dawn.wall single.id
      ((fresh.handle dawn posting).2.after afterwards).engine.store).1 = .ok single := by
  have other : (⟨5⟩ : Uuid) ≠ single.id := by decide
  have unwritten : (fresh.handle dawn posting).2.Unwritten single.id afterwards :=
    ⟨fun writes => other writes.1, fun never => never, fun writes => writes.1, trivial⟩
  have loaded := posted_definition_loaded rfl dawn_representable posting_read.2 posting_accepted
    unwritten afterwards_works dawn.wall
  exact loaded.2.mpr ⟨by decide, by decide⟩

/-- This workflow has a version that needs all 32 bits. -/
def large : Definition := { single with version := 2147483648 }

/-- This request posts that workflow. -/
def postingLarge : HttpRequest := { posting with
  body := Text.Utf8.encode
    ("\x7b\"id\":\"00000000-0000-4000-8000-000000000001\",\"name\":\"wf\"," ++
      "\"version\":2147483648,\"nodes\":[\x7b\"id\":\"a\",\"node_type\":\"passthrough\"\x7d]\x7d") }

theorem postingLarge_read : postingLarge.demand dawn.wall = .ok (.create large) ∧
    (fresh.handle dawn postingLarge).1.status = 201 ∧
    (fresh.handle dawn postingLarge).2.engine.store.failingStatements = 0 := by
  decide +kernel

/-- A workflow is posted with success, and at once another version of it is loaded. -/
theorem large_version_reset :
    ¬∀ (request : HttpRequest) (definition : Definition),
      request.demand dawn.wall = .ok (.create definition) →
      (fresh.handle dawn request).1.status = 201 →
      (Database.loadDefinition dawn.wall definition.id
        (fresh.handle dawn request).2.engine.store).1 = .ok definition := by
  intro loads
  obtain ⟨read, accepted, works⟩ := postingLarge_read
  have same := loads _ _ read accepted
  have held : (fresh.handle dawn postingLarge).2.engine.store.Holds large :=
    posted_held rfl read accepted
  rw [held.load works (HttpRequest.demand_writable dawn_representable read) dawn.wall,
    Except.ok.injEq] at same
  have version : versionColumn large.version = large.version := congrArg Definition.version same
  exact absurd version (by decide)

end HttpState

end WorkflowEngine
