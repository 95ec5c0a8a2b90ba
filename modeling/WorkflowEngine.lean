import WorkflowEngine.Admission.Error
import WorkflowEngine.Admission.Gate
import WorkflowEngine.Admission.Request
import WorkflowEngine.CommandLine.Arguments
import WorkflowEngine.CommandLine.Command
import WorkflowEngine.CommandLine.Manual
import WorkflowEngine.Digest.Hmac
import WorkflowEngine.Digest.Sha256
import WorkflowEngine.Engine.Basic
import WorkflowEngine.Engine.Error
import WorkflowEngine.Engine.Progress
import WorkflowEngine.Engine.Registration
import WorkflowEngine.Engine.Start
import WorkflowEngine.Execution.Attempt
import WorkflowEngine.Execution.Job
import WorkflowEngine.Execution.Record
import WorkflowEngine.Execution.Run
import WorkflowEngine.Execution.Status
import WorkflowEngine.Execution.StepTask
import WorkflowEngine.Http.Failure
import WorkflowEngine.Http.Message
import WorkflowEngine.Http.Route
import WorkflowEngine.Http.Router
import WorkflowEngine.Json.Basic
import WorkflowEngine.Json.Lexeme
import WorkflowEngine.Json.Printer
import WorkflowEngine.Json.Reader
import WorkflowEngine.Json.Record
import WorkflowEngine.Json.Shape
import WorkflowEngine.Main
import WorkflowEngine.Node.Action
import WorkflowEngine.Node.Builtin
import WorkflowEngine.Node.Catalog
import WorkflowEngine.Node.Error
import WorkflowEngine.Node.Mock
import WorkflowEngine.Number.Binary64
import WorkflowEngine.Number.ShortestDecimal
import WorkflowEngine.Observation.Broadcast
import WorkflowEngine.Observation.Event
import WorkflowEngine.Observation.Metric
import WorkflowEngine.Proofs.Execution.Coherence
import WorkflowEngine.Proofs.Execution.Ledger
import WorkflowEngine.Proofs.Execution.Moves
import WorkflowEngine.Proofs.Execution.Release
import WorkflowEngine.Proofs.Execution.Skip
import WorkflowEngine.Proofs.Workflow.Peeling
import WorkflowEngine.Proofs.Workflow.PlanShape
import WorkflowEngine.Simulation.Clock
import WorkflowEngine.Simulation.State
import WorkflowEngine.Simulation.Task
import WorkflowEngine.Store.Basic
import WorkflowEngine.Store.Database
import WorkflowEngine.Store.Durable
import WorkflowEngine.Store.Error
import WorkflowEngine.Store.Memory
import WorkflowEngine.Store.Row
import WorkflowEngine.Table
import WorkflowEngine.Tenant.Limits
import WorkflowEngine.Tenant.Registry
import WorkflowEngine.Text.Blank
import WorkflowEngine.Text.Hexadecimal
import WorkflowEngine.Text.Quoted
import WorkflowEngine.Text.Utf8
import WorkflowEngine.Text.Visible
import WorkflowEngine.Time.Calendar
import WorkflowEngine.Time.Duration
import WorkflowEngine.Time.Timestamp
import WorkflowEngine.Time.TimestampText
import WorkflowEngine.Uuid
import WorkflowEngine.Workflow.CompileError
import WorkflowEngine.Workflow.Compiler
import WorkflowEngine.Workflow.Definition
import WorkflowEngine.Workflow.EngineConfig
import WorkflowEngine.Workflow.Graph
import WorkflowEngine.Workflow.Plan
import WorkflowEngine.Workflow.RetryPolicy
import WorkflowEngine.Workflow.Trigger
import WorkflowEngine.Proofs.Execution.Opening
import WorkflowEngine.Proofs.Execution.Validity
import WorkflowEngine.Proofs.Execution.Attribution
import WorkflowEngine.Proofs.Execution.Course
import WorkflowEngine.Proofs.Execution.Soundness
import WorkflowEngine.Proofs.Execution.Dependencies
import WorkflowEngine.Proofs.Execution.Standing
import WorkflowEngine.Proofs.Execution.Skipping
import WorkflowEngine.Proofs.Execution.Evidence
import WorkflowEngine.Proofs.Execution.Reference
import WorkflowEngine.Proofs.Execution.ScheduleIndependence
import WorkflowEngine.Proofs.Execution.TerminalStatus
import WorkflowEngine.Proofs.Table
import WorkflowEngine.Proofs.Sorting
import WorkflowEngine.Proofs.Time.Elapsed
import WorkflowEngine.Proofs.Workflow.CheckedPeeling
import WorkflowEngine.Proofs.Workflow.Acyclicity
import WorkflowEngine.Proofs.Workflow.CheckedCompiler
import WorkflowEngine.Proofs.Workflow.Acceptance
import WorkflowEngine.Proofs.Workflow.ReportedCycle
import WorkflowEngine.Proofs.Execution.Steady
import WorkflowEngine.Proofs.Execution.Counters
import WorkflowEngine.Proofs.Execution.Poise
import WorkflowEngine.Proofs.Execution.Progress
import WorkflowEngine.Proofs.Execution.Closing
import WorkflowEngine.Proofs.Admission.RateWindows
import WorkflowEngine.Proofs.Admission.Running
import WorkflowEngine.Proofs.Engine.Course
import WorkflowEngine.Proofs.Engine.Undisturbed
import WorkflowEngine.Proofs.Engine.PlanCache
import WorkflowEngine.Proofs.Engine.Traffic
import WorkflowEngine.Proofs.Engine.Capacity
import WorkflowEngine.Proofs.Execution.Finality
import WorkflowEngine.Proofs.Execution.Acknowledged
import WorkflowEngine.Proofs.Execution.WriteAhead
import WorkflowEngine.Proofs.Execution.StoredEnd
import WorkflowEngine.Proofs.Engine.WebhookBindings
import WorkflowEngine.Proofs.Engine.WebhookCoherence
import WorkflowEngine.Proofs.Engine.WellPlanned
import WorkflowEngine.Proofs.Engine.StoredRecords
import WorkflowEngine.Proofs.Engine.Chronicle
import WorkflowEngine.Proofs.Engine.TerminalReads
import WorkflowEngine.Proofs.Execution.Routes
import WorkflowEngine.Proofs.Execution.Dispatch
import WorkflowEngine.Proofs.Execution.StopRequests
import WorkflowEngine.Proofs.Execution.Notices
import WorkflowEngine.Proofs.Execution.Accounting
import WorkflowEngine.Proofs.Execution.Advancement
import WorkflowEngine.Proofs.Engine.SnapshotOrder
import WorkflowEngine.Proofs.Execution.MirroredRun
import WorkflowEngine.Proofs.Engine.StoreMirror
import WorkflowEngine.Proofs.Http.Demands
import WorkflowEngine.Proofs.Http.FailedRequests
import WorkflowEngine.Proofs.Store.DurableRecords
import WorkflowEngine.Proofs.Admission.Isolation
import WorkflowEngine.Proofs.Engine.Masking
import WorkflowEngine.Proofs.Http.SecretSecrecy
import WorkflowEngine.Proofs.Time.DayNumbers
import WorkflowEngine.Proofs.Time.WrittenTimestamps
import WorkflowEngine.Proofs.Json.NormalForm
import WorkflowEngine.Proofs.Text.WrittenUuids
import WorkflowEngine.Proofs.Workflow.WrittenDefinitions
import WorkflowEngine.Proofs.Http.WorkflowRows
import WorkflowEngine.Proofs.Http.PostedDefinitions
import WorkflowEngine.Proofs.Workflow.PlanEdges
import WorkflowEngine.Proofs.Workflow.CanonicalOrder
import WorkflowEngine.Proofs.Workflow.Relisting
import WorkflowEngine.Proofs.Admission.Refusals
import WorkflowEngine.Proofs.Engine.TriggerDecision
import WorkflowEngine.Proofs.Execution.Attempts
import WorkflowEngine.Proofs.Simulation.StepMoves
import WorkflowEngine.Proofs.Execution.RetryLoop
import WorkflowEngine.Proofs.Simulation.TaskMoves
import WorkflowEngine.Proofs.Simulation.Course
import WorkflowEngine.Proofs.Simulation.JobCourses
import WorkflowEngine.Proofs.Simulation.Invocations
import WorkflowEngine.Proofs.Time.Waiting
import WorkflowEngine.Proofs.Admission.RetryAfter
import WorkflowEngine.Proofs.Text.HexadecimalBytes
import WorkflowEngine.Proofs.Text.Trimming
import WorkflowEngine.Proofs.Admission.Signatures
import WorkflowEngine.Proofs.Execution.AttemptCounts
import WorkflowEngine.Proofs.Execution.RecordShape
import WorkflowEngine.Proofs.Store.PlanOrder
import WorkflowEngine.Proofs.Admission.IdleTenants
import WorkflowEngine.Proofs.Store.ExecutionTables
import WorkflowEngine.Proofs.Execution.RepeatedSaves
import WorkflowEngine.Proofs.Simulation.RunPauses
import WorkflowEngine.Proofs.Engine.SaveRetries
