/-
This file carries out the commands of the command line: it checks a workflow and prints its order,
or it runs a workflow once in memory and prints the execution. The commands that need a database
find none.
-/

import WorkflowEngine.CommandLine.Arguments
import WorkflowEngine.Simulation.Clock
import WorkflowEngine.Store.Memory

namespace WorkflowEngine

open Time

/-- What a command prints, and the code with which it ends. -/
structure CommandResult where
  exitCode : Nat
  output : String := ""
  errors : String := ""
  deriving DecidableEq, Repr

/-- The tenant is that of runs that name none. -/
structure CommandContext where
  files : Table String String
  now : Timestamp
  ids : IdSource
  tenant : Uuid

namespace CommandResult

def failure (message : String) : CommandResult :=
  { exitCode := 1, errors := "Error: " ++ message ++ "\n" }

def ofUsage (error : UsageError) : CommandResult :=
  if error.isRequest then { exitCode := 0, output := error.message ++ "\n" }
  else { exitCode := 2, errors := error.message ++ "\n" }

end CommandResult

namespace CommandContext

def readConfig (context : CommandContext) : Option String → Except String EngineConfig
  | none => .ok {}
  | some path =>
    match context.files.get? path with
    | none => .error ("cannot read config file " ++ path)
    | some text =>
      match EngineConfig.format.ofText? text with
      | some config => .ok config
      | none => .error ("invalid config file " ++ path)

def readDefinition (context : CommandContext) (path : String) : Except String Definition :=
  match context.files.get? path with
  | none => .error ("cannot read file " ++ path)
  | some text =>
    match (Definition.format context.now).ofText? text with
    | some definition => .ok definition
    | none => .error "invalid workflow JSON"

/-- Without a trigger input there is null. -/
def readInput : Option String → Except String Json
  | none => .ok .null
  | some text =>
    match Json.parseText? text with
    | some value => .ok value.normalize
    | none => .error "--input is not valid JSON"

/-- The engine keeps everything in memory and knows the built-in node types. -/
def engine (context : CommandContext) (config : EngineConfig) : Engine MemoryStore :=
  Engine.create config Catalog.builtin {} context.ids

/-- A valid workflow is answered by the order of its steps. -/
def validate (context : CommandContext) (config : EngineConfig) (path : String) :
    Except String CommandResult := do
  let definition ← context.readDefinition path
  match ((context.engine config).compile definition).1 with
  | .ok compiled => .ok {
      exitCode := 0
      output := "Workflow is valid. Execution order: " ++
        Text.Quoted.list compiled.plan.stepOrder ++ "\n" }
  | .error error => .ok { exitCode := 1, errors := "Validation failed: " ++ error.message ++ "\n" }

/-- An execution that does not succeed is printed too, and ends with another code. -/
def shown (execution : Execution) : CommandResult :=
  { exitCode := if execution.status = .succeeded then 0 else 1
    output := execution.encode.renderIndented ++ "\n" }

def execute (context : CommandContext) (engine : Engine MemoryStore) (plan : Plan)
    (tenant : Uuid) (input : Json) : Except String CommandResult :=
  let simulation := Simulation.create engine 1 context.now
  match simulation.call fun engine => engine.startExecution plan tenant input with
  | (.error error, _) => .error error.message
  | (.ok id, simulation) =>
    match (simulation.awaitExecution id).1 with
    | .error error => .error error.message
    | .ok execution => .ok (shown execution)

def run (context : CommandContext) (config : EngineConfig) (path : String)
    (input : Option String) (tenant : Option Uuid) : Except String CommandResult := do
  let definition ← context.readDefinition path
  let input ← readInput input
  match (context.engine config).compile definition with
  | (.error error, _) => .error error.message
  | (.ok compiled, engine) =>
    context.execute engine compiled.plan (tenant.getD context.tenant) input

/-- No connection to a database can be made. -/
def noDatabase : String := "failed to connect to database"

def perform (context : CommandContext) (invocation : Invocation) : CommandResult :=
  let result := do
    let config ← context.readConfig invocation.config
    match invocation.command with
    | .serve _ _ => .error noDatabase
    | .migrate _ => .error noDatabase
    | .validate path => context.validate config path
    | .run path input tenant => context.run config path input tenant
  match result with
  | .ok result => result
  | .error message => .failure message

end CommandContext

namespace Invocation

/-- An invocation reads these files. -/
def paths (invocation : Invocation) : List String :=
  invocation.config.toList ++ match invocation.command with
    | .serve _ _ => []
    | .migrate _ => []
    | .validate path => [path]
    | .run path _ _ => [path]

end Invocation

end WorkflowEngine
