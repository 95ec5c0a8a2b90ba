/-
This file is the program of the command line. It reads the files that the arguments name, asks for
the time and for random identifiers, and prints what the command gives.
-/

import Std.Time.DateTime.Timestamp
import WorkflowEngine.CommandLine.Command

open WorkflowEngine

def readFiles (paths : List String) : IO (Table String String) :=
  paths.foldlM (fun (files : Table String String) (path : String) => do
    try
      let text ← IO.FS.readFile path
      return Table.insert files path text
    catch _ => return files) []

def randomId : IO Nat := do
  let high ← IO.rand 0 (Nat.pow 2 48 - 1)
  let middle ← IO.rand 0 (Nat.pow 2 12 - 1)
  let low ← IO.rand 0 (Nat.pow 2 62 - 1)
  return high * Nat.pow 2 80 + 4 * Nat.pow 2 76 + middle * Nat.pow 2 64 + 2 * Nat.pow 2 62 + low

def timeOfDay : IO Time.Timestamp := do
  let now ← Std.Time.Timestamp.now
  return ⟨now.val.second.val, now.val.nano.val.toNat⟩

def environment : IO Manual.Environment := do
  let names := Manual.commands.flatMap fun entry => entry.options.filterMap Manual.Argument.variableName
  names.filterMapM fun name => do
    return (← IO.getEnv name).map fun value => (name, value)

def main (arguments : List String) : IO UInt32 := do
  let result ← match Arguments.read (← environment) arguments with
    | .error error => pure (CommandResult.ofUsage error)
    | .ok invocation => do
      let context : CommandContext := {
        files := ← readFiles invocation.paths
        now := ← timeOfDay
        ids := ⟨← randomId⟩
        tenant := ⟨BitVec.ofNat 128 (← randomId)⟩ }
      pure (context.perform invocation)
  IO.print result.output
  IO.eprint result.errors
  return UInt32.ofNat result.exitCode
