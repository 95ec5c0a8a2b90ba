/-
This file holds the loop that gives the tasks their turns. The caller has its turn before the tasks
whenever it can go on, and at the latest after a fixed number of turns. When no task can go on the
clock goes to the next timer.
-/

import WorkflowEngine.Simulation.Task

namespace WorkflowEngine.Simulation

variable {S : Type}

/-- A caller waits for a time, for the end of an execution, or for its next turn. -/
inductive Goal where
  | time (ticks : Nat)
  | terminal (execution : Uuid)
  | turn

def reached (simulation : Simulation S) : Goal → Bool
  | .time ticks => decide (ticks ≤ simulation.ticks)
  | .terminal execution =>
    match simulation.snapshots.get? execution with
    | some snapshot => snapshot.status.isTerminal
    | none => false
  | .turn => !simulation.deferred.contains .caller

/-- The number of turns of tasks between two turns of the caller. -/
def turnsPerRound : Nat := 61

/-- Without a timer there is no next moment. -/
def passTime? (simulation : Simulation S) : Option (Simulation S) :=
  match simulation.timers with
  | [] => none
  | first :: _ =>
    let ticks := max simulation.ticks first.due
    let due := simulation.timers.takeWhile fun timer => timer.due ≤ ticks
    let later := simulation.timers.dropWhile fun timer => timer.due ≤ ticks
    some (due.foldl (fun simulation timer =>
      if timer.name = .caller then simulation else simulation.wake timer.name)
      { simulation with ticks := ticks, timers := later })

/-- The list `turns` is left in the round, and `current` has the turn. -/
def runTasks [ExecutionStore S] (goal : Goal) : Nat → Nat → Option TaskName → Simulation S →
    Simulation S
  | 0, _, _, simulation => simulation
  | fuel + 1, turns, some name, simulation =>
    let move := simulation.move name
    runTasks goal fuel turns (if move.goesOn then some name else none) move.simulation
  | fuel + 1, 0, none, simulation =>
    let woken := simulation.wakeDeferred
    if woken.reached goal then woken else runTasks goal fuel turnsPerRound none woken
  | fuel + 1, turns + 1, none, simulation =>
    match simulation.queue with
    | name :: rest =>
      runTasks goal fuel turns (some name)
        { simulation with queue := rest, credit := creditPerTurn }
    | [] =>
      let idle := simulation.deferred.isEmpty
      let simulation := simulation.wakeDeferred
      if simulation.reached goal then simulation
      else if !idle then runTasks goal fuel turnsPerRound none simulation
      else
        match simulation.passTime? with
        | none => simulation
        | some simulation =>
          if simulation.reached goal then simulation
          else runTasks goal fuel turnsPerRound none simulation

/-- The loop is cut off after so many moves. -/
def moveLimit : Nat := 1000000000

def runUntil [ExecutionStore S] (simulation : Simulation S) (goal : Goal) : Simulation S :=
  { runTasks goal moveLimit turnsPerRound none simulation with callerCredit := creditPerTurn }

/-- A caller without credit has to wait for its next turn. -/
def callerTurn [ExecutionStore S] (simulation : Simulation S) : Simulation S :=
  if simulation.callerCredit = 0 then (simulation.defer .caller).runUntil .turn else simulation

def chargeCaller (simulation : Simulation S) : Simulation S :=
  { simulation with callerCredit := simulation.callerCredit - 1 }

/-- A goal that is reached already takes no turn. -/
def await [ExecutionStore S] (simulation : Simulation S) (goal : Goal) : Simulation S :=
  (if simulation.reached goal then simulation else simulation.runUntil goal).chargeCaller

def rest [ExecutionStore S] (simulation : Simulation S) (milliseconds : Nat) : Simulation S :=
  let simulation := simulation.callerTurn
  let due := simulation.ticks + milliseconds
  if milliseconds = 0 then simulation.chargeCaller
  else (simulation.setTimer due .caller).await (.time due)

def awaitOn? [ExecutionStore S] (simulation : Simulation S) (executorName : String) (id : Uuid) :
    Option Execution × Simulation S :=
  match simulation.engine.job? executorName id with
  | none => (none, simulation)
  | some _ =>
    let simulation := simulation.callerTurn.await (.terminal id)
    (simulation.snapshots.get? id, simulation)

/-- An execution that is not in memory is loaded from the store. -/
def awaitExecution [ExecutionStore S] (simulation : Simulation S) (id : Uuid) :
    Except EngineError Execution × Simulation S :=
  match simulation.awaitOn? simulation.engine.executor.name id with
  | (some execution, simulation) => (.ok execution, simulation)
  | (none, simulation) => simulation.call fun engine => engine.status id

end WorkflowEngine.Simulation
