/-
This file holds the commands of the command line with their options, and the pages of the manual
that describe them.
-/

import WorkflowEngine.Uuid

namespace WorkflowEngine.Manual

/-- The variables of the environment that are set. -/
abbrev Environment := List (String × String)

/-- An argument takes one value. An option is named before its value; a path is not. -/
structure Argument where
  name : String
  shown : String
  about : String := ""
  variableName : Option String := none
  standard : Option String := none
  required : Bool := false
  mayBeEmpty : Bool := true
  complaint? : String → Option String := fun _ => none

/-- A command takes options, and may take a path. -/
structure CommandEntry where
  name : String
  about : String
  options : List Argument
  path : Option Argument := none

/-- This option names the file of settings and may stand anywhere. -/
def configOption : Argument :=
  { name := "--config"
    shown := "--config <CONFIG>"
    about := "Engine configuration file (JSON). Missing fields keep their defaults"
    variableName := some "STEPWISE_CONFIG"
    mayBeEmpty := false }

/-- This option holds the input of a run. -/
def inputOption : Argument :=
  { name := "--input", shown := "--input <INPUT>", about := "Trigger input as a JSON document" }

/-- This option names the tenant of a run. -/
def tenantOption : Argument :=
  { name := "--tenant"
    shown := "--tenant <TENANT>"
    about := "Tenant to run as; a random one when omitted"
    complaint? := fun text =>
      if (Uuid.ofText? text).isSome then none else some (Uuid.fault text.toList).message }

/-- This option holds the address of the database. -/
def databaseOption : Argument :=
  { name := "--database-url"
    shown := "--database-url <DATABASE_URL>"
    variableName := some "DATABASE_URL"
    required := true }

/-- This option holds the address on which the server listens. -/
def bindOption : Argument :=
  { name := "--bind"
    shown := "--bind <BIND>"
    variableName := some "STEPWISE_BIND"
    standard := some "0.0.0.0:8080" }

/-- This option holds the number of connections to the database. -/
def connectionsOption : Argument :=
  { name := "--max-connections"
    shown := "--max-connections <MAX_CONNECTIONS>"
    standard := some "10"
    complaint? := fun text =>
      if text.isNat then none else some "invalid digit found in string" }

/-- This argument names the file of a workflow. -/
def pathArgument : Argument :=
  { name := "<PATH>"
    shown := "<PATH>"
    about := "Path to the workflow JSON file"
    required := true
    mayBeEmpty := false }

def commands : List CommandEntry := [
  { name := "serve"
    about := "Start the REST API server"
    options := [bindOption, configOption, databaseOption, connectionsOption] },
  { name := "migrate"
    about := "Run pending database migrations"
    options := [configOption, databaseOption] },
  { name := "validate"
    about := "Validate a workflow definition JSON file"
    options := [configOption]
    path := some pathArgument },
  { name := "run"
    about := "Run a workflow definition once, in memory, and print the execution"
    options := [configOption, inputOption, tenantOption]
    path := some pathArgument }]

/-- This command shows a page of the manual. -/
def helpEntry : CommandEntry :=
  { name := "help"
    about := "Print this message or the help of the given subcommand(s)"
    options := [] }

def find? (name : String) : Option CommandEntry :=
  commands.find? fun entry => entry.name == name

def padded (width : Nat) (text : String) : String :=
  text ++ String.ofList (List.replicate (width - text.length) ' ')

def columns (rows : List (String × String)) : List String :=
  let width := (rows.map fun row => row.1.length).foldl max 0
  rows.map fun row => "  " ++ padded width row.1 ++ "  " ++ row.2

def valueOf (environment : Environment) (name : String) : String :=
  (environment.lookup name).getD ""

def description (environment : Environment) (argument : Argument) : String :=
  let origin := argument.variableName.map fun name =>
    "[env: " ++ name ++ "=" ++ valueOf environment name ++ "]"
  let standard := argument.standard.map fun value => "[default: " ++ value ++ "]"
  " ".intercalate ((if argument.about.isEmpty then [] else [argument.about]) ++
    origin.toList ++ standard.toList)

/-- The name of an option stands behind the place of a short one. -/
def optionRow (environment : Environment) (option : Argument) : String × String :=
  ("    " ++ option.shown, description environment option)

/-- Every command but that for help explains itself. -/
def helpRow : String × String := ("-h, --help", "Print help")

/-- Only the program as a whole tells its version. -/
def versionRow : String × String := ("-V, --version", "Print version")

def page (sections : List (List String)) : String :=
  "\n\n".intercalate (sections.map fun lines => "\n".intercalate lines)

/-- This page describes the program. -/
def programPage (environment : Environment) : String :=
  page [["Multi-tenant workflow automation engine"],
    ["Usage: stepwise [OPTIONS] <COMMAND>"],
    "Commands:" :: columns ((commands ++ [helpEntry]).map fun entry => (entry.name, entry.about)),
    "Options:" :: columns [optionRow environment configOption, helpRow, versionRow]]

def usage (entry : CommandEntry) : String :=
  " ".intercalate (["Usage: stepwise " ++ entry.name, "[OPTIONS]"] ++
    (entry.options.filter fun option => option.required).map Argument.shown ++
    entry.path.toList.map Argument.shown)

/-- This page describes a command. -/
def commandPage (environment : Environment) (entry : CommandEntry) : String :=
  let path := entry.path.toList.map fun path =>
    "Arguments:" :: columns [(path.shown, description environment path)]
  page ([[entry.about], [usage entry]] ++ path ++
    ["Options:" :: columns (entry.options.map (optionRow environment) ++ [helpRow])])

/-- This page describes the command for help, which has no options. -/
def helpPage : String :=
  page [[helpEntry.about], ["Usage: stepwise help [COMMAND]..."],
    "Arguments:" :: columns [("[COMMAND]...", "Print help for the subcommand(s)")]]

end WorkflowEngine.Manual
