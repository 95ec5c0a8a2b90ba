/-
This file reads the arguments of the command line. An option waits for its value, and a value is
checked when the next argument has been understood. The file of settings may be named before or
behind the command.
-/

import WorkflowEngine.CommandLine.Manual

namespace WorkflowEngine

open Manual

inductive Command where
  | serve (bind databaseUrl : String)
  | migrate (databaseUrl : String)
  | validate (path : String)
  | run (path : String) (input : Option String) (tenant : Option Uuid)
  deriving DecidableEq, Repr

structure Invocation where
  config : Option String
  command : Command
  deriving DecidableEq, Repr

/-- Arguments that name no command ask for a page of the manual or break a rule. -/
inductive UsageError where
  | help (page : String)
  | version
  | noArguments (page : String)
  | missingCommand
  | unknownCommand (word : String)
  | unexpectedArgument (word : String)
  | unexpectedValue (flag value : String)
  | missingValue (argument : String)
  | repeatedOption (option : String)
  | missingArguments (arguments : List String)
  | invalidValue (option value complaint : String)
  deriving DecidableEq, Repr

namespace UsageError

/-- Without any argument the text is the manual. -/
def message : UsageError → String
  | .help page => page
  | .version => "stepwise 0.1.0"
  | .noArguments page => page
  | .missingCommand => "error: 'stepwise' requires a subcommand but one was not provided"
  | .unknownCommand word => "error: unrecognized subcommand '" ++ word ++ "'"
  | .unexpectedArgument word => "error: unexpected argument '" ++ word ++ "' found"
  | .unexpectedValue flag value =>
    "error: unexpected value '" ++ value ++ "' for '" ++ flag ++ "' found; no more were expected"
  | .missingValue argument =>
    "error: a value is required for '" ++ argument ++ "' but none was supplied"
  | .repeatedOption option =>
    "error: the argument '" ++ option ++ "' cannot be used multiple times"
  | .missingArguments arguments =>
    "\n".intercalate ("error: the following required arguments were not provided:" ::
      arguments.map fun argument => "  " ++ argument)
  | .invalidValue option value complaint =>
    "error: invalid value '" ++ value ++ "' for '" ++ option ++ "': " ++ complaint

/-- A request for the manual or for the version is granted and is no failure. -/
def isRequest : UsageError → Bool
  | .help _ => true
  | .version => true
  | _ => false

end UsageError

namespace Arguments

/-- Behind the mark only words stand. -/
inductive Token where
  | long (name : String) (value : Option String)
  | short (first : Char)
  | word (text : String)
  | separator
  deriving DecidableEq, Repr

def token (argument : String) : Token :=
  match argument.toList with
  | ['-', '-'] => .separator
  | '-' :: '-' :: rest =>
    let name := rest.takeWhile fun c => c != '='
    let value := if name.length < rest.length then
      some (String.ofList (rest.drop (name.length + 1))) else none
    .long ("--" ++ String.ofList name) value
  | '-' :: first :: _ => .short first
  | _ => .word argument

/-- What may stand in one part of the command line: before the command, or behind it. -/
structure Scope where
  options : List Argument
  path : Option Argument
  page : String
  tellsVersion : Bool

/-- A pending argument waits for its value or for the check of its value. -/
structure Pending where
  argument : Argument
  value : Option String

/-- The environment adds its values at the end. -/
structure Level where
  values : List (String × String) := []
  standards : List (String × String) := []
  pending : Option Pending := none
  separated : Bool := false

namespace Level

def value? (level : Level) (argument : Argument) : Option String :=
  (level.values.lookup argument.name).or (level.standards.lookup argument.name)

def check (argument : Argument) (value : String) : Except UsageError Unit :=
  if value.isEmpty ∧ ¬ argument.mayBeEmpty then .error (.missingValue argument.shown)
  else
    match argument.complaint? value with
    | some complaint => .error (.invalidValue argument.shown value complaint)
    | none => .ok ()

/-- An argument stands at most once. -/
def keep (level : Level) (argument : Argument) (value : String) : Except UsageError Level := do
  if (level.values.lookup argument.name).isSome then .error (.repeatedOption argument.shown)
  else
    check argument value
    .ok { level with values := level.values ++ [(argument.name, value)] }

def settle (level : Level) : Except UsageError Level :=
  match level.pending with
  | none => .ok level
  | some ⟨argument, none⟩ => .error (.missingValue argument.shown)
  | some ⟨argument, some value⟩ => { level with pending := none }.keep argument value

/-- Behind the separator no option can get a value. -/
def awaiting (level : Level) : Option Argument :=
  match level.pending with
  | some ⟨argument, none⟩ => if level.separated then none else some argument
  | _ => none

def grant (level : Level) (request : UsageError) : Except UsageError Level := do
  let _ ← level.settle
  .error request

def addLong (scope : Scope) (level : Level) (name : String) (value : Option String) :
    Except UsageError Level :=
  match scope.options.find? fun option => option.name == name, value with
  | some option, some value => do (← level.settle).keep option value
  | some option, none => do .ok { (← level.settle) with pending := some ⟨option, none⟩ }
  | none, value =>
    let request :=
      if name = "--help" then some (UsageError.help scope.page)
      else if name = "--version" ∧ scope.tellsVersion then some .version
      else none
    match request, value with
    | none, _ => .error (.unexpectedArgument name)
    | some _, some value => .error (.unexpectedValue name value)
    | some request, none => level.grant request

def addShort (scope : Scope) (level : Level) (first : Char) : Except UsageError Level :=
  if first = 'h' then level.grant (.help scope.page)
  else if first = 'V' ∧ scope.tellsVersion then level.grant .version
  else .error (.unexpectedArgument ("-" ++ String.singleton first))

/-- The error tells what is wrong with a word too many. -/
def addWord (scope : Scope) (level : Level) (word : String) (surplus : UsageError) :
    Except UsageError Level := do
  match scope.path with
  | none => .error surplus
  | some path =>
    let taken := (level.values.lookup path.name).isSome ||
      (level.pending.any fun pending => pending.argument.name == path.name)
    if taken then .error surplus
    else .ok { (← level.settle) with pending := some ⟨path, some word⟩ }

def add (scope : Scope) (level : Level) (argument : String) (surplus : UsageError) :
    Except UsageError Level :=
  if level.separated then level.addWord scope argument surplus
  else
    match token argument with
    | .separator => .ok { level with separated := true }
    | .long name value => level.addLong scope name value
    | .short first => level.addShort scope first
    | .word word =>
      match level.awaiting with
      | some option => .ok { level with pending := some ⟨option, some word⟩ }
      | none => level.addWord scope word surplus

/-- Variables stand for options that are absent. -/
def finish (scope : Scope) (environment : Environment) (level : Level) : Except UsageError Level := do
  scope.options.foldlM (fun level option =>
    match level.values.lookup option.name,
        option.variableName.bind fun name => environment.lookup name with
    | none, some value => do
      check option value
      .ok { level with standards := (option.name, value) :: level.standards }
    | _, _ => .ok level) (← level.settle)

end Level

def scopeOf (environment : Environment) (entry : CommandEntry) : Scope :=
  ⟨entry.options, entry.path, commandPage environment entry, false⟩

def checkRequired (scope : Scope) (level : Level) : Except UsageError Unit :=
  let missing := (scope.options ++ scope.path.toList).filter fun argument =>
    argument.required && (level.value? argument).isNone
  if missing.isEmpty then .ok () else .error (.missingArguments (missing.map Argument.shown))

def behind (environment : Environment) (entry : CommandEntry) (rest : List String) :
    Except UsageError Level := do
  let scope := scopeOf environment entry
  let level ← rest.foldlM (fun (level : Level) argument =>
    level.add scope argument (.unexpectedArgument argument)) {}
  let level ← level.finish scope environment
  checkRequired scope level
  .ok level

def valueOf (level : Level) (argument : Argument) : String :=
  ((level.value? argument).or argument.standard).getD ""

def build (entry : CommandEntry) (level : Level) : Command :=
  match entry.name with
  | "serve" => .serve (valueOf level bindOption) (valueOf level databaseOption)
  | "migrate" => .migrate (valueOf level databaseOption)
  | "validate" => .validate (valueOf level pathArgument)
  | _ => .run (valueOf level pathArgument) (level.value? inputOption)
      ((level.value? tenantOption).bind Uuid.ofText?)

/-- The words behind the command for help name the page. -/
def manualPage (environment : Environment) : List String → UsageError
  | [] => .help (programPage environment)
  | name :: rest =>
    let page := if name = helpEntry.name then some helpPage
      else (find? name).map (commandPage environment)
    match page, rest with
    | none, _ => .unknownCommand name
    | some _, word :: _ => .unknownCommand word
    | some page, [] => .help page

def outerScope (environment : Environment) : Scope :=
  ⟨[configOption], none, programPage environment, true⟩

/-- A command behind the separator stands where none is expected. -/
def surplusBefore (level : Level) (word : String) : UsageError :=
  if level.separated ∧ ((find? word).isSome ∨ word = helpEntry.name) then .unexpectedArgument word
  else .unknownCommand word

def withoutCommand (environment : Environment) (level : Level) : Except UsageError Invocation := do
  let level ← level.finish (outerScope environment) environment
  .error (match level.value? configOption with
    | none => .noArguments (programPage environment)
    | some _ => .missingCommand)

/-- A file named behind the command goes before one in front of it. -/
def configOf (outer inner : Level) : Option String :=
  ((inner.values.lookup configOption.name).or (outer.values.lookup configOption.name)).or
    (inner.standards.lookup configOption.name)

/-- What is pending before the command is settled afterwards. -/
def withCommand (environment : Environment) (outer : Level) (entry : CommandEntry)
    (rest : List String) : Except UsageError Invocation := do
  let inner ← behind environment entry rest
  let outer ← outer.settle
  .ok ⟨configOf outer inner, build entry inner⟩

def leading (environment : Environment) (level : Level) :
    List String → Except UsageError Invocation
  | [] => withoutCommand environment level
  | argument :: rest =>
    let isWord := !level.separated && level.awaiting.isNone
    match if isWord then find? argument else none with
    | some entry => withCommand environment level entry rest
    | none =>
      if isWord ∧ argument = helpEntry.name then .error (manualPage environment rest)
      else do
        let level ← level.add (outerScope environment) argument (surplusBefore level argument)
        leading environment level rest

def read (environment : Environment) (arguments : List String) : Except UsageError Invocation :=
  leading environment {} arguments

end Arguments

end WorkflowEngine
