import ProgramGraph.Settings

/-! The arguments of the command line: a command, then switches and options with values. Arguments are read
    in order and the first fault ends the reading. A value that stands in an argument of its own is only
    looked at when the next switch or option comes, or at the end; so an argument that is not known is
    complained about first. -/

namespace ProgramGraph.CommandLine
open Text

inductive Command
  /-- Build the graph and print its counts. -/
  | build
  /-- Build the graph and print it. -/
  | dump
  deriving DecidableEq, Repr

inductive Switch
  | noIgnore
  | assumeThirdParty
  | sequential
  | pretty
  deriving DecidableEq, Repr

/-- The options that take a value. -/
inductive Parameter
  | repo
  | orphans
  | thirdParty
  deriving DecidableEq, Repr

namespace Command

def text : Command → String
  | build => "build"
  | dump => "dump"

def ofText? (s : String) : Option Command :=
  [build, dump].find? fun command => command.text == s

/-- The switches that a command knows. -/
def switches : Command → List Switch
  | build => [.noIgnore, .assumeThirdParty, .sequential]
  | dump => [.noIgnore, .assumeThirdParty, .sequential, .pretty]

end Command

def Switch.text : Switch → String
  | noIgnore => "no-ignore"
  | assumeThirdParty => "assume-third-party"
  | sequential => "sequential"
  | pretty => "pretty"

namespace Parameter

def text : Parameter → String
  | repo => "repo"
  | orphans => "orphans"
  | thirdParty => "third-party"

def ofText? (s : String) : Option Parameter :=
  [repo, orphans, thirdParty].find? fun parameter => parameter.text == s

end Parameter

/-- Why no command is run. -/
inductive Stop
  | help (command : Option Command)
  | version
  /-- There are no arguments at all. -/
  | noCommand
  | unknownCommand (text : String)
  | unknownArgument (text : String)
  | invalidValue (parameter : Parameter) (value : String)
  | missingValue (parameter : Parameter)
  /-- A switch or an option that may only be given once. -/
  | repeated (name : String)
  | needlessValue (switch value : String)
  deriving DecidableEq, Repr

structure Arguments where
  command : Command
  switches : List Switch := []
  repo? : Option String := none
  orphans? : Option OrphanPolicy := none
  /-- The packages as they are given. -/
  thirdParty : List String := []
  deriving DecidableEq, Repr

namespace Arguments

/-- The folder to search. -/
def repo (a : Arguments) : String :=
  a.repo?.getD "."

def has (a : Arguments) (s : Switch) : Bool :=
  a.switches.contains s

/-- Settings with what the arguments say on top. Packages are added, once each, and never taken away. -/
def apply (a : Arguments) (s : Settings) : Settings :=
  { s with
    orphanPolicy := a.orphans?.getD s.orphanPolicy
    thirdParty := a.thirdParty.foldl (fun known package =>
      let package := trim package
      if package.isEmpty || known.contains package then known else known ++ [package]) s.thirdParty
    assumeThirdParty := s.assumeThirdParty || a.has .assumeThirdParty
    parallel := s.parallel && !a.has .sequential }

def addSwitch (a : Arguments) (s : Switch) : Except Stop Arguments :=
  if a.has s then .error (.repeated s.text) else .ok { a with switches := a.switches ++ [s] }

/-- Gives a parameter a value. Packages are divided by commas and may be given more than once. -/
def addValue (a : Arguments) (p : Parameter) (value : String) : Except Stop Arguments :=
  match p with
  | .repo =>
    if a.repo?.isSome then .error (.repeated p.text)
    else if value.isEmpty then .error (.invalidValue p value)
    else .ok { a with repo? := some value }
  | .orphans =>
    if a.orphans?.isSome then .error (.repeated p.text)
    else
      match OrphanPolicy.ofText? value with
      | some policy => .ok { a with orphans? := some policy }
      | none => .error (.invalidValue p value)
  | .thirdParty => .ok { a with thirdParty := a.thirdParty ++ splitAt ',' value }

end Arguments

/-! ### Reading -/

/-- The form of an argument. -/
inductive Form
  /-- `--name` or `--name=value`. -/
  | long (name : String) (value? : Option String)
  /-- `-x`, by its first letter. -/
  | short (letter : Char)
  | plain
  deriving DecidableEq

def Form.ofText (s : String) : Form :=
  match s.toList with
  | '-' :: '-' :: rest =>
    let name := String.ofList (rest.takeWhile (· != '='))
    match rest.dropWhile (· != '=') with
    | [] => .long name none
    | _ :: value => .long name (some (String.ofList value))
  | '-' :: letter :: _ => .short letter
  | _ => .plain

/-- The arguments read so far, and an option whose value has not been looked at. -/
structure Reading where
  arguments : Arguments
  pending : Option (Parameter × Option String) := none

namespace Reading

/-- The arguments with the pending option among them. -/
def settle (r : Reading) : Except Stop Arguments :=
  match r.pending with
  | none => .ok r.arguments
  | some (p, none) => .error (.missingValue p)
  | some (p, some value) => r.arguments.addValue p value

def long (r : Reading) (written name : String) (value? : Option String) : Except Stop Reading :=
  let command := r.arguments.command
  match command.switches.find? (fun s => s.text == name), Parameter.ofText? name, value? with
  | some s, _, none => do return { arguments := ← (← r.settle).addSwitch s }
  | some _, _, some value => .error (.needlessValue name value)
  | none, some p, none => do return { arguments := ← r.settle, pending := some (p, none) }
  | none, some p, some value => do return { arguments := ← (← r.settle).addValue p value }
  | none, none, value? =>
    if name != "help" then .error (.unknownArgument written)
    else
      match value? with
      | some value => .error (.needlessValue name value)
      | none => do
        let _ ← r.settle
        .error (.help (some command))

/-- Reads one argument of a command. -/
def step (r : Reading) (written : String) : Except Stop Reading :=
  match Form.ofText written, r.pending with
  | .long name value?, _ => r.long written name value?
  | .short letter, _ =>
    if letter != 'h' then .error (.unknownArgument written)
    else do
      let _ ← r.settle
      .error (.help (some r.arguments.command))
  | .plain, some (p, none) => .ok { r with pending := some (p, some written) }
  | .plain, _ => .error (.unknownArgument written)

/-- Reads the arguments of a command. Behind `--` nothing more is known. -/
def run (r : Reading) : List String → Except Stop Arguments
  | [] => r.settle
  | written :: rest =>
    if written = "--" then
      match rest with
      | [] => r.settle
      | further :: _ => .error (.unknownArgument further)
    else do run (← r.step written) rest

end Reading

/-- What `help` stops with when it is asked about some commands. -/
def helpFor : List String → Stop
  | [] | ["help"] => .help none
  | "help" :: further :: _ => .unknownCommand further
  | first :: rest =>
    match Command.ofText? first, rest with
    | none, _ => .unknownCommand first
    | some command, [] => .help (some command)
    | some _, further :: _ => .unknownCommand further

/-- Reads all arguments. -/
def read : List String → Except Stop Arguments
  | [] | ["--"] => .error .noCommand
  | "--" :: further :: _ =>
    .error <|
      if further = "help" || (Command.ofText? further).isSome then .unknownArgument further
      else .unknownCommand further
  | written :: rest =>
    match Form.ofText written with
    | .long "help" none | .short 'h' => .error (.help none)
    | .long "version" none | .short 'V' => .error .version
    | .long name (some value) =>
      .error <|
        if name = "help" || name = "version" then .needlessValue name value else .unknownArgument written
    | .long _ none | .short _ => .error (.unknownArgument written)
    | .plain =>
      if written = "help" then .error (helpFor rest)
      else
        match Command.ofText? written with
        | some command => Reading.run { arguments := { command } } rest
        | none => .error (.unknownCommand written)

end ProgramGraph.CommandLine
