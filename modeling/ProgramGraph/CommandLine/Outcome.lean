import ProgramGraph.CommandLine.Arguments
import ProgramGraph.Corpus
import ProgramGraph.Report
import ProgramGraph.Scan

/-! What a run of the command line prints, and the code with which it ends: 0 after a report or a help text,
    1 when no graph could be made, 2 when the arguments are at fault. -/

namespace ProgramGraph.CommandLine

def sharedHelp : String :=
  "Options:
      --repo <REPO>                [default: .]
      --no-ignore                  Include files ignored by .gitignore
      --orphans <ORPHANS>          What to do with nodes left without edges: debug|prune
      --third-party <THIRD_PARTY>  Top-level packages to classify as third-party
      --assume-third-party         Classify every unknown top-level import as third-party
      --sequential                 Visit files one after the other
"

def helpText : Option Command → String
  | none =>
    "Resolved cross-file graph of a Python source tree

Usage: programgraph <COMMAND>

Commands:
  build  Build the graph and print stats, diagnostics summary and fingerprint
  dump   Build the graph and print every node, edge and diagnostic
  help   Print this message or the help of the given subcommand(s)

Options:
  -h, --help     Print help
  -V, --version  Print version

Examples:
  programgraph build --repo .
  programgraph build --repo . --orphans prune --third-party requests,numpy
  programgraph dump --repo src --pretty
"
  | some .build =>
    "Build the graph and print stats, diagnostics summary and fingerprint

Usage: programgraph build [OPTIONS]

" ++ sharedHelp ++ "  -h, --help                       Print help
"
  | some .dump =>
    "Build the graph and print every node, edge and diagnostic

Usage: programgraph dump [OPTIONS]

" ++ sharedHelp ++ "      --pretty                     Indent the JSON output
  -h, --help                       Print help
"

namespace Stop

/-- Help and version are asked for; everything else is a fault. -/
def isFault : Stop → Bool
  | help _ | version => false
  | _ => true

def message : Stop → String
  | help command => helpText command
  | version => "programgraph 0.1.0\n"
  | noCommand => helpText none
  | unknownCommand text => s!"error: unrecognized subcommand {text}\n"
  | unknownArgument text => s!"error: unexpected argument {text} found\n"
  | invalidValue parameter value => s!"error: invalid value {value} for --{parameter.text}\n"
  | missingValue parameter => s!"error: a value is required for --{parameter.text} but none was supplied\n"
  | repeated name => s!"error: the argument --{name} cannot be used multiple times\n"
  | needlessValue switch value => s!"error: unexpected value {value} for --{switch} found\n"

end Stop

structure Outcome where
  code : UInt32
  /-- What is printed, for the number of milliseconds that the run took. -/
  output : (milliseconds : Nat) → String
  complaint : String := ""

namespace Outcome

def ofStop (s : Stop) : Outcome where
  code := if s.isFault then 2 else 0
  output _ := if s.isFault then "" else s.message
  complaint := if s.isFault then s.message else ""

def failure (message : String) : Outcome where
  code := 1
  output _ := ""
  complaint := s!"Error: {message}\n"

end Outcome

namespace Arguments

/-- The graph that a command is about, or why there is none. -/
def graph (a : Arguments) (d : Disk) (s : Settings) : Except String Graph := do
  let s := a.apply s
  let tree ← d.scan (!a.has .noIgnore) a.repo
  (tree.build s (Classifier.ofSettings s)).mapError Problem.message

/-- The report that a command prints. -/
def report (a : Arguments) (g : Graph) (milliseconds : Nat) : String :=
  match a.command with
  | .build => (Report.overview g a.repo milliseconds).indented 0
  | .dump =>
    let value := Report.full g milliseconds
    if a.has .pretty then value.indented 0 else value.compact

/-- Runs a command on the files of a disk, with the settings of the environment. -/
def run (a : Arguments) (d : Disk) (s : Settings) : Outcome :=
  match a.graph d s with
  | .ok g => { code := 0, output := fun milliseconds => a.report g milliseconds ++ "\n" }
  | .error message => .failure message

end Arguments

/-- Runs the command that the arguments ask for. -/
def run (written : List String) (d : Disk) (s : Settings) : Outcome :=
  match read written with
  | .ok a => a.run d s
  | .error stop => .ofStop stop

end ProgramGraph.CommandLine
