import ProgramGraph.Problem
import ProgramGraph.Tally

/-! A problem as a graph records it, with the place where it arose, and the count of recorded problems
    by kind and by severity. -/

namespace ProgramGraph

structure Diagnostic where
  kind : ProblemKind
  severity : Severity
  path : Option String := none
  module : Option String := none
  line : Option Nat := none
  message : String
  deriving DecidableEq, Repr

namespace Diagnostic

/-- The record of a problem; a fatal problem has none. -/
def ofProblem? (p : Problem) : Option Diagnostic :=
  p.kind?.map fun kind =>
    { kind, severity := kind.severity, path := p.path?, module := p.module?, message := p.message }

/-- The record of a problem with its place, where that is known. -/
def located? (p : Problem) (path : Option String) (line : Option Nat) : Option Diagnostic :=
  (ofProblem? p).map fun d => { d with path := path.or d.path, line := line.or d.line }

structure Summary where
  total : Nat
  byKind : Tally
  bySeverity : Tally

def summarize (ds : List Diagnostic) : Summary where
  total := ds.length
  byKind := .ofList (ds.map fun d => d.kind.text)
  bySeverity := .ofList (ds.map fun d => d.severity.text)

end Diagnostic

end ProgramGraph
