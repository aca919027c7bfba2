import ProgramGraph.Node

/-! What can go wrong while a program graph is made. The first three problems are recorded on the graph
    and the work goes on; the others end it. -/

namespace ProgramGraph

/-- The kinds of the problems that a graph records. -/
inductive ProblemKind
  | parseError
  | duplicateSymbol
  | unresolvedReference
  deriving DecidableEq, Repr

inductive Severity
  | error
  | warning
  | info
  deriving DecidableEq, Repr

namespace Severity

def text : Severity → String
  | error => "error"
  | warning => "warning"
  | info => "info"

end Severity

namespace ProblemKind

def text : ProblemKind → String
  | parseError => "parse_error"
  | duplicateSymbol => "duplicate_symbol"
  | unresolvedReference => "unresolved_reference"

def severity : ProblemKind → Severity
  | parseError => .error
  | duplicateSymbol => .warning
  | unresolvedReference => .info

end ProblemKind

inductive Problem
  /-- A file that does not parse. -/
  | parse (path reason : String)
  /-- A name that is taken; the first holder keeps it. -/
  | duplicateSymbol (qualname kept rejected : String)
  /-- A name that stands for nothing known. -/
  | unresolvedReference (module reference reason : String)
  /-- A node without edges in an audited graph. -/
  | orphanPolicyViolation (node : NodeId)
  /-- An edge between nodes that are not both in the graph. -/
  | danglingEdge (source target : NodeId)
  /-- No grammar to parse with. -/
  | grammar (text : String)
  deriving DecidableEq, Repr

namespace Problem

def message : Problem → String
  | parse path reason => s!"failed to parse {path}: {reason}"
  | duplicateSymbol qualname kept rejected =>
    s!"duplicate symbol {qualname}: kept {kept}, rejected {rejected}"
  | unresolvedReference module reference reason =>
    "unresolved reference `" ++ reference ++ "` in " ++ module ++ ": " ++ reason
  | orphanPolicyViolation node => s!"node {node} has no incident edges after the orphan audit"
  | danglingEdge source target =>
    s!"edge {source} -> {target} references a node that is not in the graph"
  | grammar text => s!"python grammar unavailable: {text}"

/-- The kind under which a graph records a problem; a fatal problem has none. -/
def kind? : Problem → Option ProblemKind
  | parse .. => some .parseError
  | duplicateSymbol .. => some .duplicateSymbol
  | unresolvedReference .. => some .unresolvedReference
  | orphanPolicyViolation _ | danglingEdge .. | grammar _ => none

/-- A fatal problem ends the work instead of being recorded. -/
def isFatal (p : Problem) : Bool :=
  p.kind?.isNone

/-- The file that a problem names itself. -/
def path? : Problem → Option String
  | parse path _ => some path
  | _ => none

/-- The module that a problem names itself. -/
def module? : Problem → Option String
  | unresolvedReference module _ _ => some module
  | _ => none

end Problem

end ProgramGraph
