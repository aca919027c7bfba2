import ProgramGraph.Fingerprint
import ProgramGraph.Report.Value

/-! What is reported of a finished graph: its counters, problems and fingerprint, or the graph itself with
    every node and edge. A field that is not set is left out. -/

namespace ProgramGraph.Report

def optional (name : String) (value : Option Value) : List (String × Value) :=
  (value.map fun v => (name, v)).toList

def ofTally (t : Tally) : Value :=
  .ofFields (t.toList.map fun (name, n) => (name, .number n))

def ofNode (n : Node) : Value :=
  .ofFields <|
    [("id", .text n.id), ("label", .text n.label), ("kind", .text n.kind.text), ("module", .text n.module)] ++
    optional "parent" (n.parent.map .text) ++ optional "line" (n.line.map .number) ++
    optional "origin" (n.origin.map fun origin => .text origin.text)

def ofEdge (e : Edge) : Value :=
  .ofFields [("source", .text e.source), ("target", .text e.target), ("kind", .text e.kind.text)]

def ofDiagnostic (d : Diagnostic) : Value :=
  .ofFields <|
    [("kind", .text d.kind.text), ("severity", .text d.severity.text), ("message", .text d.message)] ++
    optional "path" (d.path.map .text) ++ optional "module" (d.module.map .text) ++
    optional "line" (d.line.map .number)

def ofSummary (s : Diagnostic.Summary) : Value :=
  .ofFields [("total", .number s.total), ("by_kind", ofTally s.byKind), ("by_severity", ofTally s.bySeverity)]

/-- The counters of a run that took some time. -/
def ofStatistics (s : Statistics) (milliseconds : Nat) : Value :=
  .ofFields [
    ("files_seen", .number s.filesSeen), ("files_parsed", .number s.filesParsed),
    ("files_skipped", .number s.filesSkipped), ("files_ignored", .number s.filesIgnored),
    ("modules", .number s.modules), ("nodes", .number s.nodes), ("edges", .number s.edges),
    ("edges_by_kind", ofTally s.edgesByKind), ("calls_resolved", .number s.callsResolved),
    ("calls_unresolved", .number s.callsUnresolved), ("orphans", .number s.orphans),
    ("duration_ms", .number milliseconds)]

/-- The counts of a graph of the files under `repo`. -/
def overview (g : Graph) (repo : String) (milliseconds : Nat) : Value :=
  .ofFields [
    ("repo", .text repo), ("fingerprint", .text (Fingerprint.ofGraph g)),
    ("stats", ofStatistics g.statistics milliseconds),
    ("diagnostics", ofSummary (Diagnostic.summarize g.diagnostics.toList))]

/-- A graph with all its nodes, edges and problems. -/
def full (g : Graph) (milliseconds : Nat) : Value :=
  .ofFields [
    ("fingerprint", .text (Fingerprint.ofGraph g)), ("nodes", .list (g.nodeList.map ofNode)),
    ("edges", .list (g.edgeList.map ofEdge)),
    ("diagnostics", .list (g.diagnostics.toList.map ofDiagnostic)),
    ("stats", ofStatistics g.statistics milliseconds)]

end ProgramGraph.Report
