import ProgramGraph.FileTree
import ProgramGraph.Outline.Visit
import ProgramGraph.Resolution.Run
import ProgramGraph.Syntax.Source

/-! From a tree of files to a program graph. Every source file is parsed into an outline; the outlines are
    entered one by one, in the order of their paths; then the whole project is resolved, and last the
    orphans are audited. A file that does not parse, or whose module another file holds already, is
    skipped with a record of the problem and leaves no other trace. -/

namespace ProgramGraph
open Std

/-- A source file with the name of its module. -/
structure SourceUnit where
  path : String
  module : String
  text : String
  deriving DecidableEq, Repr

namespace SourceUnit

def ofFile (path : String) (file : SourceFile) : SourceUnit where
  path := path
  module := ModuleName.ofPath path
  text := file.text

def syntaxProblem (path : String) (fault : Option Syntax.Position) : Problem :=
  match fault with
  | some p => .parse path s!"syntax error at {p.line}:{p.column}"
  | none => .parse path "syntax error"

/-- The outline of a file, or the problem that it does not parse. -/
def outline (u : SourceUnit) (labelLimit : Nat) : Except Problem Outline :=
  match Syntax.parse u.text with
  | .ok statements => .ok (.ofStatements labelLimit u.module u.path statements)
  | .error fault => .error (syntaxProblem u.path fault)

end SourceUnit

/-- The state after some files have been entered. -/
structure Intake where
  graph : Graph := {}
  symbols : Symbols := {}
  /-- The file that holds each module. -/
  holders : TreeMap String String := ∅
  outlines : Array Outline := #[]
  parsed : Nat := 0
  skipped : Nat := 0

namespace Intake

/-- Passes over a file. -/
def skip (i : Intake) (path : String) (p : Problem) : Intake :=
  { i with graph := i.graph.report p (some path), skipped := i.skipped + 1 }

/-- Enters an outline: its nodes into the graph, then what it declares, less what the graph rejected. -/
def enter (i : Intake) (path : String) (o : Outline) : Intake :=
  let placement := i.graph.placeAll o.nodes
  let kept := o.forget placement.rejected
  let (symbols, refused) := i.symbols.register kept
  { i with
    graph := (placement.problems ++ refused).foldl (fun g p => g.report p (some path)) placement.graph
    symbols
    holders := i.holders.insert o.module path
    outlines := i.outlines.push kept
    parsed := i.parsed + 1 }

/-- Takes in one file with its outline, if it has one. -/
def add (i : Intake) (file : String × Except Problem Outline) : Intake :=
  let (path, result) := file
  match result with
  | .error p => i.skip path p
  | .ok o =>
    match i.holders[o.module]? with
    | some kept => i.skip path (.duplicateSymbol o.module kept path)
    | none => i.enter path o

def ofFiles (files : List (String × Except Problem Outline)) : Intake :=
  files.foldl add {}

end Intake

namespace FileTree

/-- The source files of a tree, in the order of their paths. -/
def units (t : FileTree) : List SourceUnit :=
  (t.files.filter fun (path, _) => Path.isSource path).map fun (path, file) => .ofFile path file

/-- The number of files that are no source files. -/
def ignored (t : FileTree) : Nat :=
  t.files.countP fun (path, _) => !Path.isSource path

/-- The source files with their outlines. -/
def outlines (t : FileTree) (labelLimit : Nat) : List (String × Except Problem Outline) :=
  t.units.map fun u => (u.path, u.outline labelLimit)

/-- The counters of a resolution, before the graph is audited. -/
def counters (t : FileTree) (i : Intake) (counts : LinkCounts) : Statistics where
  filesSeen := t.files.length
  filesParsed := i.parsed
  filesSkipped := i.skipped
  filesIgnored := t.ignored
  modules := i.outlines.size
  callsResolved := counts.callsResolved
  callsUnresolved := counts.callsUnresolved

/-- The resolved graph of a tree, its orphans untouched. -/
def resolve (t : FileTree) (labelLimit : Nat) (c : Classifier) : Graph :=
  let i := Intake.ofFiles (t.outlines labelLimit)
  let l := resolveOutlines c i.graph i.symbols i.outlines.toList
  { l.graph with statistics := t.counters i l.counts }

end FileTree

namespace Graph

/-- The counters of an audited graph. -/
def auditedStatistics (g : Graph) (orphans : Nat) : Statistics :=
  { g.statistics with
    nodes := g.nodes.size
    edges := g.edges.size
    edgesByKind := g.edgesByKind
    orphans }

/-- The audited graph with its counters. -/
def finish (g : Graph) (policy : OrphanPolicy) : Except Problem Graph :=
  match g.audit policy with
  | (audited, .ok orphans) => .ok { audited with statistics := audited.auditedStatistics orphans }
  | (_, .error p) => .error p

end Graph

namespace FileTree

/-- The program graph of a tree. -/
def build (t : FileTree) (s : Settings) (c : Classifier) : Except Problem Graph :=
  (t.resolve s.labelLimit c).finish s.orphanPolicy

end FileTree

end ProgramGraph
