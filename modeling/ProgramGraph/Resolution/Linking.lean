import ProgramGraph.Graph.Basic
import ProgramGraph.Reference

/-! The state of a resolution: the graph with the edges linked so far, the names of the project, and the
    classes that are open. A class is open if it has, or inherits from a class that has, a base outside
    of the project; a method that such a class lacks may come from there. -/

namespace ProgramGraph
open Std

/-- What stays fixed during a resolution. -/
structure World where
  classifier : Classifier
  /-- The file of each module. -/
  paths : TreeMap String String

/-- How many links a resolution has made. -/
structure LinkCounts where
  imports : Nat := 0
  bases : Nat := 0
  callsResolved : Nat := 0
  callsUnresolved : Nat := 0
  deriving DecidableEq, Repr

structure Linking where
  graph : Graph
  symbols : Symbols
  openClasses : TreeSet String := ∅
  counts : LinkCounts := {}

namespace Linking

/-- An edge from a node to itself is made for calls only, where it means recursion. -/
def mayLink (e : Edge) : Bool :=
  e.source != e.target || e.kind == .calls

/-- An edge that would be new. -/
def isNew (l : Linking) (e : Edge) : Bool :=
  mayLink e && !l.graph.edges.contains e

def link (l : Linking) (e : Edge) : Linking :=
  if mayLink e then { l with graph := l.graph.addEdge e } else l

/-- Links by an edge and counts it if it is new. -/
def linkCounted (l : Linking) (e : Edge) (count : LinkCounts → LinkCounts) : Linking :=
  let linked := l.link e
  if l.isNew e then { linked with counts := count linked.counts } else linked

/-- Adds the node of a module outside of the project. -/
def addExternal (l : Linking) (module : String) (origin : Origin) : Linking :=
  { l with graph := l.graph.addNode (Node.external module origin) }

/-- Records a problem of a module, with the file of the module. -/
def report (w : World) (l : Linking) (p : Problem) (module : String) (line : Option Nat) : Linking :=
  { l with graph := l.graph.report p w.paths[module]? line }

def openClass (l : Linking) (qualname : String) : Linking :=
  { l with openClasses := l.openClasses.insert qualname }

end Linking

end ProgramGraph
