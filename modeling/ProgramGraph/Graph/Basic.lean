import ProgramGraph.Diagnostic
import ProgramGraph.Edge
import ProgramGraph.Graph.Statistics
import Std.Data.TreeMap
import Std.Data.TreeSet

/-! The store of a program graph: nodes by id, a set of edges, the containment parent of each contained
    node, the recorded problems and the counters. Containment is kept both as edges and as parents;
    only `place?` adds to it, and `removeNodes` removes from both. -/

namespace ProgramGraph
open Std

structure Graph where
  nodes : TreeMap NodeId Node := ∅
  edges : TreeSet Edge := ∅
  /-- The node that contains a node. -/
  parents : TreeMap NodeId NodeId := ∅
  diagnostics : Array Diagnostic := #[]
  statistics : Statistics := {}

namespace Graph

def empty : Graph := {}

/-! ### Queries -/

def node? (g : Graph) (id : NodeId) : Option Node :=
  g.nodes[id]?

def contains (g : Graph) (id : NodeId) : Bool :=
  g.nodes.contains id

/-- All nodes, in the order of their ids. -/
def nodeList (g : Graph) : List Node :=
  g.nodes.values

/-- All edges, by source, target and kind. -/
def edgeList (g : Graph) : List Edge :=
  g.edges.toList

def nodesOfKind (g : Graph) (kind : NodeKind) : List Node :=
  g.nodeList.filter fun n => n.kind == kind

def edgesOfKind (g : Graph) (kind : EdgeKind) : List Edge :=
  g.edgeList.filter fun e => e.kind == kind

/-- The edges that leave `id`: in the order of edges they follow one another, from the least edge that
    `id` could have on. -/
def outgoing (g : Graph) (id : NodeId) : List Edge :=
  let least : Edge := ⟨id, "", .containment⟩
  (g.edgeList.dropWhile fun e => (compare e least).isLT).takeWhile fun e => e.source == id

def incoming (g : Graph) (id : NodeId) : List Edge :=
  g.edgeList.filter fun e => e.target == id

def hasEdge (g : Graph) (source target : NodeId) (kind : EdgeKind) : Bool :=
  (g.outgoing source).any fun e => e.target == target && e.kind == kind

def parent? (g : Graph) (id : NodeId) : Option Node :=
  g.parents[id]?.bind g.node?

/-- The nodes that `id` contains. -/
def children (g : Graph) (id : NodeId) : List Node :=
  (g.outgoing id).filterMap fun e => if e.kind = .containment then g.node? e.target else none

def degree (g : Graph) (id : NodeId) : Nat :=
  (g.outgoing id).length + (g.incoming id).length

def edgesByKind (g : Graph) : Tally :=
  .ofList (g.edgeList.map fun e => e.kind.text)

/-- Every id at an end of an edge. -/
def touched (g : Graph) : TreeSet NodeId :=
  g.edgeList.foldl (fun ids e => (ids.insert e.source).insert e.target) ∅

/-- The nodes at which no edge ends, in the order of their ids. -/
def edgeless (g : Graph) : List NodeId :=
  let touched := g.touched
  g.nodes.keys.filter fun id => !touched.contains id

/-- The first problem of a graph that should have both ends of every edge and no edgeless node. -/
def check (g : Graph) : Except Problem Unit :=
  match g.edgeList.find? fun e => !(g.contains e.source && g.contains e.target) with
  | some e => .error (.danglingEdge e.source e.target)
  | none =>
    match g.edgeless with
    | id :: _ => .error (.orphanPolicyViolation id)
    | [] => .ok ()

/-! ### Changes -/

/-- Adds a node unless its id is taken. -/
def addNode (g : Graph) (n : Node) : Graph :=
  { g with nodes := g.nodes.insertIfNew n.id n }

/-- Adds an edge, or nothing if it is there. Containment goes through `place?`. -/
def addEdge (g : Graph) (e : Edge) : Graph :=
  { g with edges := g.edges.insert e }

def record (g : Graph) (d : Diagnostic) : Graph :=
  { g with diagnostics := g.diagnostics.push d }

/-- Records a problem with its place; a fatal problem leaves no record. -/
def report (g : Graph) (p : Problem) (path : Option String) (line : Option Nat := none) : Graph :=
  match Diagnostic.located? p path line with
  | some d => g.record d
  | none => g

/-- Puts a node into its parent. The parent has to be in the graph and of the same module. A node that
    is there already under the same parent stays as it is; under another parent, or as a root, it keeps
    its place and the new one is refused. A node without a parent is added as a root. -/
def place? (g : Graph) (n : Node) : Except Problem Graph :=
  match n.parent with
  | none => .ok (g.addNode n)
  | some parent =>
    match g.node? parent with
    | none => .error (.danglingEdge parent n.id)
    | some holder =>
      if holder.module ≠ n.module then
        .error (.duplicateSymbol parent s!"{holder.kind.text} in {holder.module}"
          s!"{n.kind.text} in {n.module}")
      else
        match g.parents[n.id]? with
        | some kept => if kept = parent then .ok g else .error (.duplicateSymbol n.id kept parent)
        | none =>
          match g.node? n.id with
          | some root => .error (.duplicateSymbol n.id s!"{root.kind.text} root" parent)
          | none =>
            .ok { g.addNode n with
              parents := g.parents.insert n.id parent
              edges := g.edges.insert ⟨parent, n.id, .containment⟩ }

/-- The outcome of placing a list of nodes. -/
structure Placement where
  graph : Graph
  /-- Every id that was left out, those below a refused node included. -/
  rejected : TreeSet NodeId := ∅
  /-- The problems of the refused nodes themselves, in order. -/
  problems : Array Problem := #[]

namespace Placement

/-- Places one more node. A node whose parent was left out, or is not in the graph, is left out too,
    without a problem of its own. -/
def step (p : Placement) (n : Node) : Placement :=
  let lost := n.parent.any fun parent => p.rejected.contains parent || !p.graph.contains parent
  if lost then { p with rejected := p.rejected.insert n.id }
  else
    match p.graph.place? n with
    | .ok graph => { p with graph }
    | .error problem =>
      { p with rejected := p.rejected.insert n.id, problems := p.problems.push problem }

end Placement

/-- Places nodes that are listed parents first. -/
def placeAll (g : Graph) (ns : List Node) : Placement :=
  ns.foldl Placement.step { graph := g }

/-- Removes nodes and every edge that touches one of them. -/
def removeNodes (g : Graph) (ids : TreeSet NodeId) : Graph :=
  { g with
    nodes := g.nodes.filter fun id _ => !ids.contains id
    parents := g.parents.filter fun id parent => !ids.contains id && !ids.contains parent
    edges := g.edges.filter fun e => !ids.contains e.source && !ids.contains e.target }

end Graph

end ProgramGraph
