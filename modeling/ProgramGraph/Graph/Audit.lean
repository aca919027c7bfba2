import ProgramGraph.Graph.Basic

/-! The orphan audit: what becomes of the nodes at which no edge ends. They are hung on a sentinel node,
    and under the pruning policy the sentinel is then removed together with all that hangs on it. -/

namespace ProgramGraph
open Std

inductive OrphanPolicy
  /-- Keep the orphans, attached to the sentinel. -/
  | debug
  /-- Remove the orphans and the sentinel. -/
  | prune
  deriving DecidableEq, Repr

namespace OrphanPolicy

def text : OrphanPolicy → String
  | debug => "debug"
  | prune => "prune"

def ofText? (s : String) : Option OrphanPolicy :=
  [debug, prune].find? fun policy => policy.text == s

end OrphanPolicy

namespace Graph

/-- Hangs nodes on the sentinel. -/
def attach (g : Graph) (orphans : List NodeId) : Graph :=
  orphans.foldl (fun g id => g.addEdge ⟨Node.sentinel.id, id, .orphan⟩) (g.addNode Node.sentinel)

/-- The sentinel and all that hangs on it. -/
def detachedIds (g : Graph) : TreeSet NodeId :=
  let hung := (g.outgoing Node.sentinel.id).filter fun e => e.kind == .orphan
  TreeSet.ofList (Node.sentinel.id :: hung.map fun e => e.target)

/-- The graph with its orphans treated by a policy. Without orphans nothing changes. -/
def settleOrphans (g : Graph) (policy : OrphanPolicy) : Graph :=
  match g.edgeless with
  | [] => g
  | orphans =>
    let attached := g.attach orphans
    match policy with
    | .debug => attached
    | .prune => attached.removeNodes attached.detachedIds

/-- Treats the orphans and checks the result. The number of orphans counts those that were found. -/
def audit (g : Graph) (policy : OrphanPolicy) : Graph × Except Problem Nat :=
  let settled := g.settleOrphans policy
  (settled, settled.check.map fun _ => g.edgeless.length)

end Graph

end ProgramGraph
