import ProgramGraph.Fingerprint.Blake3
import ProgramGraph.Graph.Basic

/-! The fingerprint of a graph: a hash over its nodes, edges and recorded problems. The fields of a record
    are closed by a zero byte and the record by a one byte; a field that is not set is written as
    nothing. The counters are left out, so that two runs over the same files agree. -/

namespace ProgramGraph.Fingerprint

def bytes (s : String) : List UInt8 :=
  s.toUTF8.toList

/-- A number as eight bytes, the least first. -/
def wordBytes (n : Nat) : List UInt8 :=
  (List.range 8).map fun i => UInt8.ofNat (n >>> (8 * i))

/-- Fields with a zero byte between them and a one byte after the last. -/
def record : List (List UInt8) → List UInt8
  | [] => [1]
  | [last] => last ++ [1]
  | field :: rest => field ++ 0 :: record rest

def node (n : Node) : List UInt8 :=
  record [bytes n.id, bytes n.kind.text, n.parent.elim [] bytes, n.line.elim [] wordBytes,
    n.origin.elim [] fun origin => bytes origin.text]

def edge (e : Edge) : List UInt8 :=
  record [bytes e.source, bytes e.target, bytes e.kind.text]

def diagnostic (d : Diagnostic) : List UInt8 :=
  record [bytes d.kind.text, bytes d.message]

/-- The bytes that are hashed. -/
def encode (g : Graph) : List UInt8 :=
  g.nodeList.flatMap node ++ g.edgeList.flatMap edge ++ g.diagnostics.toList.flatMap diagnostic

/-- The fingerprint as it is shown: sixteen hexadecimal digits. -/
def ofGraph (g : Graph) : String :=
  "graph_" ++ Blake3.shortHex (encode g)

end ProgramGraph.Fingerprint
