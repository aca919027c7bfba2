import ProgramGraph.Tally

/-! The counters of a run. The last four describe the finished graph and are set when it is audited. -/

namespace ProgramGraph

structure Statistics where
  filesSeen : Nat := 0
  filesParsed : Nat := 0
  filesSkipped : Nat := 0
  filesIgnored : Nat := 0
  modules : Nat := 0
  callsResolved : Nat := 0
  callsUnresolved : Nat := 0
  nodes : Nat := 0
  edges : Nat := 0
  edgesByKind : Tally := ∅
  orphans : Nat := 0

end ProgramGraph
