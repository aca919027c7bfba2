import ProgramGraph.Resolution.Calls
import ProgramGraph.Resolution.Imports
import ProgramGraph.Resolution.Methods

/-! A whole resolution: imports, then inheritance with the methods that it brings, then calls in the
    order of the outlines. It only adds: edges, external nodes, call nodes and inherited methods. -/

namespace ProgramGraph
open Std

namespace World

/-- The fixed part of a resolution of some outlines. -/
def ofOutlines (classifier : Classifier) (outlines : List Outline) : World where
  classifier := classifier
  paths := TreeMap.ofList (outlines.map fun o => (o.module, o.path))

end World

namespace Linking

def run (w : World) (l : Linking) (outlines : List Outline) : Linking :=
  let (l, hierarchy) := linkInheritance w (linkImports w l) outlines
  outlines.foldl (linkCalls w) { l with symbols := hierarchy.mergeInherited l.symbols }

end Linking

/-- Resolves outlines whose nodes a graph holds and whose names are registered. -/
def resolveOutlines (classifier : Classifier) (graph : Graph) (symbols : Symbols)
    (outlines : List Outline) : Linking :=
  Linking.run (.ofOutlines classifier outlines) { graph, symbols } outlines

end ProgramGraph
