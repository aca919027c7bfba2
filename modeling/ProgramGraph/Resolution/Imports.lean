import ProgramGraph.Resolution.Linking

/-! Linking the imports of all modules: an edge from the module to what it imports. A name inside a
    project module that is not declared there leads to the module; a name outside of the project leads
    to an external node. Imports that nothing accounts for get a node but no edge. -/

namespace ProgramGraph

/-- One import to link. -/
structure ImportLink where
  /-- The importing module. -/
  module : String
  /-- The imported path. -/
  target : String
  /-- The module that the statement names. -/
  imported : String
  line : Option Nat
  deriving DecidableEq, Repr

namespace Symbols

/-- All imports: by module the bound names in order, then by module its `import *`. -/
def importLinks (s : Symbols) : List ImportLink :=
  (s.imports.toList.flatMap fun (module, bindings) =>
      bindings.values.map fun b => ⟨module, b.target, b.module, some b.line⟩) ++
    s.wildcards.toList.flatMap fun (module, targets) =>
      targets.toList.map fun target => ⟨module, target, target, none⟩

end Symbols

namespace Linking

def unaccountedImport : String :=
  "import is not in the project, the standard library or the third-party list"

def linkImportEdge (l : Linking) (source target : NodeId) : Linking :=
  l.linkCounted ⟨source, target, .importing⟩ fun counts => { counts with imports := counts.imports + 1 }

def linkImport (w : World) (l : Linking) (i : ImportLink) : Linking :=
  match l.symbols.module? i.module with
  | none => l
  | some source =>
    match l.symbols.lookup w.classifier i.target i.imported with
    | .class _ id | .function id | .module _ id => l.linkImportEdge source id
    | .member module =>
      match l.symbols.module? module with
      | some id => l.linkImportEdge source id
      | none => l
    | .external module .unresolved =>
      report w (l.addExternal module .unresolved)
        (.unresolvedReference i.module i.target unaccountedImport) i.module i.line
    | .external module origin =>
      (l.addExternal module origin).linkImportEdge source (Node.external module origin).id
    | .unknown => l

def linkImports (w : World) (l : Linking) : Linking :=
  l.symbols.importLinks.foldl (linkImport w) l

end Linking

end ProgramGraph
