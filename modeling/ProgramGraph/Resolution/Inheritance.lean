import ProgramGraph.Resolution.Linking

/-! Linking classes to their bases. The hierarchy holds the bases that are classes of the project, in the
    order in which they are declared; every other base but `object` opens the class. -/

namespace ProgramGraph
open Std

/-- The project bases of each class. -/
abbrev Hierarchy := TreeMap String (List String)

namespace Hierarchy

def bases (h : Hierarchy) (cls : String) : List String :=
  h.getD cls []

end Hierarchy

namespace Linking

def unresolvedBase : String := "base class comes from an unresolved import"
def missingBase : String := "base class not found"
def wrongBase : String := "base does not name a class"

def linkBaseEdge (l : Linking) (source target : NodeId) : Linking :=
  l.linkCounted ⟨source, target, .inherits⟩ fun counts => { counts with bases := counts.bases + 1 }

/-- Records that a base of a class is not what it should be. -/
def reportBase (w : World) (l : Linking) (module : String) (cls : ClassDecl) (base reason : String) :
    Linking :=
  report w l (.unresolvedReference module base reason) module (some cls.line)

/-- Links one base of a class; the second part collects the project bases. -/
def linkBase (w : World) (module : String) (cls : ClassDecl) (state : Linking × List String)
    (base : String) : Linking × List String :=
  let (l, found) := state
  match l.symbols.resolve w.classifier module base with
  | .class qualname id => (l.linkBaseEdge cls.id id, found ++ [qualname])
  | .external name .unresolved =>
    (reportBase w ((l.addExternal name .unresolved).openClass cls.qualname) module cls base
      unresolvedBase, found)
  | .external name origin =>
    (((l.addExternal name origin).linkBaseEdge cls.id (Node.external name origin).id).openClass
      cls.qualname, found)
  | .unknown =>
    if w.classifier.isBuiltin base then
      (if base = "object" then l else l.openClass cls.qualname, found)
    else (reportBase w (l.openClass cls.qualname) module cls base missingBase, found)
  | .function _ | .module .. | .member _ =>
    (reportBase w (l.openClass cls.qualname) module cls base wrongBase, found)

/-- Links the bases of one class declaration. A declaration that lost its name to another one is passed
    over. -/
def linkClass (w : World) (module : String) (state : Linking × Hierarchy) (cls : ClassDecl) :
    Linking × Hierarchy :=
  if state.1.symbols.class? cls.qualname = some cls.id then
    let (l, found) := cls.bases.foldl (linkBase w module cls) (state.1, [])
    (l, state.2.insert cls.qualname found)
  else state

/-- One sweep over the hierarchy: a class with an open base becomes open at once. -/
def sweepOpen (h : Hierarchy) (opened : TreeSet String) : TreeSet String :=
  h.toList.foldl
    (fun opened (cls, bases) =>
      if !opened.contains cls && bases.any opened.contains then opened.insert cls else opened)
    opened

/-- Sweeps until a sweep opens no further class, at most `sweeps` times. -/
def closeOpen (h : Hierarchy) : Nat → TreeSet String → TreeSet String
  | 0, opened => opened
  | sweeps + 1, opened =>
    let next := sweepOpen h opened
    if next.size = opened.size then opened else closeOpen h sweeps next

/-- Opens every class that inherits from an open class. Each sweep but the last opens a class, so one
    sweep more than there are classes is enough. -/
def spreadOpen (h : Hierarchy) (opened : TreeSet String) : TreeSet String :=
  closeOpen h (h.size + 1) opened

/-- Links the classes of all outlines and finds the open ones. -/
def linkInheritance (w : World) (l : Linking) (outlines : List Outline) : Linking × Hierarchy :=
  let (l, h) := outlines.foldl (fun state o => o.classes.foldl (linkClass w o.module) state) (l, ∅)
  ({ l with openClasses := spreadOpen h l.openClasses }, h)

end Linking

end ProgramGraph
