import ProgramGraph.Node
import Std.Data.TreeSet

/-! What one file says by itself: its nodes, the names it imports, the classes and functions it declares
    and the calls it makes. Calls are decided later, when every file is known, so a call site carries
    the nodes that are kept if its target stays unknown. -/

namespace ProgramGraph
open Std

/-- A name bound by an import statement; `from m import *` binds none. -/
structure ImportEntry where
  localName : Option String
  /-- The dotted path that the name stands for, `m.n` for `from m import n`. -/
  target : String
  /-- The module that the statement imports from. -/
  module : String
  line : Nat
  deriving DecidableEq, Repr

structure ClassDecl where
  id : NodeId
  qualname : String
  /-- The base classes as written, where they are dotted names. -/
  bases : List String
  line : Nat
  deriving DecidableEq, Repr

structure FunctionDecl where
  id : NodeId
  /-- The qualified name of the class, module or function that the declaration stands in. -/
  owner : String
  name : String
  deriving DecidableEq, Repr

inductive CallTarget
  /-- `object.method(...)` with a dotted name as object. -/
  | attribute (object method : String)
  /-- `name(...)`. -/
  | name (text : String)
  /-- Any other callee. -/
  | computed
  deriving DecidableEq, Repr

structure CallSite where
  /-- The declaration that makes the call. -/
  scope : NodeId
  /-- The qualified name of the enclosing class. -/
  classScope : Option String
  /-- The qualified names of the enclosing functions, innermost first. -/
  owners : List String
  target : CallTarget
  /-- The call node, kept if the target stays unknown. -/
  fallback : Node
  /-- The nodes of the argument list, kept together with the fallback. -/
  fragment : List Node
  /-- The place of the call site whose arguments hold this one. -/
  enclosing : Option Nat
  line : Nat
  deriving DecidableEq, Repr

structure Outline where
  path : String
  module : String
  /-- The nodes outside of calls, parents before children, the root of the module first. -/
  nodes : List Node
  imports : List ImportEntry
  classes : List ClassDecl
  functions : List FunctionDecl
  callSites : List CallSite
  deriving DecidableEq, Repr

namespace Outline

def moduleId (o : Outline) : NodeId :=
  Dotted.qualify o.module o.module

def node? (o : Outline) (id : NodeId) : Option Node :=
  o.nodes.find? fun n => n.id == id

/-- The call sites kept so far, and for each old place the new one, if its call site is kept. -/
structure Renumbering where
  places : Array (Option Nat) := #[]
  kept : Array CallSite := #[]

namespace Renumbering

def newPlace? (r : Renumbering) (place : Nat) : Option Nat :=
  (r.places[place]?).join

/-- A call site goes if its declaration or the parent of its call node is rejected, or if the call
    site around it is gone. -/
def goes (rejected : TreeSet NodeId) (r : Renumbering) (site : CallSite) : Bool :=
  rejected.contains site.scope || site.fallback.parent.any rejected.contains ||
    site.enclosing.any fun place => (r.newPlace? place).isNone

def step (rejected : TreeSet NodeId) (r : Renumbering) (site : CallSite) : Renumbering :=
  if r.goes rejected site then { r with places := r.places.push none }
  else
    { places := r.places.push (some r.kept.size)
      kept := r.kept.push { site with enclosing := site.enclosing.bind r.newPlace? } }

end Renumbering

/-- Drops the nodes that a graph has rejected, with the declarations and call sites inside them. The
    call sites that stay are numbered anew. -/
def forget (o : Outline) (rejected : TreeSet NodeId) : Outline :=
  if rejected.isEmpty then o
  else
    { o with
      nodes := o.nodes.filter fun n => !rejected.contains n.id
      classes := o.classes.filter fun c => !rejected.contains c.id
      functions := o.functions.filter fun f => !rejected.contains f.id
      callSites := (o.callSites.foldl (Renumbering.step rejected) {}).kept.toList }

end Outline

end ProgramGraph
