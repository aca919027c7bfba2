import ProgramGraph.Outline
import ProgramGraph.Problem
import Std.Data.TreeMap

/-! The names that a whole project declares: modules, classes, functions by owner, and imports by module.
    Tables only grow. A name that is declared again with another value keeps its first value, and the
    second declaration is a problem. -/

namespace ProgramGraph
open Std

/-- What an imported name stands for. -/
structure Binding where
  /-- The dotted path that the name stands for. -/
  target : String
  /-- The module that the import statement names. -/
  module : String
  line : Nat
  deriving DecidableEq, Repr

namespace Binding

/-- Two bindings agree if they differ in nothing but the line. -/
def agrees (a b : Binding) : Bool :=
  a.target == b.target && a.module == b.module

def text (b : Binding) : String :=
  if b.target = b.module then s!"import {b.target}" else s!"from {b.module} import {b.target}"

end Binding

structure Symbols where
  /-- Per module, what its imported names stand for. -/
  imports : TreeMap String (TreeMap String Binding) := ∅
  /-- Per module, the modules of its `import *`. -/
  wildcards : TreeMap String (TreeSet String) := ∅
  modules : TreeMap String NodeId := ∅
  classes : TreeMap String NodeId := ∅
  /-- Per owner, its functions by name. An owner is a module, a class or a function. -/
  functions : TreeMap String (TreeMap String NodeId) := ∅
  /-- Per class, the names it inherits from several bases with different meanings. -/
  ambiguous : TreeMap String (TreeSet String) := ∅

namespace Symbols

/-! ### Look-ups -/

def module? (s : Symbols) (name : String) : Option NodeId :=
  s.modules[name]?

def class? (s : Symbols) (qualname : String) : Option NodeId :=
  s.classes[qualname]?

def importsOf (s : Symbols) (module : String) : TreeMap String Binding :=
  s.imports.getD module ∅

def binding? (s : Symbols) (module localName : String) : Option Binding :=
  (s.importsOf module)[localName]?

def functionsOf (s : Symbols) (owner : String) : TreeMap String NodeId :=
  s.functions.getD owner ∅

def function? (s : Symbols) (owner name : String) : Option NodeId :=
  (s.functionsOf owner)[name]?

def wildcardsOf (s : Symbols) (module : String) : TreeSet String :=
  s.wildcards.getD module ∅

def isAmbiguous (s : Symbols) (cls name : String) : Bool :=
  (s.ambiguous.getD cls ∅).contains name

/-- The longest module of the project that is a dotted beginning of a name. -/
def enclosingModule? (s : Symbols) (name : String) : Option (String × NodeId) :=
  Dotted.longest? s.module? name

/-! ### Declarations -/

def addModule (s : Symbols) (name : String) (id : NodeId) : Except Problem Symbols :=
  match s.module? name with
  | some kept => if kept = id then .ok s else .error (.duplicateSymbol name kept id)
  | none => .ok { s with modules := s.modules.insert name id }

def addClass (s : Symbols) (qualname : String) (id : NodeId) : Except Problem Symbols :=
  match s.class? qualname with
  | some kept => if kept = id then .ok s else .error (.duplicateSymbol qualname kept id)
  | none => .ok { s with classes := s.classes.insert qualname id }

/-- Enters a function for an owner, whatever was there. -/
def setFunction (s : Symbols) (owner name : String) (id : NodeId) : Symbols :=
  { s with functions := s.functions.insert owner ((s.functionsOf owner).insert name id) }

def addFunction (s : Symbols) (owner name : String) (id : NodeId) : Except Problem Symbols :=
  match s.function? owner name with
  | some kept =>
    if kept = id then .ok s else .error (.duplicateSymbol (Dotted.qualify owner name) kept id)
  | none => .ok (s.setFunction owner name id)

def addImport (s : Symbols) (module localName : String) (binding : Binding) : Except Problem Symbols :=
  match s.binding? module localName with
  | some kept =>
    if kept.agrees binding then .ok s
    else .error (.duplicateSymbol (Dotted.qualify module localName) kept.text binding.text)
  | none => .ok { s with imports := s.imports.insert module ((s.importsOf module).insert localName binding) }

def addWildcard (s : Symbols) (module target : String) : Symbols :=
  { s with wildcards := s.wildcards.insert module ((s.wildcardsOf module).insert target) }

/-- Adds an inherited method unless the class has one of that name, and tells whether it did. -/
def addInherited (s : Symbols) (cls name : String) (id : NodeId) : Symbols × Bool :=
  if (s.function? cls name).isSome then (s, false) else (s.setFunction cls name id, true)

/-- The names after an inherited method was added, if it was. -/
def inherit (s : Symbols) (cls name : String) (id : NodeId) : Symbols :=
  (s.addInherited cls name id).1

def markAmbiguous (s : Symbols) (cls name : String) : Symbols :=
  { s with ambiguous := s.ambiguous.insert cls ((s.ambiguous.getD cls ∅).insert name) }

/-! ### Outlines -/

/-- Enters one declaration; a refused one is added to the problems instead. -/
def attempt (state : Symbols × Array Problem) (add : Symbols → Except Problem Symbols) :
    Symbols × Array Problem :=
  match add state.1 with
  | .ok s => (s, state.2)
  | .error p => (state.1, state.2.push p)

/-- Enters one import of a module. -/
def addEntry (module : String) (entry : ImportEntry) (s : Symbols) : Except Problem Symbols :=
  match entry.localName with
  | some localName => s.addImport module localName ⟨entry.target, entry.module, entry.line⟩
  | none => .ok (s.addWildcard module entry.module)

/-- The declarations of an outline in the order in which they are entered. -/
def declarations (o : Outline) : List (Symbols → Except Problem Symbols) :=
  [fun s => s.addModule o.module o.moduleId] ++
    o.imports.map (addEntry o.module) ++
    o.classes.map (fun c s => s.addClass c.qualname c.id) ++
    o.functions.map (fun f s => s.addFunction f.owner f.name f.id)

/-- Enters all that an outline declares; the problems are those of the refused declarations, in
    order. -/
def register (s : Symbols) (o : Outline) : Symbols × Array Problem :=
  (declarations o).foldl attempt (s, #[])

end Symbols

end ProgramGraph
