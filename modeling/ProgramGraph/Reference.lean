import ProgramGraph.Classifier.Basic
import ProgramGraph.Symbols

/-! What a dotted name stands for. A full path is looked up among the classes, modules and functions of
    the project; a name as written in a module is first read through the imports of that module. -/

namespace ProgramGraph

/-- What a name stands for. -/
inductive Referent
  | class (qualname : String) (id : NodeId)
  | function (id : NodeId)
  | module (name : String) (id : NodeId)
  /-- Something inside a module of the project that is no declared class or function. -/
  | member (module : String)
  /-- A module outside of the project. -/
  | external (module : String) (origin : Origin)
  | unknown
  deriving DecidableEq, Repr

namespace Referent

/-- A declared class or function, or a module, of the project. -/
def isDeclared : Referent → Bool
  | «class» .. | function _ | module .. => true
  | member _ | external .. | unknown => false

end Referent

namespace Symbols

/-- The function that a full path names: the last segment is its name, the rest its owner. -/
def functionAt? (s : Symbols) (path : String) : Option NodeId :=
  (Text.splitLast '.' path).bind fun (owner, name) => s.function? owner name

/-- What a full path stands for. A path that leaves the project counts as the module that the import
    statement names. -/
def lookup (s : Symbols) (c : Classifier) (path imported : String) : Referent :=
  match s.class? path with
  | some id => .class path id
  | none =>
  match s.module? path with
  | some id => .module path id
  | none =>
  match s.functionAt? path with
  | some id => .function id
  | none =>
  match s.enclosingModule? path with
  | some (module, _) => .member module
  | none => .external imported (c.origin (Dotted.head imported))

/-- The import of a module whose bound name is the longest dotted beginning of a name. -/
def bindingFor? (s : Symbols) (module name : String) : Option (String × Binding) :=
  Dotted.longest? (s.binding? module) name

/-- A name that an import binds, with the bound part replaced by what it stands for. -/
def expand (localName : String) (binding : Binding) (name : String) : String :=
  binding.target ++ String.ofList (name.toList.drop localName.length)

/-- A class or function that a module declares itself. -/
def declared? (s : Symbols) (module name : String) : Option Referent :=
  let path := Dotted.qualify module name
  match s.class? path with
  | some id => some (.class path id)
  | none => if name.toList.contains '.' then none else (s.function? module name).map .function

/-- A name that one of the `import *` of a module provides, in the order of the imported modules. -/
def fromWildcards? (s : Symbols) (c : Classifier) (module name : String) : Option Referent :=
  (s.wildcardsOf module).toList.findSome? fun source =>
    let found := s.lookup c (Dotted.qualify source name) source
    if found.isDeclared then some found else none

/-- What a name as written in a module stands for: imports count first, then the declarations of the
    module, then its `import *`. -/
def resolve (s : Symbols) (c : Classifier) (module name : String) : Referent :=
  match s.bindingFor? module name with
  | some (localName, binding) => s.lookup c (expand localName binding name) binding.module
  | none => ((s.declared? module name).or (s.fromWildcards? c module name)).getD .unknown

end Symbols

end ProgramGraph
