import ProgramGraph.Dotted

/-! The nodes of a program graph. A node is named by the module it belongs to and by its label inside
    that module; its id is made of the two, so two nodes with the same module and label are one. -/

namespace ProgramGraph

/-- Ids have the form `module.label`. Module names and labels hold dots themselves, so nodes of
    different modules can have the same id. -/
abbrev NodeId := String

inductive NodeKind
  | module
  | classDef
  | function
  | argument
  | call
  | name
  | constant
  | importing
  | loop
  | joinedString
  | formattedValue
  | external
  | detached
  deriving DecidableEq, Repr

namespace NodeKind

def text : NodeKind → String
  | module => "module"
  | classDef => "class"
  | function => "function"
  | argument => "argument"
  | call => "call"
  | name => "name"
  | constant => "constant"
  | importing => "import"
  | loop => "for"
  | joinedString => "joined_str"
  | formattedValue => "formatted_value"
  | external => "external"
  | detached => "detached"

def all : List NodeKind :=
  [module, classDef, function, argument, call, name, constant, importing, loop, joinedString,
    formattedValue, external, detached]

def ofText? (s : String) : Option NodeKind :=
  all.find? fun kind => kind.text == s

/-- A root has no containment parent. -/
def isRoot : NodeKind → Bool
  | module | external | detached => true
  | _ => false

end NodeKind

/-- Where an import that the project does not hold comes from. -/
inductive Origin
  | standardLibrary
  | thirdParty
  | unresolved
  deriving DecidableEq, Repr

namespace Origin

def text : Origin → String
  | standardLibrary => "standard_library"
  | thirdParty => "third_party"
  | unresolved => "unresolved"

def ofText? (s : String) : Option Origin :=
  [standardLibrary, thirdParty, unresolved].find? fun origin => origin.text == s

end Origin

structure Node where
  module : String
  label : String
  kind : NodeKind
  /-- The node that contains this one; a root has none. -/
  parent : Option NodeId := none
  /-- The line of the source, counted from 1. -/
  line : Option Nat := none
  /-- Set on external nodes only. -/
  origin : Option Origin := none
  deriving DecidableEq, Repr

namespace Node

def id (n : Node) : NodeId :=
  Dotted.qualify n.module n.label

/-- The root of a module: its label is the module's name. -/
def moduleRoot (name : String) : Node :=
  { module := name, label := name, kind := .module, line := some 1 }

/-- The module that external nodes of an origin belong to. -/
def externalModule : Origin → String
  | .unresolved => "Unresolved"
  | .standardLibrary | .thirdParty => "External"

/-- The node that stands for a module outside the project. -/
def external (name : String) (origin : Origin) : Node :=
  { module := externalModule origin, label := name, kind := .external, origin := some origin }

/-- The node that holds the orphans of a graph. -/
def sentinel : Node :=
  { module := "Detached", label := "Detached", kind := .detached }

end Node

end ProgramGraph
