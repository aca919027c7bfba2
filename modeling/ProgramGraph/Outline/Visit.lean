import ProgramGraph.ModuleName
import ProgramGraph.Outline
import ProgramGraph.Syntax.Tree
import ProgramGraph.Text.Clip

/-! The outline of a syntax tree. Visiting a construct yields the nodes and declarations it stands for, in
    the order of the source. A node found in the arguments of a call belongs to the fragment of that
    call, so that a call yields no nodes outside of its call site. -/

namespace ProgramGraph
open Syntax

/-- Where a construct stands. -/
structure Scope where
  /-- The parent of expression nodes. -/
  container : NodeId
  /-- The label of the container; empty at the top of a module. -/
  path : String := ""
  /-- The parent of declarations. -/
  decl : NodeId
  declPath : String := ""
  /-- The names of the declarations around, without the marks of labels. -/
  qualpath : String := ""
  className : Option String := none
  /-- The qualified names of the functions around, innermost first. -/
  owners : List String := []
  deriving DecidableEq, Repr

namespace Scope

/-- The scope inside a node that holds expressions. -/
def within (s : Scope) (n : Node) : Scope :=
  { s with container := n.id, path := n.label }

end Scope

/-- What a visit yields. -/
structure Findings where
  nodes : List Node := []
  imports : List ImportEntry := []
  classes : List ClassDecl := []
  functions : List FunctionDecl := []
  sites : List CallSite := []
  deriving DecidableEq, Repr

namespace Findings

def append (a b : Findings) : Findings where
  nodes := a.nodes ++ b.nodes
  imports := a.imports ++ b.imports
  classes := a.classes ++ b.classes
  functions := a.functions ++ b.functions
  sites := a.sites ++ b.sites

instance : Append Findings := ⟨append⟩

end Findings

/-- What stays fixed while a file is visited. -/
structure Visit where
  module : String
  labelLimit : Nat
  /-- The package that relative imports refer to. -/
  package : List String

namespace Visit

/-- The qualified name of what stands at a path below the module. -/
def qualname (v : Visit) (qualpath : String) : String :=
  if qualpath.isEmpty then v.module else Dotted.qualify v.module qualpath

def labelText (v : Visit) (raw : String) : String :=
  Text.labelText v.labelLimit raw

/-- An expression node in a scope. -/
def exprNode (v : Visit) (s : Scope) (kind : NodeKind) (tag : String) (start : Position) : Node :=
  { module := v.module
    label := Dotted.extend s.path tag
    kind
    parent := some s.container
    line := some start.line }

/-- The label of a declaration. One that is called like its module would take the id of the root, so it
    is marked with its kind. -/
def declLabel (v : Visit) (s : Scope) (kind : NodeKind) (name : String) : String :=
  let label := Dotted.extend s.declPath name
  if label = v.module then label ++ "@" ++ kind.text else label

def declNode (v : Visit) (s : Scope) (kind : NodeKind) (name : String) (start : Position) : Node :=
  { module := v.module
    label := v.declLabel s kind name
    kind
    parent := some s.decl
    line := some start.line }

def positionTag (tag : String) (start : Position) : String :=
  s!"{tag}@{start.line}:{start.column}"

/-! ### Expressions -/

/-- The text of a dotted name without blanks, if an expression is one. -/
def dotted? : Expr → Option String
  | .name _ text => some text
  | .attribute object _ written => (dotted? object).map fun _ => Text.dropBlanks written
  | _ => none

def callTarget : Expr → CallTarget
  | .name _ text => .name text
  | .attribute object member _ =>
    match dotted? object with
    | some text => .attribute text member
    | none => .computed
  | _ => .computed

/-- The nodes and call sites of an expression. -/
abbrev Traces := List Node × List CallSite

def constantNode (v : Visit) (s : Scope) (start : Position) (text : String) : Node :=
  v.exprNode s .constant s!"const({v.labelText text})" start

/-- The call node that stays if the target of a call is not found. -/
def callNode (v : Visit) (s : Scope) (start : Position) (written : String) : Node :=
  v.exprNode s .call s!"call({v.labelText written})" start

mutual

/-- Visits an expression. `enclosing` is the call whose arguments it stands in, `next` the number of call
    sites before it. -/
def expr (v : Visit) (s : Scope) (enclosing : Option Nat) (next : Nat) : Expr → Traces
  | .name start text => ([v.exprNode s .name s!"name({text})" start], [])
  | .constant start text => ([v.constantNode s start text], [])
  | .attribute object _ _ => expr v s enclosing next object
  | .keyword value => expr v s enclosing next value
  | .group parts => exprs v s enclosing next parts
  | .typing _ => ([], [])
  | .joined start parts =>
    let n := v.exprNode s .joinedString (positionTag "fstring" start) start
    let (nodes, sites) := exprs v (s.within n) enclosing next parts
    (n :: nodes, sites)
  | .piece start text =>
    if (v.labelText text).isEmpty then ([], []) else ([v.constantNode s start text], [])
  | .field start value _ =>
    let n := v.exprNode s .formattedValue (positionTag "format" start) start
    let (nodes, sites) := expr v (s.within n) enclosing next value
    (n :: nodes, sites)
  | .call start callee written arguments =>
    let fallback := v.callNode s start written
    let inner := s.within fallback
    let target := callTarget callee
    let before :=
      if target = .computed then expr v inner (some next) (next + 1) callee else ([], [])
    let after := exprs v inner (some next) (next + 1 + before.2.length) arguments
    let site : CallSite :=
      { scope := s.decl
        classScope := s.className
        owners := s.owners
        target
        fallback
        fragment := before.1 ++ after.1
        enclosing
        line := start.line }
    ([], site :: (before.2 ++ after.2))

def exprs (v : Visit) (s : Scope) (enclosing : Option Nat) (next : Nat) : List Expr → Traces
  | [] => ([], [])
  | e :: rest =>
    let (nodes, sites) := expr v s enclosing next e
    let (nodes', sites') := exprs v s enclosing (next + sites.length) rest
    (nodes ++ nodes', sites ++ sites')

end

/-- Expressions that stand in no call. -/
def topExprs (v : Visit) (s : Scope) (next : Nat) (es : List Expr) : Findings :=
  let (nodes, sites) := v.exprs s none next es
  { nodes, sites }

/-! ### Declarations -/

/-- A parameter: its node in the function, and its default in the scope around the function. -/
def parameter (v : Visit) (outer inner : Scope) (next : Nat) (p : Parameter) : Findings :=
  { nodes := p.name.toList.map fun name => v.exprNode inner .argument name p.start } ++
    v.topExprs outer next p.value.toList

def parameters (v : Visit) (outer inner : Scope) (next : Nat) : List Parameter → Findings
  | [] => {}
  | p :: rest =>
    let found := v.parameter outer inner next p
    found ++ parameters v outer inner (next + found.sites.length) rest

/-- One import. Without a name it is an `import *` of the module. -/
def importEntry (v : Visit) (s : Scope) (start : Position) (localName : Option String)
    (target module : String) : Findings :=
  let bound := localName.getD (module ++ ".*")
  { nodes := [v.exprNode s .importing s!"import({bound})" start]
    imports := [⟨localName, target, module, start.line⟩] }

/-- The module that a `from` statement names, made absolute. A relative name that climbs too far stays
    as written. -/
def sourceModule (v : Visit) (written : String) : String :=
  if written.startsWith "." then (ModuleName.absolute? v.package written).getD written else written

/-- A member of a module. The module may end in a dot, if it is relative and climbs too far. -/
def memberPath (module member : String) : String :=
  if module.endsWith "." then module ++ member else Dotted.qualify module member

def importNames (v : Visit) (s : Scope) (start : Position) (names : List ImportedName) : Findings :=
  names.foldl (fun found n => found ++ v.importEntry s start (some (n.localName.getD n.path)) n.path n.path) {}

def importMembers (v : Visit) (s : Scope) (start : Position) (written : String)
    (names : Option (List ImportedName)) : Findings :=
  let module := v.sourceModule written
  match names with
  | none => v.importEntry s start none module module
  | some names =>
    names.foldl
      (fun found n =>
        found ++ v.importEntry s start (some (n.localName.getD n.path)) (memberPath module n.path) module) {}

/-- The scope inside a class. -/
def classScope (v : Visit) (s : Scope) (n : Node) (name : String) : Scope :=
  let qualpath := Dotted.extend s.qualpath name
  { container := n.id
    path := n.label
    decl := n.id
    declPath := n.label
    qualpath
    className := some (v.qualname qualpath)
    owners := s.owners }

/-- The scope inside a function. -/
def functionScope (v : Visit) (s : Scope) (n : Node) (name : String) : Scope :=
  let qualpath := Dotted.extend s.qualpath name
  { container := n.id
    path := n.label
    decl := n.id
    declPath := n.label
    qualpath
    className := s.className
    owners := v.qualname qualpath :: s.owners }

mutual

/-- Visits a statement. `next` is the number of call sites before it. -/
def stmt (v : Visit) (s : Scope) (next : Nat) : Stmt → Findings
  | .expressions parts => v.topExprs s next parts
  | .block parts => stmts v s next parts
  | .loop start parts =>
    let n := v.exprNode s .loop (positionTag "for" start) start
    { nodes := [n] } ++ stmts v (s.within n) next parts
  | .importing start names => v.importNames s start names
  | .importingFrom start module names => v.importMembers s start module names
  | .class start name _ bases body =>
    let n := v.declNode s .classDef name start
    let decl : ClassDecl :=
      { id := n.id
        qualname := v.qualname (Dotted.extend s.qualpath name)
        bases := bases.filterMap dotted?
        line := start.line }
    { nodes := [n], classes := [decl] } ++ stmts v (v.classScope s n name) next body
  | .function start name _ parameters _ body =>
    let n := v.declNode s .function name start
    let decl : FunctionDecl := { id := n.id, owner := v.qualname s.qualpath, name }
    let inner := v.functionScope s n name
    let head := v.parameters s inner next parameters
    { nodes := [n], functions := [decl] } ++ head ++ stmts v inner (next + head.sites.length) body

def stmts (v : Visit) (s : Scope) (next : Nat) : List Stmt → Findings
  | [] => {}
  | t :: rest =>
    let found := stmt v s next t
    found ++ stmts v s (next + found.sites.length) rest

end

/-- The scope at the top of a module. -/
def moduleScope (v : Visit) : Scope :=
  let root := Node.moduleRoot v.module
  { container := root.id, decl := root.id }

end Visit

namespace Outline

/-- The outline of a module from the statements of its file. -/
def ofStatements (labelLimit : Nat) (module path : String) (statements : List Stmt) : Outline :=
  let v : Visit := { module, labelLimit := max 1 labelLimit, package := ModuleName.package path module }
  let found := v.stmts v.moduleScope 0 statements
  { path
    module
    nodes := Node.moduleRoot module :: found.nodes
    imports := found.imports
    classes := found.classes
    functions := found.functions
    callSites := found.sites }

end Outline

end ProgramGraph
