import ProgramGraph.Outline.Visit

/-! Induction over visits. A property of what is found that every form of an expression keeps holds of what
    expressions yield (`ExprClosed.exprs`), and one that every form of a statement keeps holds of what statements
    yield (`StmtClosed.stmts`). What a file lists, where its nodes stand and who makes its calls are instances, so
    none of them goes through the tree by itself. -/

namespace ProgramGraph
open Syntax

namespace Visit

/-! ### Expressions -/

section
variable (v : Visit) (s : Scope) (enclosing : Option Nat) (next : Nat) (start : Position) (callee : Expr) (written : String)

/-- What the callee of a call yields: nothing if it is a name or a dotted name. -/
def calleeTraces : Traces :=
  if callTarget callee = .computed then v.expr (s.within (v.callNode s start written)) (some next) (next + 1) callee
  else ([], [])

/-- The site of a call. -/
def callSite (fragment : List Node) : CallSite where
  scope := s.decl
  classScope := s.className
  owners := s.owners
  target := callTarget callee
  fallback := v.callNode s start written
  fragment
  enclosing
  line := start.line

theorem expr_call (arguments : List Expr) : v.expr s enclosing next (.call start callee written arguments) =
    let before := v.calleeTraces s next start callee written
    let after := v.exprs (s.within (v.callNode s start written)) (some next) (next + 1 + before.2.length) arguments
    ([], v.callSite s enclosing start callee written (before.1 ++ after.1) :: (before.2 ++ after.2)) := by
  rw [expr]
  rfl

end

/-- A property of what an expression yields in a scope, in a call and after a number of call sites, that every form
    of an expression keeps. -/
structure ExprClosed (v : Visit) (P : Scope → Option Nat → Nat → Traces → Prop) : Prop where
  nothing : ∀ {s enclosing next}, P s enclosing next ([], [])
  append : ∀ {s enclosing next} {a b : Traces}, P s enclosing next a → P s enclosing (next + a.2.length) b →
    P s enclosing next (a.1 ++ b.1, a.2 ++ b.2)
  name : ∀ {s enclosing next} start (text : String), P s enclosing next ([v.exprNode s .name s!"name({text})" start], [])
  constant : ∀ {s enclosing next} start (text : String), P s enclosing next ([v.constantNode s start text], [])
  joined : ∀ {s enclosing next} {t : Traces} start,
    let n := v.exprNode s .joinedString (positionTag "fstring" start) start
    P (s.within n) enclosing next t → P s enclosing next (n :: t.1, t.2)
  field : ∀ {s enclosing next} {t : Traces} start,
    let n := v.exprNode s .formattedValue (positionTag "format" start) start
    P (s.within n) enclosing next t → P s enclosing next (n :: t.1, t.2)
  call : ∀ {s enclosing next} start callee written arguments,
    let inner := s.within (v.callNode s start written)
    let before := v.calleeTraces s next start callee written
    let behind := next + 1 + before.2.length
    P inner (some next) (next + 1) before → P inner (some next) behind (v.exprs inner (some next) behind arguments) →
      P s enclosing next (v.expr s enclosing next (.call start callee written arguments))

namespace ExprClosed
variable {v : Visit} {P : Scope → Option Nat → Nat → Traces → Prop}

theorem callee (closed : v.ExprClosed P) {s : Scope} {next : Nat} {start : Position} {e : Expr} {written : String}
    (visited : let inner := s.within (v.callNode s start written)
      P inner (some next) (next + 1) (v.expr inner (some next) (next + 1) e)) :
    P (s.within (v.callNode s start written)) (some next) (next + 1) (v.calleeTraces s next start e written) := by
  unfold calleeTraces
  split
  · exact visited
  · exact closed.nothing

mutual

theorem expr (closed : v.ExprClosed P) (e : Expr) (s : Scope) (enclosing : Option Nat) (next : Nat) :
    P s enclosing next (v.expr s enclosing next e) := by
  cases e with
  | name start text =>
    unfold Visit.expr
    exact closed.name start text
  | constant start text =>
    unfold Visit.expr
    exact closed.constant start text
  | typing =>
    unfold Visit.expr
    exact closed.nothing
  | piece start text =>
    unfold Visit.expr
    split
    · exact closed.nothing
    · exact closed.constant start text
  | «attribute» object =>
    unfold Visit.expr
    exact expr closed object s enclosing next
  | keyword value =>
    unfold Visit.expr
    exact expr closed value s enclosing next
  | group parts =>
    unfold Visit.expr
    exact exprs closed parts s enclosing next
  | joined start parts =>
    unfold Visit.expr
    exact closed.joined start (exprs closed parts (s.within _) enclosing next)
  | field start value =>
    unfold Visit.expr
    exact closed.field start (expr closed value (s.within _) enclosing next)
  | call start callee written arguments =>
    exact closed.call start callee written arguments
      (closed.callee (expr closed callee (s.within _) (some next) (next + 1)))
      (exprs closed arguments (s.within _) (some next) _)
termination_by structural e

theorem exprs (closed : v.ExprClosed P) (es : List Expr) (s : Scope) (enclosing : Option Nat) (next : Nat) :
    P s enclosing next (v.exprs s enclosing next es) := by
  cases es with
  | nil =>
    unfold Visit.exprs
    exact closed.nothing
  | cons e rest =>
    unfold Visit.exprs
    exact closed.append (expr closed e s enclosing next) (exprs closed rest s enclosing _)
termination_by structural es

end

end ExprClosed

/-! ### Parameters and imports -/

/-- What holds of nothing, of findings after one another, of the node of a named parameter and of what a default
    yields holds of what parameters yield. -/
theorem parameters_of_parts {v : Visit} {outer inner : Scope} {P : Nat → Findings → Prop} (nothing : ∀ {next}, P next {})
    (append : ∀ {next} {a b : Findings}, P next a → P (next + a.sites.length) b → P next (a ++ b))
    (default : ∀ {next} es, P next (v.topExprs outer next es)) {ps : List Parameter}
    (named : ∀ p ∈ ps, ∀ name ∈ p.name, ∀ {next}, P next { nodes := [v.exprNode inner .argument name p.start] })
    (next : Nat) : P next (v.parameters outer inner next ps) := by
  induction ps generalizing next with
  | nil => exact nothing
  | cons p rest ih =>
    unfold parameters
    refine append ?_ (ih (fun q member => named q (List.mem_cons_of_mem _ member)) _)
    unfold parameter
    refine append ?_ (default _)
    cases given : p.name with
    | none => exact nothing
    | some name => exact named p List.mem_cons_self name given

section
variable {P : Findings → Prop} (v : Visit) (s : Scope) (start : Position) (empty : P {})
  (append : ∀ {a b : Findings}, P a → P b → P (a ++ b))
  (entry : ∀ localName target module, P (v.importEntry s start localName target module))
include empty append entry

theorem foldl_importEntry {α : Type} (localName : α → Option String) (target module : α → String) (as : List α) :
    P (as.foldl (fun found a => found ++ v.importEntry s start (localName a) (target a) (module a)) {}) :=
  List.foldlRecOn as _ empty fun _ before a _ => append before (entry (localName a) (target a) (module a))

/-- What holds of nothing, of each import and of findings put together holds of an import statement. -/
theorem importNames_of_entries (names : List ImportedName) : P (v.importNames s start names) := by
  unfold importNames
  exact foldl_importEntry v s start empty append entry _ _ _ names

theorem importMembers_of_entries (written : String) (names : Option (List ImportedName)) :
    P (v.importMembers s start written names) := by
  unfold importMembers
  cases names with
  | none => exact entry none _ _
  | some names => exact foldl_importEntry v s start empty append entry _ _ _ names

end

/-! ### Statements -/

end Visit

/-- A condition on statements that descends to their parts. It says `p` of the names of classes and functions, and
    `q` of the names of parameters. -/
structure Syntax.Descends (one : Stmt → Prop) (all : List Stmt → Prop) (p q : String → Prop) : Prop where
  cons : ∀ {t rest}, all (t :: rest) → one t ∧ all rest
  block : ∀ {parts}, one (.block parts) → all parts
  loop : ∀ {start parts}, one (.loop start parts) → all parts
  «class» : ∀ {start name types arguments body}, one (.class start name types arguments body) → p name ∧ all body
  function : ∀ {start name types ps result body}, one (.function start name types ps result body) →
    p name ∧ (∀ x ∈ ps, ∀ name ∈ x.name, q name) ∧ all body

theorem Syntax.descends_true : Descends (fun _ => True) (fun _ => True) (fun _ => True) (fun _ => True) where
  cons _ := ⟨trivial, trivial⟩
  block _ := trivial
  loop _ := trivial
  «class» _ := ⟨trivial, trivial⟩
  function _ := ⟨trivial, fun _ _ _ _ => trivial, trivial⟩

namespace Visit

/-- A property of what a statement yields in a scope and after a number of call sites, that every form of a statement
    keeps, as far as names are concerned if `p` holds of those of classes and functions and `q` of those of
    parameters. -/
structure StmtClosed (v : Visit) (p q : String → Prop) (P : Scope → Nat → Findings → Prop) : Prop where
  nothing : ∀ {s next}, P s next {}
  append : ∀ {s next} {a b : Findings}, P s next a → P s (next + a.sites.length) b → P s next (a ++ b)
  expressions : ∀ {s next} es, P s next (v.topExprs s next es)
  importing : ∀ {s next} start localName target module, P s next (v.importEntry s start localName target module)
  loop : ∀ {s next} {f : Findings} start,
    let n := v.exprNode s .loop (positionTag "for" start) start
    P (s.within n) next f → P s next ({ nodes := [n] } ++ f)
  «class» : ∀ {s next name} {f : Findings} start bases, p name →
    let n := v.declNode s .classDef name start
    P (v.classScope s n name) next f →
      P s next ({ nodes := [n], classes := [⟨n.id, v.qualname (Dotted.extend s.qualpath name), bases, start.line⟩] } ++ f)
  function : ∀ {s next name ps} {f : Findings} start, p name → (∀ x ∈ ps, ∀ name ∈ x.name, q name) →
    let n := v.declNode s .function name start
    let inner := v.functionScope s n name
    let head := v.parameters s inner next ps
    P inner (next + head.sites.length) f →
      P s next ({ nodes := [n], functions := [⟨n.id, v.qualname s.qualpath, name⟩] } ++ head ++ f)

namespace StmtClosed
variable {v : Visit} {p q : String → Prop} {P : Scope → Nat → Findings → Prop} {one : Stmt → Prop} {all : List Stmt → Prop}

/-- Imports make no calls, so they may follow one another after any number of call sites. -/
theorem imports_append (closed : v.StmtClosed p q P) {s : Scope} {a b : Findings} (ha : ∀ next, P s next a)
    (hb : ∀ next, P s next b) : ∀ next, P s next (a ++ b) :=
  fun next => closed.append (ha next) (hb _)

mutual

theorem stmt (closed : v.StmtClosed p q P) (descends : Descends one all p q) (t : Stmt) (s : Scope) (next : Nat)
    (holds : one t) : P s next (v.stmt s next t) := by
  cases t with
  | expressions parts =>
    unfold Visit.stmt
    exact closed.expressions parts
  | block parts =>
    unfold Visit.stmt
    exact stmts closed descends parts s next (descends.block holds)
  | loop start parts =>
    unfold Visit.stmt
    exact closed.loop start (stmts closed descends parts (s.within _) next (descends.loop holds))
  | importing start names =>
    unfold Visit.stmt
    exact importNames_of_entries (P := fun f => ∀ next, P s next f) v s start (fun _ => closed.nothing)
      closed.imports_append (fun _ _ _ _ => closed.importing start _ _ _) names next
  | importingFrom start module names =>
    unfold Visit.stmt
    exact importMembers_of_entries (P := fun f => ∀ next, P s next f) v s start (fun _ => closed.nothing)
      closed.imports_append (fun _ _ _ _ => closed.importing start _ _ _) module names next
  | «class» start name _ arguments body =>
    unfold Visit.stmt
    obtain ⟨named, below⟩ := descends.class holds
    exact closed.class start _ named (stmts closed descends body (v.classScope s _ name) next below)
  | function start name _ ps _ body =>
    unfold Visit.stmt
    obtain ⟨named, parameters, below⟩ := descends.function holds
    exact closed.function start named parameters (stmts closed descends body (v.functionScope s _ name) _ below)
termination_by structural t

theorem stmts (closed : v.StmtClosed p q P) (descends : Descends one all p q) (ts : List Stmt) (s : Scope) (next : Nat)
    (holds : all ts) : P s next (v.stmts s next ts) := by
  cases ts with
  | nil =>
    unfold Visit.stmts
    exact closed.nothing
  | cons t rest =>
    unfold Visit.stmts
    obtain ⟨first, others⟩ := descends.cons holds
    exact closed.append (stmt closed descends t s next first) (stmts closed descends rest s _ others)
termination_by structural ts

end

end StmtClosed

end Visit

end ProgramGraph
