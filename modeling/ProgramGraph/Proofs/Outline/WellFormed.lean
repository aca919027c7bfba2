import ProgramGraph.Corpus
import ProgramGraph.Proofs.Outline.Contained
import ProgramGraph.Proofs.Outline.Declarations

/-! The outline of a source text. What it lists comes parents first; what declares or makes a call is listed; the
    call node of a site stands in a listed node or in a node of the earlier site that encloses it, and the fragment
    of a site stands below its call node (`Outline.WellFormed`). Sites are numbered through the whole file, so the
    number of sites before a construct is carried along (`Anchored`). -/

namespace ProgramGraph
open Std Syntax ProgramGraph.Graph

theorem Graph.ParentsFirst.earlier {known : NodeId → Prop} {ns before after : List Node} {n : Node} {p : NodeId}
    (first : ParentsFirst known ns) (split : ns = before ++ n :: after) (asks : n.parent = some p) :
    known p ∨ ∃ m ∈ before, m.id = p := by
  induction before generalizing known ns with
  | nil =>
    rw [split] at first
    exact Or.inl (first.1 p asks)
  | cons m before ih =>
    rw [split] at first
    rcases ih first.2 rfl with (here | rfl) | ⟨other, member, same⟩
    · exact Or.inl here
    · exact Or.inr ⟨m, List.mem_cons_self, rfl⟩
    · exact Or.inr ⟨other, List.mem_cons_of_mem _ member, same⟩

/-! ### Call sites -/

namespace CallSite

/-- The fragment of a call site stands below its call node and holds no other call node. -/
def Rooted (site : CallSite) : Prop :=
  ParentsFirst (· = site.fallback.id) site.fragment ∧ ∀ n ∈ site.fragment, n.parent.isSome ∧ n.kind ≠ .call

end CallSite

/-- Call sites that are numbered from `next` on, of an expression or of statements in the call `enclosing`. The call
    node of each stands in a known node if the site stands in that call, and else in a node of an earlier site, which
    encloses it. -/
structure Anchored (known : NodeId → Prop) (enclosing : Option Nat) (next : Nat) (sites : List CallSite) : Prop where
  rooted : ∀ site ∈ sites, site.Rooted
  fallback : ∀ (i : Nat) site, sites[i]? = some site → ∃ p, site.fallback.parent = some p ∧
    ((site.enclosing = enclosing ∧ known p) ∨ ∃ j outer, j < i ∧ site.enclosing = some (next + j) ∧
      sites[j]? = some outer ∧ ∃ n ∈ outer.nodes, n.id = p)

namespace Anchored
variable {known known' : NodeId → Prop} {enclosing : Option Nat} {next : Nat} {a b sites : List CallSite}

theorem empty : Anchored known enclosing next [] :=
  ⟨List.forall_mem_nil _, by simp⟩

theorem mono (anchored : Anchored known enclosing next sites) (sub : ∀ id, known id → known' id) :
    Anchored known' enclosing next sites where
  rooted := anchored.rooted
  fallback i site here := by
    obtain ⟨p, asks, stands⟩ := anchored.fallback i site here
    exact ⟨p, asks, stands.imp_left fun ⟨same, here⟩ => ⟨same, sub p here⟩⟩

/-- Later sites are numbered on. -/
theorem append (ha : Anchored known enclosing next a) (hb : Anchored known enclosing (next + a.length) b) :
    Anchored known enclosing next (a ++ b) where
  rooted site member := (List.mem_append.mp member).elim (ha.rooted site) (hb.rooted site)
  fallback i site here := by
    rcases Nat.lt_or_ge i a.length with inside | behind
    · rw [List.getElem?_append_left inside] at here
      obtain ⟨p, asks, stands⟩ := ha.fallback i site here
      refine ⟨p, asks, stands.imp_right ?_⟩
      rintro ⟨j, outer, before, place, there, holds⟩
      refine ⟨j, outer, before, place, ?_, holds⟩
      rw [List.getElem?_append_left (Nat.lt_trans before inside)]
      exact there
    · -- The places of `b` are shifted by the number of sites in `a`, as the numbers in it are.
      rw [List.getElem?_append_right behind] at here
      obtain ⟨p, asks, stands⟩ := hb.fallback _ site here
      refine ⟨p, asks, stands.imp_right ?_⟩
      rintro ⟨j, outer, before, place, there, holds⟩
      refine ⟨a.length + j, outer, by omega, by rw [place, Nat.add_assoc], ?_, holds⟩
      rw [List.getElem?_append_right (Nat.le_add_right ..), Nat.add_sub_cancel_left]
      exact there

/-- A call stands before the calls in it, whose nodes stand in its own. -/
theorem call {site : CallSite} {p : NodeId} (rooted : site.Rooted) (asks : site.fallback.parent = some p)
    (here : known p) (place : site.enclosing = enclosing)
    (inner : Anchored (fun id => ∃ n ∈ site.nodes, n.id = id) (some next) (next + 1) sites) :
    Anchored known enclosing next (site :: sites) where
  rooted := List.forall_mem_cons.mpr ⟨rooted, inner.rooted⟩
  fallback i other found := by
    cases i with
    | zero =>
      cases found
      exact ⟨p, asks, Or.inl ⟨place, here⟩⟩
    | succ i =>
      obtain ⟨q, asks', ⟨inside, holds⟩ | ⟨j, outer, before, inside, there, holds⟩⟩ := inner.fallback i other found
      · exact ⟨q, asks', Or.inr ⟨0, site, Nat.succ_pos i, inside, rfl, holds⟩⟩
      · refine ⟨q, asks', Or.inr ⟨j + 1, outer, Nat.succ_lt_succ before, ?_, there, holds⟩⟩
        rw [inside, Nat.add_assoc, Nat.add_comm 1 j]

/-- The node of an outermost call stands in a known node. -/
theorem outermost (anchored : Anchored known none next sites) {site : CallSite} (member : site ∈ sites)
    (outside : site.enclosing = none) : ∃ p, site.fallback.parent = some p ∧ known p := by
  obtain ⟨i, here⟩ := List.getElem?_of_mem member
  obtain ⟨p, asks, ⟨-, stands⟩ | ⟨_, _, -, inside, -⟩⟩ := anchored.fallback i site here
  · exact ⟨p, asks, stands⟩
  · rw [outside] at inside
    cases inside

/-- Where sites are numbered from zero on, the call around another one comes before it and has its node. -/
theorem enclosed (anchored : Anchored known none 0 sites) {i j : Nat} {site : CallSite} (here : sites[i]? = some site)
    (inside : site.enclosing = some j) :
    j < i ∧ ∃ outer p, sites[j]? = some outer ∧ site.fallback.parent = some p ∧ ∃ n ∈ outer.nodes, n.id = p := by
  obtain ⟨p, asks, ⟨outside, -⟩ | ⟨_, outer, before, inside', there, holds⟩⟩ := anchored.fallback i site here
  · rw [inside] at outside
    cases outside
  · rw [inside, Nat.zero_add] at inside'
    cases inside'
    exact ⟨before, outer, p, there, asks, holds⟩

/-- A node in the fragment of a call comes after its parent, which is the node of the call or in the fragment too. -/
theorem fragment (anchored : Anchored known enclosing next sites) {site : CallSite} (member : site ∈ sites)
    {before after : List Node} {n : Node} (split : site.fragment = before ++ n :: after) :
    ∃ p, n.parent = some p ∧ (p = site.fallback.id ∨ ∃ m ∈ before, m.id = p) := by
  obtain ⟨first, inner⟩ := anchored.rooted site member
  have here : n ∈ site.fragment := split ▸ List.mem_append_right _ List.mem_cons_self
  obtain ⟨p, asks⟩ := Option.isSome_iff_exists.mp (inner n here).1
  exact ⟨p, asks, first.earlier split asks⟩

end Anchored

namespace Visit

/-- The container of a scope, or a node among those that are listed in it. -/
def Holding (s : Scope) (nodes : List Node) (id : NodeId) : Prop :=
  id = s.container ∨ ∃ n ∈ nodes, n.id = id

theorem Holding.append_left {s : Scope} {nodes : List Node} {id : NodeId} (holding : Holding s nodes id)
    (more : List Node) : Holding s (nodes ++ more) id :=
  holding.imp_right fun ⟨n, member, same⟩ => ⟨n, List.mem_append_left _ member, same⟩

theorem Holding.append_right {s : Scope} {nodes : List Node} {id : NodeId} (holding : Holding s nodes id)
    (more : List Node) : Holding s (more ++ nodes) id :=
  holding.imp_right fun ⟨n, member, same⟩ => ⟨n, List.mem_append_right _ member, same⟩

/-- What stands inside of a node that is listed. -/
theorem Holding.inside {s inner : Scope} {before nodes : List Node} {id : NodeId} (holding : Holding inner nodes id)
    (listed : ∃ n ∈ before, n.id = inner.container) : Holding s (before ++ nodes) id := by
  rcases holding with rfl | ⟨n, member, same⟩
  · obtain ⟨n, member, same⟩ := listed
    exact Or.inr ⟨n, List.mem_append_left _ member, same⟩
  · exact Or.inr ⟨n, List.mem_append_right _ member, same⟩

theorem Holding.under {s inner : Scope} {n : Node} {nodes : List Node} {id : NodeId} (holding : Holding inner nodes id)
    (same : n.id = inner.container) : Holding s (n :: nodes) id := by
  have inside : Holding s ([n] ++ nodes) id := holding.inside ⟨n, List.mem_singleton.mpr rfl, same⟩
  exact inside

section
variable {v : Visit} {s : Scope} {enclosing : Option Nat} {next : Nat} {start : Position} {callee : Expr} {written : String}

/-- A call before what its callee and its arguments yield. -/
theorem call_anchored {before after : Traces}
    (listed : Findings.Listed v.module (· = (v.callNode s start written).id) { nodes := before.1 })
    (listed' : Findings.Listed v.module (· = (v.callNode s start written).id) { nodes := after.1 })
    (anchored : Anchored (Holding (s.within (v.callNode s start written)) before.1) (some next) (next + 1) before.2)
    (anchored' : Anchored (Holding (s.within (v.callNode s start written)) after.1) (some next)
      (next + 1 + before.2.length) after.2) :
    Anchored (Holding s []) enclosing next
      (v.callSite s enclosing start callee written (before.1 ++ after.1) :: (before.2 ++ after.2)) := by
  have fragment := listed.beside listed'
  have inner : Anchored (Holding (s.within (v.callNode s start written)) (before.1 ++ after.1)) (some next) (next + 1)
      (before.2 ++ after.2) :=
    (anchored.mono fun id holding => holding.append_left _).append (anchored'.mono fun id holding => holding.append_right _)
  refine .call ⟨fragment.parentsFirst, fun n member => (fragment.contained n member).2⟩ rfl (Or.inl rfl) rfl ?_
  refine inner.mono fun id holding => ?_
  rcases holding with rfl | ⟨n, member, same⟩
  · exact ⟨v.callNode s start written, List.mem_cons_self, rfl⟩
  · exact ⟨n, List.mem_cons_of_mem _ member, same⟩

end

/-- The calls of an expression stand in its container, in its nodes or in one another. -/
theorem anchored_exprClosed (v : Visit) :
    v.ExprClosed fun s enclosing next t => Anchored (Holding s t.1) enclosing next t.2 where
  nothing := .empty
  append ha hb :=
    (ha.mono fun id holding => holding.append_left _).append (hb.mono fun id holding => holding.append_right _)
  name _ _ := .empty
  constant _ _ := .empty
  -- A string is listed itself, and what is written in it stands in its node.
  joined _ inside := inside.mono fun id holding => holding.under rfl
  field _ inside := inside.mono fun id holding => holding.under rfl
  call start callee written arguments before after := by
    rw [expr_call]
    have listed := listed_exprClosed v
    exact call_anchored (listed.callee (listed.expr callee _ _ _) _ rfl) (listed.exprs arguments _ _ _ _ rfl) before after

theorem exprs_anchored (v : Visit) (es : List Expr) (s : Scope) (enclosing : Option Nat) (next : Nat) :
    Anchored (Holding s (v.exprs s enclosing next es).1) enclosing next (v.exprs s enclosing next es).2 :=
  (anchored_exprClosed v).exprs es s enclosing next

/-! ### Statements -/

/-- The calls of some findings stand in the container of a scope, in the nodes listed or in one another. -/
def FindingsAnchored (s : Scope) (next : Nat) (f : Findings) : Prop :=
  Anchored (Holding s f.nodes) none next f.sites

namespace FindingsAnchored
variable {s inner : Scope} {next : Nat} {a b f : Findings}

theorem of_none (none : f.sites = []) : FindingsAnchored s next f := by
  unfold FindingsAnchored
  rw [none]
  exact .empty

/-- Findings after others, in the same container or in a node that the others list. -/
theorem append (ha : FindingsAnchored s next a) (hb : FindingsAnchored inner (next + a.sites.length) b)
    (around : inner.container = s.container ∨ ∃ n ∈ a.nodes, n.id = inner.container) :
    FindingsAnchored s next (a ++ b) := by
  have first : Anchored (Holding s (a.nodes ++ b.nodes)) none next a.sites := ha.mono fun id holding => holding.append_left _
  refine first.append (hb.mono fun id holding => ?_)
  rcases around with same | listed
  · have beside : Holding s b.nodes id := holding.imp_left fun here => here.trans same
    exact beside.append_right _
  · exact holding.inside listed

end FindingsAnchored

theorem importNames_sites (v : Visit) (s : Scope) (start : Position) (names : List ImportedName) :
    (v.importNames s start names).sites = [] :=
  importNames_of_entries (P := fun f => f.sites = []) v s start rfl
    (fun ha hb => List.append_eq_nil_iff.mpr ⟨ha, hb⟩) (fun _ _ _ => rfl) names

theorem importMembers_sites (v : Visit) (s : Scope) (start : Position) (written : String)
    (names : Option (List ImportedName)) : (v.importMembers s start written names).sites = [] :=
  importMembers_of_entries (P := fun f => f.sites = []) v s start rfl
    (fun ha hb => List.append_eq_nil_iff.mpr ⟨ha, hb⟩) (fun _ _ _ => rfl) written names

theorem parameters_anchored (v : Visit) (outer inner : Scope) (ps : List Parameter) (next : Nat) :
    FindingsAnchored outer next (v.parameters outer inner next ps) :=
  parameters_of_parts (P := FindingsAnchored outer) (.of_none rfl) (fun ha hb => ha.append hb (Or.inl rfl))
    (fun es => exprs_anchored v es outer none _) (fun _ _ _ _ => .of_none rfl) next

theorem anchored_stmtClosed (v : Visit) : v.StmtClosed (fun _ => True) (fun _ => True) FindingsAnchored where
  nothing := .of_none rfl
  append ha hb := ha.append hb (Or.inl rfl)
  expressions es := exprs_anchored v es _ none _
  importing _ _ _ _ := .of_none rfl
  loop _ inside := FindingsAnchored.append (.of_none rfl) inside (Or.inr ⟨_, List.mem_singleton.mpr rfl, rfl⟩)
  «class» _ _ _ inside := FindingsAnchored.append (.of_none rfl) inside (Or.inr ⟨_, List.mem_singleton.mpr rfl, rfl⟩)
  function {s next _ ps _} _ _ _ inside := by
    -- Defaults are evaluated around the function, its body inside of it.
    refine FindingsAnchored.append
      (FindingsAnchored.append (.of_none rfl) (parameters_anchored v s _ ps next) (Or.inl rfl)) inside (Or.inr ?_)
    exact ⟨_, List.mem_append_left _ (List.mem_singleton.mpr rfl), rfl⟩

theorem stmts_anchored (v : Visit) (ts : List Stmt) (s : Scope) (next : Nat) :
    FindingsAnchored s next (v.stmts s next ts) :=
  (anchored_stmtClosed v).stmts descends_true ts s next trivial

end Visit

/-! ### Functions around calls -/

namespace Syntax

mutual

/-- The classes and functions that a statement declares have names. -/
def Stmt.Named : Stmt → Prop
  | .block parts | .loop _ parts => AllNamed parts
  | .class _ name _ _ body | .function _ name _ _ _ body => name ≠ "" ∧ AllNamed body
  | .expressions _ | .importing .. | .importingFrom .. => True

def Stmt.AllNamed : List Stmt → Prop
  | [] => True
  | t :: rest => Named t ∧ AllNamed rest

end

theorem descends_named : Descends Stmt.Named Stmt.AllNamed (· ≠ "") (fun _ => True) where
  cons named := named
  block named := named
  loop named := named
  «class» named := named
  function named := ⟨named.1, fun _ _ _ _ => trivial, named.2⟩

theorem Stmt.AllNamed.append : ∀ {ts us : List Stmt}, AllNamed ts → AllNamed us → AllNamed (ts ++ us)
  | [], _, _, more => more
  | _ :: _, _, named, more => ⟨named.1, named.2.append more⟩

namespace Construct

theorem definition_named {name : String} {make : String → Stmt} (named : name ≠ "" → (make name).Named) :
    Stmt.AllNamed (definition name make) := by
  unfold definition
  split
  · trivial
  · rename_i filled
    exact ⟨named fun empty => filled (String.isEmpty_iff.mpr empty), trivial⟩

mutual

theorem statements_named (t : SourceText) (c : Construct) : Stmt.AllNamed (statements t c) := by
  obtain ⟨kind, role, start, size, parts⟩ := c
  unfold statements
  split
  case h_1 => exact ⟨allStatements_named t parts, trivial⟩
  case h_2 => exact ⟨allStatements_named t parts, trivial⟩
  case h_3 => exact definition_named fun filled => ⟨filled, body_named t parts⟩
  case h_4 => exact definition_named fun filled => ⟨filled, body_named t parts⟩
  all_goals trivial
termination_by structural c

theorem allStatements_named (t : SourceText) (cs : List Construct) : Stmt.AllNamed (allStatements t cs) := by
  cases cs with
  | nil => trivial
  | cons c rest =>
    unfold allStatements
    exact (statements_named t c).append (allStatements_named t rest)
termination_by structural cs

theorem body_named (t : SourceText) (cs : List Construct) : Stmt.AllNamed (body t cs) := by
  cases cs with
  | nil => trivial
  | cons c rest =>
    obtain ⟨kind, role, start, size, parts⟩ := c
    unfold body
    split
    · exact allStatements_named t parts
    · exact body_named t rest
termination_by structural cs

end

end Construct

/-- What a source text declares has names. -/
theorem parse_named {text : String} {statements : List Stmt} (parsed : parse text = .ok statements) :
    Stmt.AllNamed statements := by
  unfold parse parseText at parsed
  split at parsed
  · cases parsed
  · rename_i tree _
    split at parsed
    · cases parsed
      generalize tree.constructs = cs
      induction cs with
      | nil => trivial
      | cons c cs ih =>
        rw [List.flatMap_cons]
        exact (Construct.allStatements_named _ c.parts).append ih
    · cases parsed

end Syntax

namespace Visit
open Findings

/-- The functions around each call are those around the findings, or they are among the findings. -/
def Surrounded (owners : List String) (f : Findings) : Prop :=
  ∀ site ∈ f.sites, ∀ q ∈ site.owners, q ∈ owners ∨ ∃ d ∈ f.functions, q = Dotted.qualify d.owner d.name

namespace Surrounded
variable {owners inner : List String} {a b f : Findings}

theorem of_none (none : f.sites = []) : Surrounded owners f := by
  unfold Surrounded
  rw [none]
  exact List.forall_mem_nil _

theorem append (ha : Surrounded owners a) (hb : Surrounded inner b)
    (around : ∀ q ∈ inner, q ∈ owners ∨ ∃ d ∈ a.functions, q = Dotted.qualify d.owner d.name) :
    Surrounded owners (a ++ b) := by
  intro site member q listed
  rcases List.mem_append.mp member with member | member
  · exact (ha site member q listed).imp_right fun ⟨d, here, same⟩ => ⟨d, List.mem_append_left _ here, same⟩
  · rcases hb site member q listed with known | ⟨d, here, same⟩
    · exact (around q known).imp_right fun ⟨d, here, same⟩ => ⟨d, List.mem_append_left _ here, same⟩
    · exact Or.inr ⟨d, List.mem_append_right _ here, same⟩

theorem beside (ha : Surrounded owners a) (hb : Surrounded owners b) : Surrounded owners (a ++ b) :=
  ha.append hb fun _ => Or.inl

end Surrounded

theorem topExprs_surrounded (v : Visit) (s : Scope) (next : Nat) (es : List Expr) :
    Surrounded s.owners (v.topExprs s next es) := by
  intro site member q listed
  rw [(exprs_scopes v es s none next site member).2.2] at listed
  exact Or.inl listed

theorem parameters_surrounded (v : Visit) (outer inner : Scope) (ps : List Parameter) (next : Nat) :
    Surrounded outer.owners (v.parameters outer inner next ps) :=
  parameters_of_parts (P := fun _ => Surrounded outer.owners) (.of_none rfl) .beside (topExprs_surrounded v outer _)
    (fun _ _ _ _ => .of_none rfl) next

theorem surrounded_stmtClosed (v : Visit) : v.StmtClosed (· ≠ "") (fun _ => True) fun s _ => Surrounded s.owners where
  nothing := .of_none rfl
  append ha hb := ha.beside hb
  expressions es := topExprs_surrounded v _ _ es
  importing _ _ _ _ := .of_none rfl
  loop _ inside := Surrounded.beside (.of_none rfl) inside
  «class» _ _ _ inside := Surrounded.beside (.of_none rfl) inside
  function {s _ _ ps _} _ named _ inside := by
    refine Surrounded.append (Surrounded.beside (.of_none rfl) (parameters_surrounded v s _ ps _)) inside
      fun q member => ?_
    rcases List.mem_cons.mp member with rfl | around
    · exact Or.inr ⟨_, List.mem_append_left _ (List.mem_singleton.mpr rfl), qualname_extend v s.qualpath named⟩
    · exact Or.inl around

theorem stmts_surrounded (v : Visit) (ts : List Stmt) (s : Scope) (next : Nat) (named : Stmt.AllNamed ts) :
    Surrounded s.owners (v.stmts s next ts) :=
  (surrounded_stmtClosed v).stmts descends_named ts s next named

end Visit

/-! ### Whole files -/

namespace Outline

/-- Nodes come after their parents, call sites after the sites that enclose them, and what they refer to is listed. -/
structure WellFormed (o : Outline) : Prop where
  root : ∃ rest, o.nodes = Node.moduleRoot o.module :: rest ∧ ∀ n ∈ rest, n.parent.isSome
  parents : ∀ before n after p, o.nodes = before ++ n :: after → n.parent = some p → ∃ m ∈ before, m.id = p
  classes : ∀ c ∈ o.classes, ∃ n ∈ o.nodes, n.id = c.id
  functions : ∀ d ∈ o.functions, ∃ n ∈ o.nodes, n.id = d.id
  scopes : ∀ site ∈ o.callSites, ∃ n ∈ o.nodes, n.id = site.scope
  enclosing : ∀ (i : Nat) (site : CallSite) j, o.callSites[i]? = some site → site.enclosing = some j → j < i
  outermost : ∀ site ∈ o.callSites, site.enclosing = none →
    ∃ p, site.fallback.parent = some p ∧ ∃ n ∈ o.nodes, n.id = p
  enclosed : ∀ site ∈ o.callSites, ∀ j, site.enclosing = some j →
    ∃ outer p, o.callSites[j]? = some outer ∧ site.fallback.parent = some p ∧
      (p = outer.fallback.id ∨ ∃ n ∈ outer.fragment, n.id = p)
  fragments : ∀ site ∈ o.callSites, ∀ before n after, site.fragment = before ++ n :: after →
    ∃ p, n.parent = some p ∧ (p = site.fallback.id ∨ ∃ m ∈ before, m.id = p)
  classScopes : ∀ site ∈ o.callSites, ∀ q, site.classScope = some q → ∃ c ∈ o.classes, c.qualname = q
  owners : ∀ site ∈ o.callSites, ∀ q ∈ site.owners, ∃ d ∈ o.functions, q = d.owner ++ "." ++ d.name
  modules : ∀ n ∈ o.emitted, n.module = o.module

/-- The calls of a file stand in its root, in its nodes or in one another. -/
theorem ofStatements_anchored (labelLimit : Nat) (module path : String) (statements : List Stmt) :
    Anchored (fun id => ∃ n ∈ (ofStatements labelLimit module path statements).nodes, n.id = id) none 0
      (ofStatements labelLimit module path statements).callSites := by
  let v : Visit := { module, labelLimit := max 1 labelLimit, package := ModuleName.package path module }
  have found : Anchored (Visit.Holding v.moduleScope (v.stmts v.moduleScope 0 statements).nodes) none 0 _ :=
    Visit.stmts_anchored v statements v.moduleScope 0
  refine found.mono fun id holding => ?_
  rcases holding with rfl | ⟨n, member, same⟩
  · exact ⟨Node.moduleRoot module, List.mem_cons_self, rfl⟩
  · exact ⟨n, List.mem_cons_of_mem _ member, same⟩

/-- Call nodes are in call sites only. -/
theorem ofStatements_kind_ne_call (labelLimit : Nat) (module path : String) (statements : List Stmt) :
    ∀ n ∈ (ofStatements labelLimit module path statements).nodes, n.kind ≠ .call := by
  let v : Visit := { module, labelLimit := max 1 labelLimit, package := ModuleName.package path module }
  have found : Findings.Listed module (· = (Node.moduleRoot module).id) (v.stmts v.moduleScope 0 statements) :=
    Visit.stmts_listed v statements v.moduleScope 0 rfl rfl
  intro n member
  rcases List.mem_cons.mp member with rfl | member
  · exact nofun
  · exact (found.contained n member).2.2

theorem ofStatements_wellFormed (labelLimit : Nat) (module path : String) {statements : List Stmt}
    (named : Stmt.AllNamed statements) : (ofStatements labelLimit module path statements).WellFormed := by
  have listed := ofStatements_listed labelLimit module path statements
  have anchored := ofStatements_anchored labelLimit module path statements
  have contained := ofStatements_contained labelLimit module path statements
  obtain ⟨rest, nodes, below⟩ := listed.root
  let v : Visit := { module, labelLimit := max 1 labelLimit, package := ModuleName.package path module }
  exact {
    root := ⟨rest, nodes, fun n member => (below n member).2⟩
    parents := fun before n after p split asks => (listed.parentsFirst.earlier split asks).resolve_left id
    classes := listed.classes
    functions := listed.functions
    scopes := listed.scopes
    enclosing := fun i site j here inside => (anchored.enclosed here inside).1
    outermost := fun site member outside => anchored.outermost member outside
    enclosed := fun site member j inside => by
      obtain ⟨i, here⟩ := List.getElem?_of_mem member
      obtain ⟨-, outer, p, there, asks, n, holds, same⟩ := anchored.enclosed here inside
      refine ⟨outer, p, there, asks, ?_⟩
      rcases List.mem_cons.mp holds with rfl | holds
      · exact Or.inl same.symm
      · exact Or.inr ⟨n, holds, same⟩
    fragments := fun site member before n after split => anchored.fragment member split
    classScopes := fun site member q scope => ofStatements_scoped labelLimit module path statements member scope
    owners := fun site member q around =>
      (Visit.stmts_surrounded v statements v.moduleScope 0 named site member q around).resolve_left List.not_mem_nil
    modules := fun n emitted => by
      rcases contained n emitted with rfl | inner
      · rfl
      · exact inner.1 }

end Outline

theorem SourceUnit.outline_of_parse {u : SourceUnit} (labelLimit : Nat) {statements : List Stmt}
    (parsed : Syntax.parse u.text = .ok statements) :
    u.outline labelLimit = .ok (.ofStatements labelLimit u.module u.path statements) := by
  unfold SourceUnit.outline
  rw [parsed]

/-- The outline of every source text that parses is well formed. -/
theorem SourceUnit.outline_wellFormed {u : SourceUnit} {labelLimit : Nat} {o : Outline}
    (visited : u.outline labelLimit = .ok o) : o.WellFormed := by
  unfold SourceUnit.outline at visited
  split at visited
  · rename_i statements parsed
    cases visited
    exact Outline.ofStatements_wellFormed labelLimit u.module u.path (parse_named parsed)
  · cases visited

set_option maxRecDepth 100000 in
/-- The theorem for a function with a call in an argument of a callee. -/
theorem SourceUnit.outline_wellFormed_nested :
    let u : SourceUnit := ⟨"m.py", "m", "def f():\n h(g())(x)\n"⟩
    ∃ o, u.outline 48 = .ok o ∧
      o.callSites.map (fun site => (site.fallback.id, site.fallback.parent, site.enclosing, site.owners)) =
        [("m.f.call(h(g()))", some "m.f", none, ["m.f"]),
          ("m.f.call(h(g())).call(h)", some "m.f.call(h(g()))", some 0, ["m.f"]),
          ("m.f.call(h(g())).call(h).call(g)", some "m.f.call(h(g())).call(h)", some 1, ["m.f"])] ∧
      o.WellFormed := by
  intro u
  have checked : (Syntax.parse "def f():\n h(g())(x)\n").toOption.any (fun statements =>
      decide ((Outline.ofStatements 48 "m" "m.py" statements).callSites.map
        (fun site => (site.fallback.id, site.fallback.parent, site.enclosing, site.owners)) =
        [("m.f.call(h(g()))", some "m.f", none, ["m.f"]),
          ("m.f.call(h(g())).call(h)", some "m.f.call(h(g()))", some 0, ["m.f"]),
          ("m.f.call(h(g())).call(h).call(g)", some "m.f.call(h(g())).call(h)", some 1, ["m.f"])])) = true := by
    decide +kernel
  obtain ⟨statements, parsed, checked⟩ := Syntax.exists_parse checked
  have visited := SourceUnit.outline_of_parse (u := u) 48 parsed
  exact ⟨_, visited, of_decide_eq_true checked, SourceUnit.outline_wellFormed visited⟩

end ProgramGraph
