import ProgramGraph.Proofs.Graph.Forest
import ProgramGraph.Proofs.Outline.Labels
import ProgramGraph.Proofs.Outline.Listing

/-! Every node of a file but its root asks for a parent and is of no kind that roots have, whatever construct it
    comes from and whether it stands in a call or outside. The call sites that stay when nodes are forgotten
    are those of the file, numbered anew, so the same holds of the nodes that they carry. -/

namespace ProgramGraph
open Std Syntax ProgramGraph.Graph

/-- Every node of some findings, in calls or outside, stands in another node of the module. -/
def Findings.AllInner (module : String) (f : Findings) : Prop :=
  ∀ n ∈ f.emitted, n.IsInner (· = module)

namespace Findings.AllInner
variable {module : String} {a b : Findings}

theorem empty : AllInner module {} := List.forall_mem_nil _

theorem append (ha : AllInner module a) (hb : AllInner module b) : AllInner module (a ++ b) := by
  intro n member
  rcases Findings.mem_emitted_append.mp member with member | member
  · exact ha n member
  · exact hb n member

theorem single {n : Node} {imports : List ImportEntry} {classes : List ClassDecl} {functions : List FunctionDecl}
    (inner : n.IsInner (· = module)) : AllInner module { nodes := [n], imports, classes, functions } := by
  intro m member
  rwa [List.mem_singleton.mp member]

end Findings.AllInner

namespace Visit
open Findings

theorem exprNode_inner (v : Visit) (s : Scope) {kind : NodeKind} (tag : String) (start : Position)
    (inner : kind.isRoot = false) : (v.exprNode s kind tag start).IsInner (· = v.module) :=
  ⟨rfl, rfl, inner⟩

theorem declNode_inner (v : Visit) (s : Scope) (kind : NodeKind) (name : String) (start : Position)
    (inner : kind.isRoot = false) : (v.declNode s kind name start).IsInner (· = v.module) :=
  ⟨rfl, rfl, inner⟩

/-! ### Expressions -/

/-- The nodes of an expression, those of its calls included, stand in others. -/
theorem inner_exprClosed (v : Visit) : v.ExprClosed fun _ _ _ t => AllInner v.module { nodes := t.1, sites := t.2 } where
  nothing := .empty
  append ha hb := AllInner.append ha hb
  name start _ := .single (exprNode_inner v _ _ start rfl)
  constant start _ := .single (exprNode_inner v _ _ start rfl)
  joined start inside := AllInner.append (a := { nodes := [_] }) (.single (exprNode_inner v _ _ start rfl)) inside
  field start inside := AllInner.append (a := { nodes := [_] }) (.single (exprNode_inner v _ _ start rfl)) inside
  call start callee written arguments before after := by
    intro n member
    rcases mem_emitted_call_expr.mp member with rfl | member | member
    · exact exprNode_inner v _ _ start rfl
    · exact before n member
    · exact after n member

theorem topExprs_inner (v : Visit) (s : Scope) (next : Nat) (es : List Expr) : AllInner v.module (v.topExprs s next es) :=
  (inner_exprClosed v).exprs es s none next

/-! ### Statements -/

theorem parameters_inner (v : Visit) (outer inside : Scope) (ps : List Parameter) (next : Nat) :
    AllInner v.module (v.parameters outer inside next ps) :=
  parameters_of_parts (P := fun _ => AllInner v.module) .empty .append (topExprs_inner v outer _)
    (fun p _ name _ => .single (exprNode_inner v inside name p.start rfl)) next

theorem inner_stmtClosed (v : Visit) : v.StmtClosed (fun _ => True) (fun _ => True) fun _ _ => AllInner v.module where
  nothing := .empty
  append ha hb := ha.append hb
  expressions es := topExprs_inner v _ _ es
  importing start _ _ _ := .single (exprNode_inner v _ _ start rfl)
  loop start inside := AllInner.append (.single (exprNode_inner v _ _ start rfl)) inside
  «class» start _ _ inside := AllInner.append (.single (declNode_inner v _ .classDef _ start rfl)) inside
  function start _ _ inside := by
    refine AllInner.append ?_ inside
    exact AllInner.append (.single (declNode_inner v _ .function _ start rfl)) (parameters_inner v _ _ _ _)

theorem stmts_inner (v : Visit) (ts : List Stmt) (s : Scope) (next : Nat) : AllInner v.module (v.stmts s next ts) :=
  (inner_stmtClosed v).stmts descends_true ts s next trivial

end Visit

/-! ### Whole files -/

namespace Outline

/-- The nodes of a file, in calls or outside, are its root and nodes that stand in others. -/
def Contained (o : Outline) : Prop :=
  ∀ n ∈ o.emitted, n = .moduleRoot o.module ∨ n.IsInner (· = o.module)

theorem ofStatements_contained (labelLimit : Nat) (module path : String) (statements : List Stmt) :
    (ofStatements labelLimit module path statements).Contained := by
  let v : Visit := { module, labelLimit := max 1 labelLimit, package := ModuleName.package path module }
  intro n member
  rcases List.mem_cons.mp member with rfl | below
  · exact Or.inl rfl
  · exact Or.inr (Visit.stmts_inner v statements v.moduleScope 0 n below)

section
variable {o : Outline}

theorem Contained.node_fits (contained : o.Contained) : ∀ n ∈ o.nodes, n.Fits (· = o.module) := by
  intro n member
  exact (contained n (List.mem_append_left _ member)).imp_left fun root => Or.inl ⟨o.module, root⟩

theorem Contained.site_fits (contained : o.Contained) {site : CallSite} (member : site ∈ o.callSites) :
    ∀ n ∈ site.fallback :: site.fragment, n.Fits (· = o.module) := by
  intro n here
  have emitted : n ∈ o.emitted := List.mem_append_right _ (List.mem_flatMap.mpr ⟨site, member, here⟩)
  exact (contained n emitted).imp_left fun root => Or.inl ⟨o.module, root⟩

end

end Outline

end ProgramGraph
