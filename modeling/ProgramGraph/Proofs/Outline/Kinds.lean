import ProgramGraph.Proofs.Outline.Declarations

/-! The kinds of declarations. A class is listed as a class and a function as a function, and calls are made by
    functions, classes or the module (`Findings.Kinded`): a scope takes its declaration from the class or the
    function that it is inside of. -/

namespace ProgramGraph
open Syntax

/-- A kind of node that makes calls. -/
def NodeKind.declares : NodeKind → Bool
  | module | classDef | function => true
  | _ => false

/-- Classes and functions are listed as such, and calls are made by `decl` or by one of them. -/
structure Findings.Kinded (decl : NodeId) (f : Findings) : Prop where
  classes : ∀ c ∈ f.classes, ∃ n ∈ f.nodes, n.id = c.id ∧ n.kind = .classDef
  functions : ∀ d ∈ f.functions, ∃ n ∈ f.nodes, n.id = d.id ∧ n.kind = .function
  scopes : ∀ site ∈ f.sites, site.scope = decl ∨ ∃ n ∈ f.nodes, n.id = site.scope ∧ n.kind.declares = true

namespace Findings.Kinded
variable {decl : NodeId} {a b f : Findings}

theorem of_undeclaring (none : f.Undeclaring) (scopes : ∀ site ∈ f.sites, site.scope = decl) : Kinded decl f where
  classes := by
    rw [none.1]
    exact List.forall_mem_nil _
  functions := by
    rw [none.2]
    exact List.forall_mem_nil _
  scopes site member := Or.inl (scopes site member)

/-- Findings after one another, of which the later ones may be made by an earlier declaration. -/
theorem append {inner : NodeId} (ha : Kinded decl a) (hb : Kinded inner b)
    (around : inner = decl ∨ ∃ n ∈ a.nodes, n.id = inner ∧ n.kind.declares = true) : Kinded decl (a ++ b) where
  classes c member := by
    rcases List.mem_append.mp member with member | member
    · obtain ⟨n, here, is⟩ := ha.classes c member
      exact ⟨n, List.mem_append_left _ here, is⟩
    · obtain ⟨n, here, is⟩ := hb.classes c member
      exact ⟨n, List.mem_append_right _ here, is⟩
  functions d member := by
    rcases List.mem_append.mp member with member | member
    · obtain ⟨n, here, is⟩ := ha.functions d member
      exact ⟨n, List.mem_append_left _ here, is⟩
    · obtain ⟨n, here, is⟩ := hb.functions d member
      exact ⟨n, List.mem_append_right _ here, is⟩
  scopes site member := by
    rcases List.mem_append.mp member with member | member
    · exact (ha.scopes site member).imp_right fun ⟨n, here, is⟩ => ⟨n, List.mem_append_left _ here, is⟩
    · rcases hb.scopes site member with same | ⟨n, here, is⟩
      · rw [same]
        exact around.imp_right fun ⟨n, here, is⟩ => ⟨n, List.mem_append_left _ here, is⟩
      · exact Or.inr ⟨n, List.mem_append_right _ here, is⟩

theorem beside (ha : Kinded decl a) (hb : Kinded decl b) : Kinded decl (a ++ b) :=
  ha.append hb (Or.inl rfl)

end Findings.Kinded

namespace Visit
open Findings

theorem topExprs_kinded (v : Visit) (s : Scope) (next : Nat) (es : List Expr) : Kinded s.decl (v.topExprs s next es) :=
  .of_undeclaring (topExprs_undeclaring v s next es) fun site member => (exprs_scopes v es s none next site member).1

theorem parameters_kinded (v : Visit) (outer inner : Scope) (ps : List Parameter) (next : Nat) :
    Kinded outer.decl (v.parameters outer inner next ps) :=
  parameters_of_parts (P := fun _ => Kinded outer.decl) (.of_undeclaring ⟨rfl, rfl⟩ (List.forall_mem_nil _)) .beside
    (topExprs_kinded v outer _) (fun _ _ _ _ => .of_undeclaring ⟨rfl, rfl⟩ (List.forall_mem_nil _)) next

/-- The declarations of a statement are listed under their kinds. -/
theorem kinded_stmtClosed (v : Visit) : v.StmtClosed (fun _ => True) (fun _ => True) fun s _ => Kinded s.decl where
  nothing := .of_undeclaring ⟨rfl, rfl⟩ (List.forall_mem_nil _)
  append ha hb := ha.beside hb
  expressions es := topExprs_kinded v _ _ es
  importing _ _ _ _ := .of_undeclaring ⟨rfl, rfl⟩ (List.forall_mem_nil _)
  loop _ inside := Kinded.beside (.of_undeclaring ⟨rfl, rfl⟩ (List.forall_mem_nil _)) inside
  «class» _ _ _ inside := by
    refine Kinded.append ⟨fun c member => ?_, List.forall_mem_nil _, List.forall_mem_nil _⟩ inside
      (Or.inr ⟨_, List.mem_singleton.mpr rfl, rfl, rfl⟩)
    rw [List.mem_singleton.mp member]
    exact ⟨_, List.mem_singleton.mpr rfl, rfl, rfl⟩
  function {s _ name ps _} start _ _ inside := by
    refine Kinded.append (Kinded.beside ⟨List.forall_mem_nil _, fun d member => ?_, List.forall_mem_nil _⟩
      (parameters_kinded v s _ ps _)) inside
      (Or.inr ⟨v.declNode s .function name start, List.mem_append_left _ (List.mem_singleton.mpr rfl), rfl, rfl⟩)
    rw [List.mem_singleton.mp member]
    exact ⟨_, List.mem_singleton.mpr rfl, rfl, rfl⟩

theorem stmts_kinded (v : Visit) (ts : List Stmt) (s : Scope) (next : Nat) : Kinded s.decl (v.stmts s next ts) :=
  (kinded_stmtClosed v).stmts descends_true ts s next trivial

end Visit

/-! ### Whole files -/

namespace Outline

/-- The declarations of a file are listed under their kinds, and calls are made by declarations. -/
structure Kinded (o : Outline) : Prop where
  root : ∃ n ∈ o.nodes, n.id = o.moduleId ∧ n.kind = .module
  classes : ∀ c ∈ o.classes, ∃ n ∈ o.nodes, n.id = c.id ∧ n.kind = .classDef
  functions : ∀ d ∈ o.functions, ∃ n ∈ o.nodes, n.id = d.id ∧ n.kind = .function
  scopes : ∀ site ∈ o.callSites, ∃ n ∈ o.nodes, n.id = site.scope ∧ n.kind.declares = true

theorem ofStatements_kinded (labelLimit : Nat) (module path : String) (statements : List Stmt) :
    (ofStatements labelLimit module path statements).Kinded := by
  let v : Visit := { module, labelLimit := max 1 labelLimit, package := ModuleName.package path module }
  have found : Findings.Kinded (Node.moduleRoot module).id (v.stmts v.moduleScope 0 statements) :=
    Visit.stmts_kinded v statements v.moduleScope 0
  exact
    { root := ⟨.moduleRoot module, List.mem_cons_self, rfl, rfl⟩
      classes := fun c member => by
        obtain ⟨n, here, is⟩ := found.classes c member
        exact ⟨n, List.mem_cons_of_mem _ here, is⟩
      functions := fun d member => by
        obtain ⟨n, here, is⟩ := found.functions d member
        exact ⟨n, List.mem_cons_of_mem _ here, is⟩
      scopes := fun site member => by
        rcases found.scopes site member with same | ⟨n, here, is⟩
        · exact ⟨.moduleRoot module, List.mem_cons_self, same.symm, rfl⟩
        · exact ⟨n, List.mem_cons_of_mem _ here, is⟩ }

end Outline

end ProgramGraph
