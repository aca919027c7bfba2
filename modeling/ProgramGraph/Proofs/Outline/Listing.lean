import ProgramGraph.Proofs.Graph.Placement
import ProgramGraph.Proofs.Outline.Forget
import ProgramGraph.Proofs.Outline.Visiting
import ProgramGraph.Syntax.Source

/-! What the outline of a file lists. Parents stand before their children, and every declaration and every
    maker of a call is listed as a node (`Findings.Listed`). Visiting keeps this construct by construct;
    `Outline.Listed` says it of a whole file, and of what is left of it when nodes are forgotten. -/

namespace ProgramGraph
open Std Syntax ProgramGraph.Graph

theorem Syntax.exists_parse {text : String} {p : List Stmt → Bool} (checked : (parse text).toOption.any p = true) :
    ∃ statements, parse text = .ok statements ∧ p statements = true := by
  generalize parse text = result at checked
  cases result with
  | error fault => cases checked
  | ok statements => exact ⟨statements, rfl, checked⟩

/-- Findings whose nodes stand below known nodes or below one another, and outside of calls. -/
structure Findings.Listed (module : String) (known : NodeId → Prop) (f : Findings) : Prop where
  contained : ∀ n ∈ f.nodes, n.module = module ∧ n.parent.isSome ∧ n.kind ≠ .call
  parentsFirst : ParentsFirst known f.nodes
  classes : ∀ c ∈ f.classes, ∃ n ∈ f.nodes, n.id = c.id
  functions : ∀ d ∈ f.functions, ∃ n ∈ f.nodes, n.id = d.id
  scopes : ∀ site ∈ f.sites, known site.scope ∨ ∃ n ∈ f.nodes, n.id = site.scope

theorem exists_id_append {α : Type} {id : α → NodeId} {as bs : List α} {ns ms : List Node}
    (has : ∀ a ∈ as, ∃ n ∈ ns, n.id = id a) (hbs : ∀ b ∈ bs, ∃ n ∈ ms, n.id = id b) :
    ∀ a ∈ as ++ bs, ∃ n ∈ ns ++ ms, n.id = id a := by
  intro a member
  rcases List.mem_append.mp member with member | member
  · obtain ⟨n, here, same⟩ := has a member
    exact ⟨n, List.mem_append_left _ here, same⟩
  · obtain ⟨n, here, same⟩ := hbs a member
    exact ⟨n, List.mem_append_right _ here, same⟩

namespace Findings.Listed
variable {module : String} {known known' : NodeId → Prop} {a b : Findings}

theorem empty : Listed module known {} :=
  ⟨List.forall_mem_nil _, trivial, List.forall_mem_nil _, List.forall_mem_nil _, List.forall_mem_nil _⟩

theorem mono (h : Listed module known a) (hk : ∀ id, known id → known' id) : Listed module known' a :=
  ⟨h.contained, h.parentsFirst.mono hk, h.classes, h.functions, fun site hs => (h.scopes site hs).imp_left (hk _)⟩

/-- Later findings may stand below earlier ones. -/
theorem append (ha : Listed module known a)
    (hb : Listed module (fun id => known id ∨ ∃ n ∈ a.nodes, n.id = id) b) : Listed module known (a ++ b) where
  contained n hn := (List.mem_append.mp hn).elim (ha.contained n) (hb.contained n)
  parentsFirst := ha.parentsFirst.append hb.parentsFirst
  classes := exists_id_append ha.classes hb.classes
  functions := exists_id_append ha.functions hb.functions
  scopes site hs := by
    rcases List.mem_append.mp hs with hs | hs
    · refine (ha.scopes site hs).imp_right fun ⟨n, hn, heq⟩ => ⟨n, List.mem_append_left _ hn, heq⟩
    · rcases hb.scopes site hs with (hk | ⟨n, hn, heq⟩) | ⟨n, hn, heq⟩
      · exact Or.inl hk
      · exact Or.inr ⟨n, List.mem_append_left _ hn, heq⟩
      · exact Or.inr ⟨n, List.mem_append_right _ hn, heq⟩

/-- Findings next to one another. -/
theorem beside (ha : Listed module known a) (hb : Listed module known b) : Listed module known (a ++ b) :=
  ha.append (hb.mono fun _ => Or.inl)

/-- One node, perhaps of a declaration, below a known node. -/
theorem single {n : Node} {p : NodeId} {imports : List ImportEntry} {classes : List ClassDecl}
    {functions : List FunctionDecl} (hmod : n.module = module) (hpar : n.parent = some p) (hkind : n.kind ≠ .call)
    (hp : known p) (hc : ∀ c ∈ classes, c.id = n.id) (hf : ∀ d ∈ functions, d.id = n.id) :
    Listed module known { nodes := [n], imports, classes, functions } where
  contained m hm := by
    rw [List.mem_singleton.mp hm, hpar]
    exact ⟨hmod, rfl, hkind⟩
  parentsFirst := by
    refine ⟨fun q hq => ?_, trivial⟩
    rw [hpar] at hq
    cases hq
    exact hp
  classes c hmem := ⟨n, List.mem_singleton.mpr rfl, (hc c hmem).symm⟩
  functions d hmem := ⟨n, List.mem_singleton.mpr rfl, (hf d hmem).symm⟩
  scopes := List.forall_mem_nil _

end Findings.Listed

namespace Visit

/-! ### Single nodes -/

section
variable {v : Visit} {s : Scope} {known : NodeId → Prop}

theorem exprNode_listed (kind : NodeKind) (hkind : kind ≠ .call) (tag : String) (start : Position)
    (hc : known s.container) : Findings.Listed v.module known { nodes := [v.exprNode s kind tag start] } :=
  .single rfl rfl hkind hc (List.forall_mem_nil _) (List.forall_mem_nil _)

/-- What stands inside a node that has just been listed. -/
theorem inside_listed {n : Node} {a f : Findings} (ha : Findings.Listed v.module known a) (hn : n ∈ a.nodes)
    (hf : Findings.Listed v.module (fun id => known id ∨ id = n.id) f) : Findings.Listed v.module known (a ++ f) :=
  ha.append (hf.mono fun _ hid => hid.imp_right fun heq => ⟨n, hn, heq.symm⟩)

end

/-! ### Expressions -/

/-- The calls of an expression are made by the declaration around it, inside the class and the functions around
    it. -/
theorem scopes_exprClosed (v : Visit) : v.ExprClosed fun s _ _ t =>
    ∀ site ∈ t.2, site.scope = s.decl ∧ site.classScope = s.className ∧ site.owners = s.owners where
  nothing := List.forall_mem_nil _
  append ha hb := List.forall_mem_append.mpr ⟨ha, hb⟩
  name _ _ := List.forall_mem_nil _
  constant _ _ := List.forall_mem_nil _
  joined _ inside := inside
  field _ inside := inside
  call _ _ _ _ before after := by
    rw [expr_call]
    exact List.forall_mem_cons.mpr ⟨⟨rfl, rfl, rfl⟩, List.forall_mem_append.mpr ⟨before, after⟩⟩

theorem exprs_scopes (v : Visit) (es : List Expr) (s : Scope) (enclosing : Option Nat) (next : Nat) :
    ∀ site ∈ (v.exprs s enclosing next es).2,
      site.scope = s.decl ∧ site.classScope = s.className ∧ site.owners = s.owners :=
  (scopes_exprClosed v).exprs es s enclosing next

/-- The nodes of an expression outside of its calls stand below the container. -/
theorem listed_exprClosed (v : Visit) : v.ExprClosed fun s _ _ t =>
    ∀ known : NodeId → Prop, known s.container → Findings.Listed v.module known { nodes := t.1 } where
  nothing _ _ := .empty
  append ha hb known container := (ha known container).beside (hb known container)
  name start _ _ container := exprNode_listed .name nofun _ start container
  constant start _ _ container := exprNode_listed .constant nofun _ start container
  joined start inside _ container :=
    inside_listed (exprNode_listed .joinedString nofun _ start container) (List.mem_singleton.mpr rfl)
      (inside _ (Or.inr rfl))
  field start inside _ container :=
    inside_listed (exprNode_listed .formattedValue nofun _ start container) (List.mem_singleton.mpr rfl)
      (inside _ (Or.inr rfl))
  call _ _ _ _ _ _ _ _ := by
    rw [expr_call]
    exact .empty

theorem exprs_listed (v : Visit) (es : List Expr) (s : Scope) {known : NodeId → Prop} (enclosing : Option Nat)
    (next : Nat) (container : known s.container) :
    Findings.Listed v.module known { nodes := (v.exprs s enclosing next es).1 } :=
  (listed_exprClosed v).exprs es s enclosing next known container

section
variable {v : Visit} {s : Scope} {known : NodeId → Prop}

theorem topExprs_listed (next : Nat) (es : List Expr) (hc : known s.container) (hd : known s.decl) :
    Findings.Listed v.module known (v.topExprs s next es) :=
  have nodes := exprs_listed v es s none next hc
  { nodes with scopes := fun site hs => Or.inl ((exprs_scopes v es s none next site hs).1 ▸ hd) }

/-! ### Statements -/

theorem parameters_listed {inner : Scope} (hc : known s.container) (hd : known s.decl)
    (hi : known inner.container) (ps : List Parameter) (next : Nat) :
    Findings.Listed v.module known (v.parameters s inner next ps) :=
  parameters_of_parts (P := fun _ => Findings.Listed v.module known) .empty .beside
    (fun es => topExprs_listed _ es hc hd)
    (fun p _ name _ => exprNode_listed .argument nofun name p.start hi) next

end

/-- What a statement yields stands below the container and the declaration around it. -/
theorem listed_stmtClosed (v : Visit) : v.StmtClosed (fun _ => True) (fun _ => True) fun s _ f =>
    ∀ known : NodeId → Prop, known s.container → known s.decl → Findings.Listed v.module known f where
  nothing _ _ _ := .empty
  append ha hb known container decl := (ha known container decl).beside (hb known container decl)
  expressions es _ container decl := topExprs_listed _ es container decl
  importing _ _ _ _ _ container _ := .single rfl rfl nofun container (List.forall_mem_nil _) (List.forall_mem_nil _)
  loop start inside _ container decl :=
    inside_listed (exprNode_listed .loop nofun _ start container) (List.mem_singleton.mpr rfl)
      (inside _ (Or.inr rfl) (Or.inl decl))
  «class» {s _ name _} start _ _ inside _ _ decl := by
    refine inside_listed (n := v.declNode s .classDef name start) (.single rfl rfl nofun decl ?_ (List.forall_mem_nil _))
      (List.mem_singleton.mpr rfl) (inside _ (Or.inr rfl) (Or.inr rfl))
    intro c member
    rw [List.mem_singleton.mp member]
  function {s _ name ps _} start _ _ inside _ container decl := by
    refine inside_listed (n := v.declNode s .function name start) ?_
      (List.mem_append_left _ (List.mem_singleton.mpr rfl)) (inside _ (Or.inr rfl) (Or.inr rfl))
    refine inside_listed (n := v.declNode s .function name start) (.single rfl rfl nofun decl (List.forall_mem_nil _) ?_)
      (List.mem_singleton.mpr rfl) (parameters_listed (Or.inl container) (Or.inl decl) (Or.inr rfl) ps _)
    intro d member
    rw [List.mem_singleton.mp member]

theorem stmts_listed (v : Visit) (ts : List Stmt) (s : Scope) {known : NodeId → Prop} (next : Nat)
    (container : known s.container) (decl : known s.decl) : Findings.Listed v.module known (v.stmts s next ts) :=
  (listed_stmtClosed v).stmts descends_true ts s next trivial known container decl

end Visit

/-! ### Whole files -/

namespace Outline

/-- The root of a module stands first, and what is declared or makes a call is listed. -/
structure Listed (o : Outline) : Prop where
  root : ∃ rest, o.nodes = Node.moduleRoot o.module :: rest ∧ ∀ n ∈ rest, n.module = o.module ∧ n.parent.isSome
  parentsFirst : ParentsFirst (fun _ => False) o.nodes
  classes : ∀ c ∈ o.classes, ∃ n ∈ o.nodes, n.id = c.id
  functions : ∀ d ∈ o.functions, ∃ n ∈ o.nodes, n.id = d.id
  scopes : ∀ site ∈ o.callSites, ∃ n ∈ o.nodes, n.id = site.scope

theorem Listed.inModule {o : Outline} (listed : o.Listed) : ∀ n ∈ o.nodes, n.module = o.module := by
  obtain ⟨rest, nodes, contained⟩ := listed.root
  intro n member
  rw [nodes] at member
  rcases List.mem_cons.mp member with rfl | member
  · rfl
  · exact (contained n member).1

theorem ofStatements_listed (labelLimit : Nat) (module path : String) (statements : List Stmt) :
    (ofStatements labelLimit module path statements).Listed := by
  let v : Visit := { module, labelLimit := max 1 labelLimit, package := ModuleName.package path module }
  have found : Findings.Listed module (fun id => False ∨ id = (Node.moduleRoot module).id)
      (v.stmts v.moduleScope 0 statements) :=
    Visit.stmts_listed v statements v.moduleScope 0 (Or.inr rfl) (Or.inr rfl)
  exact
    { root := ⟨_, rfl, fun n member => ⟨(found.contained n member).1, (found.contained n member).2.1⟩⟩
      parentsFirst := ⟨nofun, found.parentsFirst⟩
      classes := fun c hc => by
        obtain ⟨n, hn, heq⟩ := found.classes c hc
        exact ⟨n, List.mem_cons_of_mem _ hn, heq⟩
      functions := fun d hd => by
        obtain ⟨n, hn, heq⟩ := found.functions d hd
        exact ⟨n, List.mem_cons_of_mem _ hn, heq⟩
      scopes := fun site hs => by
        rcases found.scopes site hs with (hk | hk) | ⟨n, hn, heq⟩
        · exact hk.elim
        · exact ⟨Node.moduleRoot module, List.mem_cons_self, hk.symm⟩
        · exact ⟨n, List.mem_cons_of_mem _ hn, heq⟩ }

end Outline

end ProgramGraph
