import ProgramGraph.Proofs.Outline.Labels
import ProgramGraph.Proofs.Outline.Listing

/-! The declarations of a file. The node of a class or of a function stands in the node of what owns it, and the
    name of a class is that of its owner with one word more (`Findings.Owned`); so the names of owners tell
    where declarations stand. The class statements of a file are listed with their arguments
    (`Outline.headers`), of which a class keeps the dotted names as its bases. -/

namespace ProgramGraph
open Syntax Label

/-! ### Owners -/

/-- `id` is the node of a class or of a function among some findings, and `qualname` its name. -/
def Findings.Names (f : Findings) (id : NodeId) (qualname : String) : Prop :=
  (∃ c ∈ f.classes, c.id = id ∧ c.qualname = qualname) ∨
    ∃ d ∈ f.functions, d.id = id ∧ Dotted.qualify d.owner d.name = qualname

/-- A node stands in the owner of a name: a known one, or one among the findings. -/
def Findings.OwnedBy (known : NodeId → String → Prop) (f : Findings) (id : NodeId) (owner : String) : Prop :=
  ∃ n ∈ f.nodes, n.id = id ∧ ∃ p, n.parent = some p ∧ (known p owner ∨ f.Names p owner)

/-- Classes and functions stand in their owners. -/
structure Findings.Owned (known : NodeId → String → Prop) (f : Findings) : Prop where
  classes : ∀ c ∈ f.classes, ∃ owner name,
    c.qualname = Dotted.qualify owner name ∧ Plain name ∧ f.OwnedBy known c.id owner
  functions : ∀ d ∈ f.functions, f.OwnedBy known d.id d.owner

/-- Findings that declare neither classes nor functions. -/
def Findings.Undeclaring (f : Findings) : Prop :=
  f.classes = [] ∧ f.functions = []

namespace Findings
variable {known known' : NodeId → String → Prop} {a b f : Findings} {id : NodeId} {owner qualname : String}

theorem names_append : (a ++ b).Names id qualname ↔ a.Names id qualname ∨ b.Names id qualname := by
  have classes : (a ++ b).classes = a.classes ++ b.classes := rfl
  have functions : (a ++ b).functions = a.functions ++ b.functions := rfl
  unfold Names
  rw [classes, functions]
  simp only [List.mem_append, or_and_right, exists_or]
  exact or_or_or_comm

theorem OwnedBy.append_left (owned : a.OwnedBy known id owner) (b : Findings) : (a ++ b).OwnedBy known id owner := by
  obtain ⟨n, member, same, p, asks, holds⟩ := owned
  exact ⟨n, List.mem_append_left _ member, same, p, asks, holds.imp_right fun names => names_append.mpr (Or.inl names)⟩

theorem OwnedBy.append_right (owned : b.OwnedBy (fun p q => known p q ∨ a.Names p q) id owner) :
    (a ++ b).OwnedBy known id owner := by
  obtain ⟨n, member, same, p, asks, holds⟩ := owned
  refine ⟨n, List.mem_append_right _ member, same, p, asks, ?_⟩
  rcases holds with (holds | names) | names
  · exact Or.inl holds
  · exact Or.inr (names_append.mpr (Or.inl names))
  · exact Or.inr (names_append.mpr (Or.inr names))

theorem OwnedBy.mono (owned : f.OwnedBy known id owner) (sub : ∀ p q, known p q → known' p q) :
    f.OwnedBy known' id owner := by
  obtain ⟨n, member, same, p, asks, holds⟩ := owned
  exact ⟨n, member, same, p, asks, holds.imp_left (sub p owner)⟩

namespace Owned

theorem of_undeclaring (none : f.Undeclaring) : Owned known f := by
  constructor
  · rw [none.1]
    exact List.forall_mem_nil _
  · rw [none.2]
    exact List.forall_mem_nil _

theorem mono (owned : Owned known f) (sub : ∀ p q, known p q → known' p q) : Owned known' f where
  classes c member := by
    obtain ⟨owner, name, spelled, plain, stands⟩ := owned.classes c member
    exact ⟨owner, name, spelled, plain, stands.mono sub⟩
  functions d member := (owned.functions d member).mono sub

/-- Later findings may stand in earlier ones. -/
theorem append (ha : Owned known a) (hb : Owned (fun p q => known p q ∨ a.Names p q) b) : Owned known (a ++ b) where
  classes c member := by
    rcases List.mem_append.mp member with member | member
    · obtain ⟨owner, name, spelled, plain, stands⟩ := ha.classes c member
      exact ⟨owner, name, spelled, plain, stands.append_left b⟩
    · obtain ⟨owner, name, spelled, plain, stands⟩ := hb.classes c member
      exact ⟨owner, name, spelled, plain, stands.append_right⟩
  functions d member := by
    rcases List.mem_append.mp member with member | member
    · exact (ha.functions d member).append_left b
    · exact (hb.functions d member).append_right

theorem beside (ha : Owned known a) (hb : Owned known b) : Owned known (a ++ b) :=
  ha.append (hb.mono fun _ _ => Or.inl)

end Owned

theorem Undeclaring.append (ha : a.Undeclaring) (hb : b.Undeclaring) : (a ++ b).Undeclaring :=
  ⟨List.append_eq_nil_iff.mpr ⟨ha.1, hb.1⟩, List.append_eq_nil_iff.mpr ⟨ha.2, hb.2⟩⟩

end Findings

namespace Visit
open Findings

theorem topExprs_undeclaring (v : Visit) (s : Scope) (next : Nat) (es : List Expr) : (v.topExprs s next es).Undeclaring :=
  ⟨rfl, rfl⟩

theorem parameters_undeclaring (v : Visit) (outer inner : Scope) (ps : List Parameter) (next : Nat) :
    (v.parameters outer inner next ps).Undeclaring :=
  parameters_of_parts (P := fun _ => Undeclaring) ⟨rfl, rfl⟩ .append (topExprs_undeclaring v outer _)
    (fun _ _ _ _ => ⟨rfl, rfl⟩) next

theorem importNames_undeclaring (v : Visit) (s : Scope) (start : Position) (names : List ImportedName) :
    (v.importNames s start names).Undeclaring :=
  importNames_of_entries v s start ⟨rfl, rfl⟩ .append (fun _ _ _ => ⟨rfl, rfl⟩) names

theorem importMembers_undeclaring (v : Visit) (s : Scope) (start : Position) (written : String)
    (names : Option (List ImportedName)) : (v.importMembers s start written names).Undeclaring :=
  importMembers_of_entries v s start ⟨rfl, rfl⟩ .append (fun _ _ _ => ⟨rfl, rfl⟩) written names

/-- A name below a scope is the name of the scope with one word more. -/
theorem qualname_extend (v : Visit) (qualpath : String) {name : String} (named : name ≠ "") :
    v.qualname (Dotted.extend qualpath name) = Dotted.qualify (v.qualname qualpath) name := by
  unfold qualname Dotted.extend
  by_cases top : qualpath.isEmpty = true
  · have filled : ¬name.isEmpty = true := by rwa [String.isEmpty_iff]
    rw [if_pos top, if_neg filled, if_pos top]
  · have filled : ¬(Dotted.qualify qualpath name).isEmpty = true := by
      rw [String.isEmpty_iff]
      intro empty
      have letters := congrArg String.toList empty
      unfold Dotted.qualify at letters
      rw [String.toList_append] at letters
      exact named (String.toList_eq_nil_iff.mp (List.append_eq_nil_iff.mp letters).2)
    rw [if_neg top, if_neg filled, if_neg top]
    unfold Dotted.qualify
    simp only [String.append_assoc]

/-- What a statement with plain names declares stands in its owner: in the declaration around the statement, or in
    another one that the statement declares. -/
theorem owned_stmtClosed (v : Visit) : v.StmtClosed Plain Plain fun s _ f =>
    ∀ known : NodeId → String → Prop, known s.decl (v.qualname s.qualpath) → Owned known f where
  nothing _ _ := .of_undeclaring ⟨rfl, rfl⟩
  append ha hb known decl := (ha known decl).beside (hb known decl)
  expressions es _ _ := .of_undeclaring (topExprs_undeclaring v _ _ es)
  importing _ _ _ _ _ _ := .of_undeclaring ⟨rfl, rfl⟩
  loop _ inside known decl := Owned.beside (.of_undeclaring ⟨rfl, rfl⟩) (inside known decl)
  «class» {s _ name _} _ _ plain inside _ decl := by
    refine Owned.append ⟨fun c member => ?_, List.forall_mem_nil _⟩ (inside _ ?_)
    · rw [List.mem_singleton.mp member]
      exact ⟨_, name, qualname_extend v s.qualpath plain.ne_empty, plain, _, List.mem_singleton.mpr rfl, rfl, s.decl, rfl,
        Or.inl decl⟩
    · exact Or.inr (Or.inl ⟨_, List.mem_singleton.mpr rfl, rfl, rfl⟩)
  function {s _ name ps _} _ plain _ inside _ decl := by
    refine Owned.append (Owned.beside ⟨List.forall_mem_nil _, fun d member => ?_⟩
      (.of_undeclaring (parameters_undeclaring v s _ ps _))) (inside _ ?_)
    · rw [List.mem_singleton.mp member]
      exact ⟨_, List.mem_singleton.mpr rfl, rfl, s.decl, rfl, Or.inl decl⟩
    · exact Or.inr (Findings.names_append.mpr (Or.inl (Or.inr
        ⟨_, List.mem_singleton.mpr rfl, rfl, (qualname_extend v s.qualpath plain.ne_empty).symm⟩)))

theorem stmts_owned (v : Visit) (ts : List Stmt) (s : Scope) {known : NodeId → String → Prop} (next : Nat)
    (decl : known s.decl (v.qualname s.qualpath)) (named : Stmt.plainNamesAll ts = true) :
    Owned known (v.stmts s next ts) :=
  (owned_stmtClosed v).stmts descends_plainNames ts s next named known decl

/-! ### Classes around calls -/

/-- The class around each call is the one around the findings or one among them. -/
def Scoped (className : Option String) (f : Findings) : Prop :=
  ∀ site ∈ f.sites, ∀ q, site.classScope = some q → className = some q ∨ ∃ c ∈ f.classes, c.qualname = q

theorem Scoped.append {className : Option String} {a b : Findings} (ha : Scoped className a)
    (hb : ∀ site ∈ b.sites, ∀ q, site.classScope = some q →
      className = some q ∨ ∃ c ∈ (a ++ b).classes, c.qualname = q) : Scoped className (a ++ b) := by
  intro site member q scope
  rcases List.mem_append.mp member with member | member
  · exact (ha site member q scope).imp_right fun ⟨c, here, same⟩ => ⟨c, List.mem_append_left _ here, same⟩
  · exact hb site member q scope

theorem Scoped.beside {className : Option String} {a b : Findings} (ha : Scoped className a) (hb : Scoped className b) :
    Scoped className (a ++ b) :=
  ha.append fun site member q scope =>
    (hb site member q scope).imp_right fun ⟨c, here, same⟩ => ⟨c, List.mem_append_right _ here, same⟩

theorem topExprs_scoped (v : Visit) (s : Scope) (next : Nat) (es : List Expr) : Scoped s.className (v.topExprs s next es) :=
  fun site member _ scope => Or.inl ((exprs_scopes v es s none next site member).2.1.symm.trans scope)

theorem parameters_scoped (v : Visit) (outer inner : Scope) (ps : List Parameter) (next : Nat) :
    Scoped outer.className (v.parameters outer inner next ps) :=
  parameters_of_parts (P := fun _ => Scoped outer.className) (List.forall_mem_nil _) .beside (topExprs_scoped v outer _)
    (fun _ _ _ _ => List.forall_mem_nil _) next

theorem scoped_stmtClosed (v : Visit) : v.StmtClosed (fun _ => True) (fun _ => True) fun s _ => Scoped s.className where
  nothing := List.forall_mem_nil _
  append ha hb := ha.beside hb
  expressions es := topExprs_scoped v _ _ es
  importing _ _ _ _ := List.forall_mem_nil _
  loop _ inside := Scoped.beside (List.forall_mem_nil _) inside
  «class» _ _ _ inside := by
    refine Scoped.append (List.forall_mem_nil _) fun site member q scope => Or.inr ?_
    rcases inside site member q scope with here | ⟨c, inside, same⟩
    · exact ⟨_, List.mem_append_left _ (List.mem_singleton.mpr rfl), Option.some.inj here⟩
    · exact ⟨c, List.mem_append_right _ inside, same⟩
  function _ _ _ inside := by
    refine Scoped.beside ?_ inside
    exact Scoped.beside (List.forall_mem_nil _) (parameters_scoped v _ _ _ _)

theorem stmts_scoped (v : Visit) (ts : List Stmt) (s : Scope) (next : Nat) : Scoped s.className (v.stmts s next ts) :=
  (scoped_stmtClosed v).stmts descends_true ts s next trivial

/-! ### Class statements -/

mutual

/-- The classes that a statement declares, with the arguments as written. -/
def stmtHeaders (v : Visit) (s : Scope) : Stmt → List (ClassDecl × List Expr)
  | .block parts => stmtsHeaders v s parts
  | .loop start parts => stmtsHeaders v (s.within (v.exprNode s .loop (positionTag "for" start) start)) parts
  | .class start name _ arguments body =>
    let n := v.declNode s .classDef name start
    let decl : ClassDecl :=
      { id := n.id
        qualname := v.qualname (Dotted.extend s.qualpath name)
        bases := arguments.filterMap dotted?
        line := start.line }
    (decl, arguments) :: stmtsHeaders v (v.classScope s n name) body
  | .function start name _ _ _ body => stmtsHeaders v (v.functionScope s (v.declNode s .function name start) name) body
  | .expressions _ | .importing .. | .importingFrom .. => []

def stmtsHeaders (v : Visit) (s : Scope) : List Stmt → List (ClassDecl × List Expr)
  | [] => []
  | t :: rest => stmtHeaders v s t ++ stmtsHeaders v s rest

end

mutual

theorem stmt_classes (v : Visit) (t : Stmt) (s : Scope) (next : Nat) :
    (v.stmt s next t).classes = (v.stmtHeaders s t).map Prod.fst := by
  cases t with
  | expressions parts =>
    unfold Visit.stmt stmtHeaders
    exact (topExprs_undeclaring v s next parts).1
  | block parts =>
    unfold Visit.stmt stmtHeaders
    exact stmts_classes v parts s next
  | loop start parts =>
    unfold Visit.stmt stmtHeaders
    exact (List.nil_append _).trans (stmts_classes v parts (s.within _) next)
  | importing start names =>
    unfold Visit.stmt stmtHeaders
    exact (importNames_undeclaring v s start names).1
  | importingFrom start module names =>
    unfold Visit.stmt stmtHeaders
    exact (importMembers_undeclaring v s start module names).1
  | «class» start name _ arguments body =>
    unfold Visit.stmt stmtHeaders
    exact congrArg (List.cons _) (stmts_classes v body (v.classScope s _ name) next)
  | function start name _ ps _ body =>
    unfold Visit.stmt stmtHeaders
    -- The node of a function and its parameters come first, and declare no class.
    have before := (Undeclaring.append (a := { nodes := [v.declNode s .function name start] }) ⟨rfl, rfl⟩
      (parameters_undeclaring v s (v.functionScope s (v.declNode s .function name start) name) ps next)).1
    exact (congrArg (· ++ _) before).trans (stmts_classes v body (v.functionScope s _ name) _)
termination_by structural t

theorem stmts_classes (v : Visit) (ts : List Stmt) (s : Scope) (next : Nat) :
    (v.stmts s next ts).classes = (v.stmtsHeaders s ts).map Prod.fst := by
  cases ts with
  | nil =>
    unfold Visit.stmts stmtsHeaders
    rfl
  | cons t rest =>
    unfold Visit.stmts stmtsHeaders
    rw [List.map_append, ← stmt_classes v t s next, ← stmts_classes v rest s (next + (v.stmt s next t).sites.length)]
    rfl
termination_by structural ts

end

mutual

/-- A class keeps the dotted names among its arguments. -/
theorem stmtHeaders_bases (v : Visit) (t : Stmt) (s : Scope) :
    ∀ header ∈ v.stmtHeaders s t, header.1.bases = header.2.filterMap dotted? := by
  cases t with
  | expressions | importing | importingFrom =>
    unfold stmtHeaders
    exact List.forall_mem_nil _
  | block parts =>
    unfold stmtHeaders
    exact stmtsHeaders_bases v parts s
  | loop start parts =>
    unfold stmtHeaders
    exact stmtsHeaders_bases v parts (s.within _)
  | «class» start name _ arguments body =>
    unfold stmtHeaders
    exact List.forall_mem_cons.mpr ⟨rfl, stmtsHeaders_bases v body (v.classScope s _ name)⟩
  | function start name _ _ _ body =>
    unfold stmtHeaders
    exact stmtsHeaders_bases v body (v.functionScope s _ name)
termination_by structural t

theorem stmtsHeaders_bases (v : Visit) (ts : List Stmt) (s : Scope) :
    ∀ header ∈ v.stmtsHeaders s ts, header.1.bases = header.2.filterMap dotted? := by
  cases ts with
  | nil =>
    unfold stmtsHeaders
    exact List.forall_mem_nil _
  | cons t rest =>
    unfold stmtsHeaders
    intro header member
    rcases List.mem_append.mp member with member | member
    · exact stmtHeaders_bases v t s header member
    · exact stmtsHeaders_bases v rest s header member
termination_by structural ts

end

end Visit

/-! ### Whole files -/

namespace Outline

/-- `id` is the node of the module, of a class or of a function of a file, and `qualname` its name. -/
def Names (o : Outline) (id : NodeId) (qualname : String) : Prop :=
  (id = o.moduleId ∧ qualname = o.module) ∨ (∃ c ∈ o.classes, c.id = id ∧ c.qualname = qualname) ∨
    ∃ d ∈ o.functions, d.id = id ∧ Dotted.qualify d.owner d.name = qualname

/-- A node of a file stands in what is called `owner`. -/
def OwnedBy (o : Outline) (id : NodeId) (owner : String) : Prop :=
  ∃ n ∈ o.nodes, n.id = id ∧ ∃ p, n.parent = some p ∧ o.Names p owner

/-- Classes and functions of a file stand in their owners. -/
structure Owned (o : Outline) : Prop where
  classes : ∀ c ∈ o.classes, ∃ owner name, c.qualname = Dotted.qualify owner name ∧ Plain name ∧ o.OwnedBy c.id owner
  functions : ∀ d ∈ o.functions, o.OwnedBy d.id d.owner

theorem ofStatements_owned (labelLimit : Nat) (module path : String) (statements : List Stmt)
    (named : Stmt.plainNamesAll statements = true) : (ofStatements labelLimit module path statements).Owned := by
  let v : Visit := { module, labelLimit := max 1 labelLimit, package := ModuleName.package path module }
  have found : Findings.Owned (fun p q => p = (Node.moduleRoot module).id ∧ q = module)
      (v.stmts v.moduleScope 0 statements) :=
    Visit.stmts_owned v statements v.moduleScope 0 ⟨rfl, rfl⟩ named
  have lift : ∀ {id : NodeId} {owner : String},
      (v.stmts v.moduleScope 0 statements).OwnedBy (fun p q => p = (Node.moduleRoot module).id ∧ q = module) id owner →
        (ofStatements labelLimit module path statements).OwnedBy id owner := by
    rintro id owner ⟨n, member, same, p, asks, holds⟩
    exact ⟨n, List.mem_cons_of_mem _ member, same, p, asks, holds⟩
  constructor
  · intro c member
    obtain ⟨owner, name, spelled, plain, stands⟩ := found.classes c member
    exact ⟨owner, name, spelled, plain, lift stands⟩
  · exact fun d member => lift (found.functions d member)

/-- The class around a call of a file is declared in it. -/
theorem ofStatements_scoped (labelLimit : Nat) (module path : String) (statements : List Stmt) {site : CallSite}
    (member : site ∈ (ofStatements labelLimit module path statements).callSites) {q : String}
    (scope : site.classScope = some q) :
    ∃ c ∈ (ofStatements labelLimit module path statements).classes, c.qualname = q := by
  let v : Visit := { module, labelLimit := max 1 labelLimit, package := ModuleName.package path module }
  exact (Visit.stmts_scoped v statements v.moduleScope 0 site member q scope).resolve_left nofun

/-- The class statements of a file: what each declares, and its arguments as written. -/
def headers (labelLimit : Nat) (module path : String) (statements : List Stmt) : List (ClassDecl × List Expr) :=
  let v : Visit := { module, labelLimit := max 1 labelLimit, package := ModuleName.package path module }
  v.stmtsHeaders v.moduleScope statements

section
variable (labelLimit : Nat) (module path : String) (statements : List Stmt)

theorem classes_ofStatements :
    (ofStatements labelLimit module path statements).classes = (headers labelLimit module path statements).map Prod.fst :=
  Visit.stmts_classes ..

theorem headers_bases : ∀ header ∈ headers labelLimit module path statements,
    header.1.bases = header.2.filterMap Visit.dotted? :=
  Visit.stmtsHeaders_bases _ statements _

end

end Outline

end ProgramGraph
