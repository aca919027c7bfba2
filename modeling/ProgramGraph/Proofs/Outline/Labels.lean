import ProgramGraph.Proofs.Outline.Listing
import ProgramGraph.Proofs.Outline.Trail
import ProgramGraph.Syntax.Source

/-! Which nodes of a file share an id. Every node that a visit yields, in a call or outside, is spelled by the
    trail of the tags around it (`Visit.TracedAt`), and a node is contained in the node at the end of that
    trail. So two nodes with one id and different parents involve the root, or two calls of one parent of
    which one has the label of the other with a dot and more. -/

namespace ProgramGraph
open Syntax Label

/-! ### Nodes of a file -/

/-- The nodes that a call leaves if it has no target. -/
def CallSite.nodes (site : CallSite) : List Node :=
  site.fallback :: site.fragment

/-- The nodes of an expression, those of its calls included. -/
def Visit.Traces.emitted (t : Visit.Traces) : List Node :=
  t.1 ++ t.2.flatMap CallSite.nodes

/-- The nodes of a statement, those of its calls included. -/
def Findings.emitted (f : Findings) : List Node :=
  Visit.Traces.emitted (f.nodes, f.sites)

/-- The nodes of a file, those of its calls included. -/
def Outline.emitted (o : Outline) : List Node :=
  Visit.Traces.emitted (o.nodes, o.callSites)

theorem Visit.Traces.mem_emitted_append {a b : Traces} {n : Node} :
    n ∈ Traces.emitted (a.1 ++ b.1, a.2 ++ b.2) ↔ n ∈ a.emitted ∨ n ∈ b.emitted := by
  simp only [Traces.emitted, List.mem_append, List.flatMap_append]
  grind

theorem Findings.mem_emitted_append {a b : Findings} {n : Node} :
    n ∈ (a ++ b).emitted ↔ n ∈ a.emitted ∨ n ∈ b.emitted :=
  Visit.Traces.mem_emitted_append (a := (a.nodes, a.sites)) (b := (b.nodes, b.sites))

/-- A call yields its own node and what its callee and its arguments yield. -/
theorem Visit.Traces.mem_emitted_call {site : CallSite} {a b : Traces} (fragment : site.fragment = a.1 ++ b.1)
    {n : Node} :
    n ∈ Traces.emitted ([], site :: (a.2 ++ b.2)) ↔ n = site.fallback ∨ n ∈ a.emitted ∨ n ∈ b.emitted := by
  simp only [Traces.emitted, CallSite.nodes, fragment, List.nil_append, List.flatMap_cons, List.flatMap_append,
    List.mem_append, List.mem_cons]
  grind

/-! ### Names -/

mutual

/-- The names that a statement declares, parameters included, are plain words. -/
def Syntax.Stmt.plainNames : Stmt → Bool
  | .block parts | .loop _ parts => plainNamesAll parts
  | .class _ name _ _ body => isPlain name && plainNamesAll body
  | .function _ name _ parameters _ body =>
    isPlain name && parameters.all (fun p => p.name.all isPlain) && plainNamesAll body
  | .expressions _ | .importing .. | .importingFrom .. => true

def Syntax.Stmt.plainNamesAll : List Stmt → Bool
  | [] => true
  | t :: rest => plainNames t && plainNamesAll rest

end

namespace Label

theorem Plain.append {tag more : String} (plain : Plain tag) (unmarked : Unmarked more.toList) :
    Plain (tag ++ more) := by
  refine ⟨?_, fun c member => ?_⟩
  · rw [String.toList_append]
    exact List.append_ne_nil_of_left_ne_nil plain.1 _
  · rw [String.toList_append] at member
    exact (List.mem_append.mp member).elim (plain.2 c) (unmarked c)

theorem unmarked_digits (n : Nat) : Unmarked (toString n).toList := by
  intro c member mark
  have digit : c.isDigit = true := by
    rw [show toString n = n.repr from rfl, Nat.toList_repr] at member
    exact Nat.isDigit_of_mem_toDigits (by decide) (by decide) member
  rcases mark with rfl | rfl <;> cases digit

theorem unmarked_kind (kind : NodeKind) : Unmarked kind.text.toList := by
  cases kind <;> exact unmarked_of_isUnmarked rfl

theorem plain_positionTag {word : String} (plain : Plain word) (start : Position) :
    Plain (Visit.positionTag word start) := by
  have spelled : Visit.positionTag word start =
      word ++ "@" ++ toString start.line ++ ":" ++ toString start.column := rfl
  rw [spelled]
  have sign : Unmarked "@".toList := unmarked_of_isUnmarked rfl
  have colon : Unmarked ":".toList := unmarked_of_isUnmarked rfl
  exact (((plain.append sign).append (unmarked_digits _)).append colon).append (unmarked_digits _)

end Label

/-! ### Traces -/

namespace Visit

/-- For every call on a trail there is a known call node. -/
def Backed (module : String) (known : Node → Prop) (trail : List String) : Prop :=
  ∀ common call rest, trail = common ++ call :: rest → Opens "call" call →
    ∃ n, known n ∧ n.kind = .call ∧ n.label = ofTrail (common ++ [call]) ∧ n.parent = some (holder module common)

/-- A place in which nodes can stand: the node at the end of a trail. -/
structure Standing (module : String) (known : Node → Prop) (trail : List String) (id : NodeId) (path : String) : Prop where
  id_eq : id = holder module trail
  path_eq : path = ofTrail trail
  holders : ∀ tag ∈ trail, IsHolder tag
  backed : Backed module known trail

/-- A node with its tag, at the end of a trail. -/
structure TracedAt (module : String) (known : Node → Prop) (trail : List String) (tag : String) (n : Node) : Prop where
  module_eq : n.module = module
  label_eq : n.label = ofTrail (trail ++ [tag])
  parent_eq : n.parent = some (holder module trail)
  holders : ∀ t ∈ trail, IsHolder t
  isTag : IsTag tag
  backed : Backed module known (trail ++ [tag])
  contained : n.kind ≠ .module
  guarded : n.kind = .classDef ∨ n.kind = .function → n.label ≠ module

/-- A node of a file other than its root. -/
def Traced (module : String) (known : Node → Prop) (n : Node) : Prop :=
  ∃ trail tag, TracedAt module known trail tag n

section
variable {module : String} {known : Node → Prop} {trail : List String} {tag : String} {n : Node}

theorem backed_nil : Backed module known [] := by
  intro common call rest split
  cases common <;> cases split

theorem Backed.concat (backed : Backed module known trail) (own : Opens "call" tag → ∃ n, known n ∧ n.kind = .call ∧
    n.label = ofTrail (trail ++ [tag]) ∧ n.parent = some (holder module trail)) : Backed module known (trail ++ [tag]) := by
  intro common call rest split opens
  rcases List.eq_nil_or_concat rest with rfl | ⟨front, last, rfl⟩
  · obtain ⟨rfl, same⟩ := List.append_inj' split rfl
    cases same
    exact own opens
  · rw [List.concat_eq_append, ← List.cons_append, ← List.append_assoc] at split
    exact backed common call front (List.append_inj' split rfl).1 opens

/-- Inside a node that holds others. -/
theorem TracedAt.standing (traced : TracedAt module known trail tag n) (holds : IsHolder tag) :
    Standing module known (trail ++ [tag]) n.id n.label where
  id_eq := by
    unfold Node.id holder
    rw [traced.module_eq, traced.label_eq, if_neg (List.append_ne_nil_of_right_ne_nil _ (List.cons_ne_nil _ _))]
  path_eq := traced.label_eq
  holders t member := by
    rcases List.mem_append.mp member with member | member
    · exact traced.holders t member
    · rwa [List.mem_singleton.mp member]
  backed := traced.backed

/-- The label of a node in a place. -/
theorem Standing.label {id : NodeId} {path : String} (stands : Standing module known trail id path) (tag : String) :
    Dotted.extend path tag = ofTrail (trail ++ [tag]) := by
  rw [stands.path_eq]
  exact extend_ofTrail (fun t member => (stands.holders t member).isTag) tag

end

section
variable {v : Visit} {s : Scope} {known : Node → Prop} {trail : List String}

theorem exprNode_traced (stands : Standing v.module known trail s.container s.path) {kind : NodeKind} {tag : String}
    (start : Position) (isTag : IsTag tag) (contained : kind ≠ .module ∧ kind ≠ .classDef ∧ kind ≠ .function)
    (call : Opens "call" tag → kind = .call ∧ known (v.exprNode s kind tag start)) :
    TracedAt v.module known trail tag (v.exprNode s kind tag start) where
  module_eq := rfl
  label_eq := stands.label tag
  parent_eq := congrArg some stands.id_eq
  holders := stands.holders
  isTag := isTag
  backed := stands.backed.concat fun opens =>
    ⟨_, (call opens).2, (call opens).1, stands.label tag, congrArg some stands.id_eq⟩
  contained := contained.1
  guarded declares := absurd declares (not_or.mpr contained.2)

/-- A node with a plain tag. -/
theorem plainNode_traced (stands : Standing v.module known trail s.container s.path) (kind : NodeKind) {tag : String}
    (start : Position) (plain : Plain tag) (contained : kind ≠ .module ∧ kind ≠ .classDef ∧ kind ≠ .function) :
    TracedAt v.module known trail tag (v.exprNode s kind tag start) :=
  exprNode_traced stands start (Or.inl plain) contained fun opens => absurd plain opens.not_plain

/-- A node that holds nothing, with text in its tag. -/
theorem leaf_traced (stands : Standing v.module known trail s.container s.path) {kind : NodeKind} {word tag : String}
    (start : Position) (plain : Plain word) (opens : Opens word tag) (other : word ≠ "call")
    (contained : kind ≠ .module ∧ kind ≠ .classDef ∧ kind ≠ .function) :
    Traced v.module known (v.exprNode s kind tag start) :=
  ⟨trail, tag, exprNode_traced stands start (Or.inr ⟨word, plain, opens⟩) contained fun call =>
    absurd (opens.word_unique plain plain_call call) other⟩

theorem extend_append (path tag more : String) : Dotted.extend path tag ++ more = Dotted.extend path (tag ++ more) := by
  unfold Dotted.extend Dotted.qualify
  split
  · rfl
  · rw [String.append_assoc]

/-- The label of a declaration is a path with a plain tag, and not that of the root. -/
theorem declLabel_spec (v : Visit) (s : Scope) (kind : NodeKind) {name : String} (plain : Plain name) :
    ∃ tag, Plain tag ∧ v.declLabel s kind name = Dotted.extend s.declPath tag ∧ v.declLabel s kind name ≠ v.module := by
  unfold declLabel
  simp only
  split
  · rename_i same
    refine ⟨name ++ ("@" ++ kind.text), plain.append ?_, ?_, ?_⟩
    · intro c member
      rw [String.toList_append] at member
      rcases List.mem_append.mp member with member | member
      · exact (unmarked_of_isUnmarked rfl : Unmarked "@".toList) c member
      · exact unmarked_kind kind c member
    · rw [String.append_assoc, extend_append]
    · intro equal
      have lengths := congrArg String.length equal
      rw [← same, String.length_append, String.length_append, show "@".length = 1 from rfl] at lengths
      omega
  · rename_i other
    exact ⟨name, plain, rfl, other⟩

theorem declNode_traced (stands : Standing v.module known trail s.decl s.declPath) (kind : NodeKind) {name : String}
    (start : Position) (plain : Plain name) (contained : kind ≠ .module) :
    ∃ tag, Plain tag ∧ TracedAt v.module known trail tag (v.declNode s kind name start) := by
  obtain ⟨tag, plainTag, label, other⟩ := declLabel_spec v s kind plain
  refine ⟨tag, plainTag, ?_⟩
  exact
    { module_eq := rfl
      label_eq := label.trans (stands.label tag)
      parent_eq := congrArg some stands.id_eq
      holders := stands.holders
      isTag := Or.inl plainTag
      backed := stands.backed.concat fun opens => absurd plainTag opens.not_plain
      contained
      guarded := fun _ => other }

end

/-! ### Expressions -/

theorem opens_bracketed (word text : String) : Opens word (word ++ "(" ++ text ++ ")") :=
  ⟨text.toList ++ [')'], by simp⟩

section
variable {v : Visit} {s : Scope} {known : Node → Prop} {trail : List String}

theorem constantNode_traced (stands : Standing v.module known trail s.container s.path) (start : Position)
    (text : String) : Traced v.module known (v.constantNode s start text) :=
  leaf_traced stands start (plain_of_isPlain rfl) (opens_bracketed "const" (v.labelText text)) (by decide) (by decide)

theorem callNode_traced (stands : Standing v.module known trail s.container s.path) (start : Position) (written : String)
    (here : known (v.callNode s start written)) :
    TracedAt v.module known trail s!"call({v.labelText written})" (v.callNode s start written) :=
  exprNode_traced stands start (Or.inr ⟨"call", plain_call, opens_bracketed "call" _⟩) (by decide) fun _ => ⟨rfl, here⟩

end

theorem mem_emitted_call_expr {v : Visit} {s : Scope} {enclosing : Option Nat} {next : Nat} {start : Position}
    {callee : Expr} {written : String} {arguments : List Expr} {n : Node} :
    n ∈ Traces.emitted (v.expr s enclosing next (.call start callee written arguments)) ↔
      n = v.callNode s start written ∨ n ∈ Traces.emitted (v.calleeTraces s next start callee written) ∨
        n ∈ Traces.emitted (v.exprs (s.within (v.callNode s start written)) (some next)
          (next + 1 + (v.calleeTraces s next start callee written).2.length) arguments) := by
  rw [expr_call]
  exact Traces.mem_emitted_call rfl

/-- All nodes of some findings have trails, provided that the call nodes among them are known. -/
def AllTraced (module : String) (known : Node → Prop) (f : Findings) : Prop :=
  (∀ n ∈ f.emitted, known n) → ∀ n ∈ f.emitted, Traced module known n

section
variable {module : String} {known : Node → Prop}

theorem allTraced_empty : AllTraced module known {} :=
  fun _ => List.forall_mem_nil _

theorem AllTraced.append {a b : Findings} (ha : AllTraced module known a) (hb : AllTraced module known b) :
    AllTraced module known (a ++ b) := by
  intro all n member
  rcases Findings.mem_emitted_append.mp member with member | member
  · exact ha (fun n here => all n (Findings.mem_emitted_append.mpr (Or.inl here))) n member
  · exact hb (fun n here => all n (Findings.mem_emitted_append.mpr (Or.inr here))) n member

theorem allTraced_single {n : Node} {imports : List ImportEntry} {classes : List ClassDecl}
    {functions : List FunctionDecl} (traced : Traced module known n) :
    AllTraced module known { nodes := [n], imports, classes, functions } := by
  intro _ m member
  rwa [List.mem_singleton.mp member]

theorem allTraced_cons {n : Node} {t : Traces} (traced : Traced module known n)
    (inside : AllTraced module known { nodes := t.1, sites := t.2 }) :
    AllTraced module known { nodes := n :: t.1, sites := t.2 } :=
  AllTraced.append (a := { nodes := [n] }) (allTraced_single traced) inside

end

/-- A node that holds parts of an expression or of a statement is called by its position. -/
theorem holder_traced {v : Visit} {s : Scope} {known : Node → Prop} {trail : List String}
    (stands : Standing v.module known trail s.container s.path) (kind : NodeKind) {word : String} (start : Position)
    (plain : Plain word) (contained : kind ≠ .module ∧ kind ≠ .classDef ∧ kind ≠ .function) :
    let n := v.exprNode s kind (positionTag word start) start
    Traced v.module known n ∧ ∃ inside, Standing v.module known inside n.id n.label := by
  have placed := plain_positionTag plain start
  have node := plainNode_traced stands kind start placed contained
  exact ⟨⟨_, _, node⟩, _, node.standing (Or.inl placed)⟩

/-- Every node of an expression has a trail, if the call nodes among them are known. -/
theorem traced_exprClosed (v : Visit) : v.ExprClosed fun s _ _ t =>
    ∀ (known : Node → Prop) (trail : List String), Standing v.module known trail s.container s.path →
      AllTraced v.module known { nodes := t.1, sites := t.2 } where
  nothing _ _ _ := allTraced_empty
  append ha hb known trail stands := (ha known trail stands).append (hb known trail stands)
  name start text _ _ stands :=
    allTraced_single (leaf_traced stands start (plain_of_isPlain rfl) (opens_bracketed "name" text) (by decide) (by decide))
  constant start text _ _ stands := allTraced_single (constantNode_traced stands start text)
  joined start inside _ _ stands := by
    have plain : Plain "fstring" := plain_of_isPlain rfl
    obtain ⟨node, _, held⟩ := holder_traced stands .joinedString start plain (by decide)
    exact allTraced_cons node (inside _ _ held)
  field start inside _ _ stands := by
    have plain : Plain "format" := plain_of_isPlain rfl
    obtain ⟨node, _, held⟩ := holder_traced stands .formattedValue start plain (by decide)
    exact allTraced_cons node (inside _ _ held)
  call start callee written arguments before after known trail stands all := by
    -- The node of the call is among the known ones, so what is inside may have it on its trail.
    have node := callNode_traced stands start written (all _ (mem_emitted_call_expr.mpr (Or.inl rfl)))
    have inside := node.standing (Or.inr (opens_bracketed "call" _))
    intro n member
    rcases mem_emitted_call_expr.mp member with rfl | member | member
    · exact ⟨_, _, node⟩
    · exact before _ _ inside (fun n here => all n (mem_emitted_call_expr.mpr (Or.inr (Or.inl here)))) n member
    · exact after _ _ inside (fun n here => all n (mem_emitted_call_expr.mpr (Or.inr (Or.inr here)))) n member

/-! ### Statements -/

section
variable {v : Visit} {s : Scope} {known : Node → Prop} {trail : List String}

theorem topExprs_traced (next : Nat) (es : List Expr) (stands : Standing v.module known trail s.container s.path) :
    AllTraced v.module known (v.topExprs s next es) :=
  (traced_exprClosed v).exprs es s none next known trail stands

theorem parameters_traced {inner : Scope} {below : List String}
    (outside : Standing v.module known trail s.container s.path)
    (inside : Standing v.module known below inner.container inner.path) {ps : List Parameter}
    (named : ∀ p ∈ ps, ∀ name ∈ p.name, Plain name) (next : Nat) :
    AllTraced v.module known (v.parameters s inner next ps) :=
  parameters_of_parts (P := fun _ => AllTraced v.module known) allTraced_empty .append
    (fun es => topExprs_traced _ es outside)
    (fun p member name given => allTraced_single
      ⟨_, _, plainNode_traced inside .argument p.start (named p member name given) (by decide)⟩) next

theorem importEntry_traced (start : Position) (localName : Option String) (target module : String)
    (stands : Standing v.module known trail s.container s.path) :
    AllTraced v.module known (v.importEntry s start localName target module) :=
  allTraced_single (leaf_traced stands start (plain_of_isPlain rfl) (opens_bracketed "import" _) (by decide) (by decide))

end

theorem descends_plainNames : Descends (·.plainNames = true) (Stmt.plainNamesAll · = true) Plain Plain where
  cons named := Bool.and_eq_true_iff.mp named
  block named := named
  loop named := named
  «class» named := by
    obtain ⟨plain, below⟩ := Bool.and_eq_true_iff.mp named
    exact ⟨plain_of_isPlain plain, below⟩
  function named := by
    obtain ⟨named, below⟩ := Bool.and_eq_true_iff.mp named
    obtain ⟨plain, parameters⟩ := Bool.and_eq_true_iff.mp named
    refine ⟨plain_of_isPlain plain, fun x member name given => ?_, below⟩
    have all := List.all_eq_true.mp parameters x member
    rw [Option.mem_def.mp given] at all
    exact plain_of_isPlain all

/-- Every node of a statement with plain names has a trail. -/
theorem traced_stmtClosed (v : Visit) : v.StmtClosed Plain Plain fun s _ f =>
    ∀ (known : Node → Prop) (trail declTrail : List String), Standing v.module known trail s.container s.path →
      Standing v.module known declTrail s.decl s.declPath → AllTraced v.module known f where
  nothing _ _ _ _ _ := allTraced_empty
  append ha hb known trail declTrail stands decl :=
    (ha known trail declTrail stands decl).append (hb known trail declTrail stands decl)
  expressions es _ _ _ stands _ := topExprs_traced _ es stands
  importing start _ _ _ _ _ _ stands _ := importEntry_traced start _ _ _ stands
  loop start inside _ _ _ stands decl := by
    have plain : Plain "for" := plain_of_isPlain rfl
    obtain ⟨node, _, held⟩ := holder_traced stands .loop start plain (by decide)
    exact (allTraced_single node).append (inside _ _ _ held decl)
  «class» start _ plain inside _ _ _ _ decl := by
    obtain ⟨tag, plainTag, node⟩ := declNode_traced decl .classDef start plain (by decide)
    have held := node.standing (Or.inl plainTag)
    exact (allTraced_single ⟨_, _, node⟩).append (inside _ _ _ held held)
  function start plain named inside _ _ _ stands decl := by
    obtain ⟨tag, plainTag, node⟩ := declNode_traced decl .function start plain (by decide)
    have held := node.standing (Or.inl plainTag)
    exact ((allTraced_single ⟨_, _, node⟩).append (parameters_traced stands held named _)).append (inside _ _ _ held held)

theorem stmts_traced (v : Visit) (ts : List Stmt) (s : Scope) {known : Node → Prop} {trail declTrail : List String}
    (next : Nat) (stands : Standing v.module known trail s.container s.path)
    (decl : Standing v.module known declTrail s.decl s.declPath) (named : Stmt.plainNamesAll ts = true) :
    AllTraced v.module known (v.stmts s next ts) :=
  (traced_stmtClosed v).stmts descends_plainNames ts s next named known trail declTrail stands decl

end Visit

/-! ### Shared ids -/

/-- Nodes with one id have one parent. -/
def ParentsAgree (ns : List Node) : Prop :=
  ∀ a ∈ ns, ∀ b ∈ ns, a.id = b.id → a.parent = b.parent

/-- The label of a node is that of another with a dot and more. -/
def Node.Overruns (n other : Node) : Prop :=
  ∃ rest, n.label = other.label ++ "." ++ rest

/-- Nodes with one id have one parent if one of them is, or has the label of something in, a call that
    overruns another call of its parent. -/
def OverrunsAgree (ns : List Node) : Prop :=
  ∀ c ∈ ns, ∀ d ∈ ns, c.kind = .call → d.kind = .call → c.parent = d.parent → c.Overruns d →
    ∀ a ∈ ns, ∀ b ∈ ns, a.label = c.label ∨ a.Overruns c → a.id = b.id → a.parent = b.parent

namespace Visit
variable {module : String} {ns : List Node} {a b : Node}

theorem qualify_inj {owner a b : String} (same : Dotted.qualify owner a = Dotted.qualify owner b) : a = b := by
  have spelled := congrArg String.toList same
  unfold Dotted.qualify at spelled
  simp only [String.toList_append] at spelled
  exact String.toList_inj.mp (List.append_cancel_left spelled)

theorem TracedAt.isTrail {trail : List String} {tag : String} (traced : TracedAt module (· ∈ ns) trail tag a) :
    IsTrail (trail ++ [tag]) :=
  isTrail_concat traced.isTag traced.holders

/-- What a node is called behind a call on its trail. -/
theorem TracedAt.label_cases {trail common σ : List String} {tag call : String}
    (traced : TracedAt module (· ∈ ns) trail tag a) (split : trail ++ [tag] = common ++ call :: σ) :
    a.label = ofTrail (common ++ [call]) ∨ ∃ rest, a.label = ofTrail (common ++ [call]) ++ "." ++ rest := by
  rw [traced.label_eq, split]
  cases σ with
  | nil => exact Or.inl rfl
  | cons next σ =>
    refine Or.inr ⟨String.ofList (spell (next :: σ)), String.toList_inj.mp ?_⟩
    unfold ofTrail
    rw [spell_append_cons, dotted_cons]
    simp

/-- Where the tag of one call overruns the tag of another, so do the labels. -/
theorem overruns_of_tags {common : List String} {x y : String} {c d : Node} {rest : List Char}
    (hc : c.label = ofTrail (common ++ [x])) (hd : d.label = ofTrail (common ++ [y]))
    (longer : x.toList = y.toList ++ '.' :: rest) : c.Overruns d := by
  refine ⟨String.ofList rest, String.toList_inj.mp ?_⟩
  rw [hc, hd]
  cases common with
  | nil => simp [ofTrail, spell, dotted, longer]
  | cons first common => simp [ofTrail, spell, dotted, longer]

/-- Two nodes with one id and different parents lead to two calls of one parent, of which one overruns
    the other. -/
theorem TracedAt.parent_eq_of_id_eq {trail trail' : List String} {tag tag' : String}
    (ha : TracedAt module (· ∈ ns) trail tag a) (hb : TracedAt module (· ∈ ns) trail' tag' b)
    (memA : a ∈ ns) (memB : b ∈ ns) (agree : OverrunsAgree ns) (same : a.id = b.id) : a.parent = b.parent := by
  have labels : a.label = b.label := by
    unfold Node.id at same
    rw [ha.module_eq, hb.module_eq] at same
    exact qualify_inj same
  have spelled : spell (trail ++ [tag]) = spell (trail' ++ [tag']) := by
    rw [ha.label_eq, hb.label_eq] at labels
    exact String.ofList_injective labels
  -- Trails with one spelling are equal, or part at two calls in one parent, of which one overruns the other.
  rcases spell_parts ha.isTrail hb.isTrail spelled with equal | ⟨common, x, σ, y, τ, onA, onB, ne, callX, callY, rest⟩
  · obtain ⟨rfl, -⟩ := List.append_inj' equal rfl
    rw [ha.parent_eq, hb.parent_eq]
  · obtain ⟨c, memC, kindC, labelC, parentC⟩ := ha.backed common x σ onA callX
    obtain ⟨d, memD, kindD, labelD, parentD⟩ := hb.backed common y τ onB callY
    have beside : c.parent = d.parent := parentC.trans parentD.symm
    rcases overruns_of_spelled (fun equal => ne (String.toList_inj.mp equal)) rest with ⟨more, longer⟩ | ⟨more, longer⟩
    · have behind := ha.label_cases onA
      rw [← labelC] at behind
      exact agree c memC d memD kindC kindD beside (overruns_of_tags labelC labelD longer) a memA b memB behind same
    · have behind := hb.label_cases onB
      rw [← labelD] at behind
      exact (agree d memD c memC kindD kindC beside.symm (overruns_of_tags labelD labelC longer) b memB a memA behind
        same.symm).symm

end Visit

namespace Outline

/-- Every node of a file is its root or has a trail. -/
theorem emitted_cases {labelLimit : Nat} {module path : String} {statements : List Stmt}
    (named : Stmt.plainNamesAll statements = true) {n : Node}
    (member : n ∈ (ofStatements labelLimit module path statements).emitted) :
    n = Node.moduleRoot module ∨
      Visit.Traced module (· ∈ (ofStatements labelLimit module path statements).emitted) n := by
  let v : Visit := { module, labelLimit := max 1 labelLimit, package := ModuleName.package path module }
  have top : Visit.Standing module (· ∈ (ofStatements labelLimit module path statements).emitted) []
      v.moduleScope.container "" :=
    ⟨rfl, rfl, List.forall_mem_nil _, Visit.backed_nil⟩
  rcases List.mem_cons.mp member with rfl | below
  · exact Or.inl rfl
  · exact Or.inr (Visit.stmts_traced v statements v.moduleScope 0 top top named
      (fun n here => List.mem_cons_of_mem _ here) n below)

/-- Where names are plain words, no declaration of a file has the id of its root. Nodes of a file with one
    id have one parent exactly when no other node has the label of the root, and no call that overruns
    another one leads to a clash. -/
theorem parents_agree_iff (labelLimit : Nat) (module path : String) (statements : List Stmt)
    (named : Stmt.plainNamesAll statements = true) :
    (∀ n ∈ (ofStatements labelLimit module path statements).emitted,
        n.kind = .classDef ∨ n.kind = .function → n.id ≠ Dotted.qualify module module) ∧
      (ParentsAgree (ofStatements labelLimit module path statements).emitted ↔
        (∀ n ∈ (ofStatements labelLimit module path statements).emitted, n.label = module → n.kind = .module) ∧
          OverrunsAgree (ofStatements labelLimit module path statements).emitted) := by
  have root_mem : Node.moduleRoot module ∈ (ofStatements labelLimit module path statements).emitted :=
    List.mem_cons_self
  refine ⟨fun n member declares same => ?_, ⟨fun agree => ⟨fun n member label => ?_, ?_⟩, ?_⟩⟩
  · rcases emitted_cases named member with rfl | ⟨trail, tag, traced⟩
    · rcases declares with kind | kind <;> cases kind
    · unfold Node.id at same
      rw [traced.module_eq] at same
      exact traced.guarded declares (Visit.qualify_inj same)
  · rcases emitted_cases named member with rfl | ⟨trail, tag, traced⟩
    · rfl
    · have same : n.id = (Node.moduleRoot module).id := by
        unfold Node.id
        rw [traced.module_eq, label]
        rfl
      have parents := agree n member _ root_mem same
      rw [traced.parent_eq] at parents
      cases parents
  · exact fun c _ d _ _ _ _ _ a memA b memB _ => agree a memA b memB
  · rintro ⟨alone, overruns⟩ a memA b memB same
    -- A node that shares the id of the root has its label.
    have unrooted : ∀ n, n ∈ (ofStatements labelLimit module path statements).emitted →
        Visit.Traced module (· ∈ (ofStatements labelLimit module path statements).emitted) n →
        n.id ≠ (Node.moduleRoot module).id := by
      rintro n member ⟨trail, tag, traced⟩ same
      unfold Node.id at same
      rw [traced.module_eq] at same
      exact traced.contained (alone n member (Visit.qualify_inj same))
    rcases emitted_cases named memA with rfl | tracedA
    · rcases emitted_cases named memB with rfl | tracedB
      · rfl
      · exact absurd same.symm (unrooted b memB tracedB)
    · rcases emitted_cases named memB with rfl | tracedB
      · exact absurd same (unrooted a memA tracedA)
      · obtain ⟨_, _, traceA⟩ := tracedA
        obtain ⟨_, _, traceB⟩ := tracedB
        exact traceA.parent_eq_of_id_eq traceB memA memB overruns same

/-- The theorem for a function with one parameter. -/
theorem parents_agree_iff_function :
    let statements := [.function ⟨1, 0⟩ "f" [] [⟨⟨1, 6⟩, some "x", [], none⟩] [] []]
    let ns := (ofStatements 48 "m" "m.py" statements).emitted
    Stmt.plainNamesAll statements = true ∧
      (∀ n ∈ ns, n.kind = .classDef ∨ n.kind = .function → n.id ≠ Dotted.qualify "m" "m") ∧
      (ParentsAgree ns ↔ (∀ n ∈ ns, n.label = "m" → n.kind = .module) ∧ OverrunsAgree ns) :=
  ⟨by decide, parents_agree_iff 48 "m" "m.py" _ (by decide)⟩

set_option maxRecDepth 100000 in
/-- A parameter can have the id of the root of its module, which declarations avoid. -/
theorem argument_shares_the_id_of_the_root :
    (Syntax.parse "def f(x): pass\n").toOption.any (fun statements =>
      let ns := (ofStatements 48 (ModuleName.ofPath "f/x.py") "f/x.py" statements).emitted
      ns.any fun a => a.kind == .argument && ns.any fun b => b.kind == .module && a.id == b.id &&
        a.parent != b.parent) = true := by
  decide +kernel

end Outline

end ProgramGraph
