import Mathlib.Logic.Relation
import ProgramGraph.Proofs.Graph.Placement
import ProgramGraph.Proofs.Reference
import ProgramGraph.Resolution.Run

/-! What a resolution can do. Each of its phases links by edges of one kind, adds modules from outside of the
    project, records problems, and, when calls are linked, places the nodes of call sites
    (`Linking.Change`). The names of the project change between inheritance and calls only, and classes are
    opened by inheritance only (`Linking.Moves`). What is true of the graph after a phase follows from these
    changes. What one import, base or call can do is told once (`linkImport_cases`, `linkBase_cases`,
    `linkCall_cases`). -/

namespace ProgramGraph
open Std Relation

namespace EdgeKind

/-- The kinds of edges by which a resolution links. -/
def isLink : EdgeKind → Bool
  | importing | inherits | calls => true
  | containment | orphan => false

theorem ne_containment {kind : EdgeKind} (link : kind.isLink = true) : kind ≠ .containment := by
  rintro rfl
  cases link

end EdgeKind

namespace Linking

/-- What a loop establishes of the part of its list that is done. -/
theorem foldl_done {α β : Type} {f : β → α → β} {P : List α → β → Prop} (as : List α) {b : β} (first : P [] b)
    (step : ∀ done a rest b, as = done ++ a :: rest → P done b → P (done ++ [a]) (f b a)) : P as (as.foldl f b) := by
  have all : ∀ (rest done : List α) (b : β), as = done ++ rest → P done b → P as (rest.foldl f b) := by
    intro rest
    induction rest with
    | nil =>
      intro done b split before
      rw [split, List.append_nil]
      exact before
    | cons a rest ih =>
      intro done b split before
      refine ih (done ++ [a]) (f b a) ?_ (step done a rest b split before)
      rw [split, List.append_assoc]
      rfl
  exact all as [] b rfl first

/-- One change of the graph in a phase that links by edges of `kind`. -/
inductive Change (w : World) (kind : EdgeKind) (sites : CallSite → Prop) : Graph → Graph → Prop
  | link {g : Graph} {e : Edge} : e.kind = kind → mayLink e = true → Change w kind sites g (g.addEdge e)
  | external (g : Graph) (module : String) :
      Change w kind sites g (g.addNode (Node.external module (w.classifier.origin (Dotted.head module))))
  | report (g : Graph) (p : Problem) (path : Option String) (line : Option Nat) :
      Change w kind sites g (g.report p path line)
  | place {g : Graph} {site : CallSite} : sites site →
      Change w kind sites g (g.placeAll (site.fallback :: site.fragment)).graph

namespace Change
variable {w : World} {kind : EdgeKind} {sites : CallSite → Prop} {g g' : Graph}

theorem grows (change : Change w kind sites g g') : g.Grows g' := by
  cases change with
  | link => exact .addEdge ..
  | external => exact .addNode ..
  | report => exact .report ..
  | place => exact (Graph.Placement.foldl_leads _ { graph := g }).grows

/-- A change links by an edge of its kind that may be made, or it hangs new nodes. -/
theorem edge_added (change : Change w kind sites g g') {e : Edge} (member : e ∈ g'.edges) :
    e ∈ g.edges ∨ (e.kind = kind ∧ mayLink e = true) ∨ g.Hangs g' e := by
  cases change with
  | link same may =>
    rcases Graph.mem_edges_addEdge.mp member with rfl | member
    · exact Or.inr (Or.inl ⟨same, may⟩)
    · exact Or.inl member
  | external => exact Or.inl member
  | report =>
    rw [Graph.edges_report] at member
    exact Or.inl member
  | place => exact (Graph.Placement.foldl_hangs _ { graph := g } member).imp_right Or.inr

theorem edge_cases (change : Change w kind sites g g') {e : Edge} (member : e ∈ g'.edges) :
    e ∈ g.edges ∨ e.kind = kind ∨ e.kind = .containment :=
  (change.edge_added member).imp_right (Or.imp And.left And.left)

/-- A change stores modules from outside of the project and nodes of call sites. -/
theorem node_added (change : Change w kind sites g g') {id : NodeId} {n : Node} (stored : g'.node? id = some n) :
    g.node? id = some n ∨ (∃ module, n = .external module (w.classifier.origin (Dotted.head module))) ∨
      ∃ site, sites site ∧ n ∈ site.fallback :: site.fragment := by
  cases change with
  | link => exact Or.inl stored
  | external module =>
    exact (Graph.node?_addNode_cases stored).symm.imp_right fun ⟨_, _, same⟩ => Or.inl ⟨module, same⟩
  | report =>
    rw [Graph.node?_report] at stored
    exact Or.inl stored
  | place known =>
    exact (Graph.Placement.foldl_stored _ { graph := g } stored).imp_right fun member => Or.inr ⟨_, known, member⟩

end Change

/-! ### Counting links -/

/-- The counters of links tell how many links of their kinds there are. -/
structure Tallied (l : Linking) : Prop where
  imports : l.counts.imports = (l.graph.edgesOfKind .importing).length
  bases : l.counts.bases = (l.graph.edgesOfKind .inherits).length

theorem Tallied.of_edges {l l' : Linking} (tallied : l.Tallied) (imports : l'.counts.imports = l.counts.imports)
    (bases : l'.counts.bases = l.counts.bases) (edges : ∀ e : Edge, e.kind = .importing ∨ e.kind = .inherits →
      (e ∈ l'.graph.edges ↔ e ∈ l.graph.edges)) : l'.Tallied where
  imports := by
    rw [imports, tallied.imports]
    exact (Graph.length_edgesOfKind_congr fun e is => edges e (Or.inl is)).symm
  bases := by
    rw [bases, tallied.bases]
    exact (Graph.length_edgesOfKind_congr fun e is => edges e (Or.inr is)).symm

theorem counts_link (l : Linking) (e : Edge) : (l.link e).counts = l.counts := by
  unfold link
  split <;> rfl

theorem symbols_link (l : Linking) (e : Edge) : (l.link e).symbols = l.symbols := by
  unfold link
  split <;> rfl

theorem openClasses_link (l : Linking) (e : Edge) : (l.link e).openClasses = l.openClasses := by
  unfold link
  split <;> rfl

theorem mem_edges_link {l : Linking} {e e' : Edge} :
    e' ∈ (l.link e).graph.edges ↔ (e' = e ∧ mayLink e = true) ∨ e' ∈ l.graph.edges := by
  unfold link
  split <;> rename_i may <;> simp [may, Graph.mem_edges_addEdge]

theorem isNew_iff {l : Linking} {e : Edge} : l.isNew e = true ↔ mayLink e = true ∧ e ∉ l.graph.edges := by
  unfold isNew
  rw [Bool.and_eq_true, Bool.not_eq_true', ← Bool.not_eq_true, TreeSet.contains_iff_mem]

/-- A link that is new is one more of its kind. -/
theorem length_link (l : Linking) (e : Edge) (kind : EdgeKind) : ((l.link e).graph.edgesOfKind kind).length =
    (l.graph.edgesOfKind kind).length + if e.kind = kind ∧ l.isNew e = true then 1 else 0 := by
  by_cases new : e.kind = kind ∧ l.isNew e = true
  · obtain ⟨rfl, new⟩ := new
    obtain ⟨may, unlinked⟩ := isNew_iff.mp new
    have linked : l.link e = { l with graph := l.graph.addEdge e } := if_pos may
    rw [if_pos ⟨rfl, new⟩, linked]
    exact Graph.length_edgesOfKind_addEdge unlinked
  · rw [if_neg new]
    refine Graph.length_edgesOfKind_congr fun e' same => ?_
    rw [mem_edges_link]
    refine ⟨fun member => member.elim ?_ id, Or.inr⟩
    rintro ⟨rfl, may⟩
    by_contra unlinked
    exact new ⟨same, isNew_iff.mpr ⟨may, unlinked⟩⟩

/-- After a link the counters are right again if the one of its kind has gone up for a new link. -/
theorem Tallied.of_link {l l' : Linking} {e : Edge} (tallied : l.Tallied) (graph : l'.graph = (l.link e).graph)
    (imports : l'.counts.imports = l.counts.imports + if e.kind = .importing ∧ l.isNew e = true then 1 else 0)
    (bases : l'.counts.bases = l.counts.bases + if e.kind = .inherits ∧ l.isNew e = true then 1 else 0) : l'.Tallied where
  imports := by rw [imports, graph, length_link, tallied.imports]
  bases := by rw [bases, graph, length_link, tallied.bases]

/-! ### Phases -/

/-- What a part of a phase does. -/
structure Moves (w : World) (kind : EdgeKind) (sites : CallSite → Prop) (l l' : Linking) : Prop where
  graph : ReflTransGen (Change w kind sites) l.graph l'.graph
  symbols : l'.symbols = l.symbols
  opened : kind ≠ .inherits → l'.openClasses = l.openClasses
  tallied : l.Tallied → l'.Tallied

namespace Moves
variable {w : World} {kind : EdgeKind} {sites : CallSite → Prop} {l l' l'' : Linking}

theorem refl (l : Linking) : Moves w kind sites l l := ⟨.refl, rfl, fun _ => rfl, id⟩

theorem trans (first : Moves w kind sites l l') (second : Moves w kind sites l' l'') : Moves w kind sites l l'' :=
  ⟨first.graph.trans second.graph, second.symbols.trans first.symbols,
    fun other => (second.opened other).trans (first.opened other), second.tallied ∘ first.tallied⟩

/-- A phase that steps through a list. -/
theorem foldl {α β : Type} {f : β → α → β} (view : β → Linking) (as : List α) (start : β)
    (each : ∀ b, ∀ a ∈ as, Moves w kind sites (view b) (view (f b a))) :
    Moves w kind sites (view start) (view (as.foldl f start)) :=
  List.foldlRecOn as f (motive := fun b => Moves w kind sites (view start) (view b)) (.refl _)
    fun b before a member => before.trans (each b a member)

theorem mono {more : CallSite → Prop} (moves : Moves w kind sites l l') (sub : ∀ site, sites site → more site) :
    Moves w kind more l l' := by
  refine ⟨ReflTransGen.mono (fun g g' change => ?_) _ _ moves.graph, moves.symbols, moves.opened, moves.tallied⟩
  cases change with
  | link same may => exact .link same may
  | external => exact .external ..
  | report => exact .report ..
  | place known => exact .place (sub _ known)

/-- What every change keeps is kept. -/
theorem keeps (moves : Moves w kind sites l l') {P : Graph → Prop}
    (kept : ∀ g g', Change w kind sites g g' → P g → P g') (before : P l.graph) : P l'.graph := by
  have all := moves.graph
  generalize l'.graph = g at all ⊢
  induction all with
  | refl => exact before
  | tail _ step ih => exact kept _ _ step ih

theorem grows (moves : Moves w kind sites l l') : l.graph.Grows l'.graph :=
  moves.keeps (P := fun g => l.graph.Grows g) (fun _ _ change before => before.trans change.grows) (.refl _)

/-- A phase links by edges of its kind and by containment only. -/
theorem edge_cases (moves : Moves w kind sites l l') {e : Edge} (member : e ∈ l'.graph.edges) :
    e ∈ l.graph.edges ∨ e.kind = kind ∨ e.kind = .containment := by
  have all : ∀ e ∈ l'.graph.edges, e ∈ l.graph.edges ∨ e.kind = kind ∨ e.kind = .containment := by
    refine moves.keeps (P := fun g => ∀ e ∈ g.edges, e ∈ l.graph.edges ∨ e.kind = kind ∨ e.kind = .containment)
      (fun g g' change before e member => ?_) fun e member => Or.inl member
    rcases change.edge_cases member with member | added
    · exact before e member
    · exact Or.inr added
  exact all e member

/-- A phase stores modules from outside of the project, with the origin that the classifier gives them, and nodes of
    call sites. -/
theorem node_added (moves : Moves w kind sites l l') {id : NodeId} {n : Node} (stored : l'.graph.node? id = some n) :
    l.graph.node? id = some n ∨ (∃ module, n = .external module (w.classifier.origin (Dotted.head module))) ∨
      ∃ site, sites site ∧ n ∈ site.fallback :: site.fragment := by
  have all : ∀ id n, l'.graph.node? id = some n → l.graph.node? id = some n ∨
      (∃ module, n = .external module (w.classifier.origin (Dotted.head module))) ∨
        ∃ site, sites site ∧ n ∈ site.fallback :: site.fragment := by
    refine moves.keeps (P := fun g => ∀ id n, g.node? id = some n → l.graph.node? id = some n ∨
      (∃ module, n = .external module (w.classifier.origin (Dotted.head module))) ∨
        ∃ site, sites site ∧ n ∈ site.fallback :: site.fragment)
      (fun g g' change before id n stored => ?_) fun id n stored => Or.inl stored
    rcases change.node_added stored with stored | added
    · exact before id n stored
    · exact Or.inr added
  exact all id n stored

/-- A phase without calls stores nothing but modules from outside of the project. -/
theorem node_cases (moves : Moves w kind (fun _ => False) l l') {id : NodeId} {n : Node}
    (stored : l'.graph.node? id = some n) : l.graph.node? id = some n ∨
      ∃ module, n = .external module (w.classifier.origin (Dotted.head module)) := by
  rcases moves.node_added stored with stored | external | ⟨_, none, _⟩
  · exact Or.inl stored
  · exact Or.inr external
  · exact none.elim

theorem change (step : Change w kind sites l.graph l'.graph) (symbols : l'.symbols = l.symbols)
    (opened : l'.openClasses = l.openClasses) (tallied : l.Tallied → l'.Tallied) : Moves w kind sites l l' :=
  ⟨.single step, symbols, fun _ => opened, tallied⟩

/-- A change of the counters alone, those of links apart. -/
theorem counted (counts : LinkCounts) (imports : counts.imports = l.counts.imports) (bases : counts.bases = l.counts.bases) :
    Moves w kind sites l { l with counts } :=
  ⟨.refl, rfl, fun _ => rfl, fun tallied => tallied.of_edges imports bases fun _ _ => Iff.rfl⟩

/-- A link that is counted. -/
theorem link {e : Edge} (same : e.kind = kind) (graph : l'.graph = (l.link e).graph) (symbols : l'.symbols = l.symbols)
    (opened : l'.openClasses = l.openClasses)
    (imports : l'.counts.imports = l.counts.imports + if e.kind = .importing ∧ l.isNew e = true then 1 else 0)
    (bases : l'.counts.bases = l.counts.bases + if e.kind = .inherits ∧ l.isNew e = true then 1 else 0) :
    Moves w kind sites l l' := by
  refine ⟨?_, symbols, fun _ => opened, fun tallied => tallied.of_link graph imports bases⟩
  rw [graph]
  unfold Linking.link
  split
  · rename_i may
    exact .single (.link same may)
  · exact .refl

/-- A link whose kind has a counter, which goes up if the link is new. -/
theorem linkCounted (l : Linking) (e : Edge) {count : LinkCounts → LinkCounts}
    (imports : ∀ counts, (count counts).imports = counts.imports + if e.kind = .importing then 1 else 0)
    (bases : ∀ counts, (count counts).bases = counts.bases + if e.kind = .inherits then 1 else 0) :
    Moves w e.kind sites l (l.linkCounted e count) := by
  refine .link rfl ?_ ?_ ?_ ?_ ?_
  all_goals
    unfold Linking.linkCounted
    simp only
    split <;> rename_i new <;> simp [new, imports, bases, counts_link, symbols_link, openClasses_link]

theorem addExternal (l : Linking) {module : String} {origin : Origin}
    (classified : origin = w.classifier.origin (Dotted.head module)) : Moves w kind sites l (l.addExternal module origin) :=
  .change (classified ▸ .external ..) rfl rfl fun tallied => tallied.of_edges rfl rfl fun _ _ => Iff.rfl

theorem report (l : Linking) (p : Problem) (module : String) (line : Option Nat) :
    Moves w kind sites l (Linking.report w l p module line) := by
  refine .change (.report ..) rfl rfl fun tallied => tallied.of_edges rfl rfl fun e _ => ?_
  change e ∈ (l.graph.report p _ line).edges ↔ _
  rw [Graph.edges_report]

theorem openClass (l : Linking) (qualname : String) : Moves w .inherits sites l (l.openClass qualname) :=
  ⟨.refl, rfl, fun other => absurd rfl other, fun tallied => tallied.of_edges rfl rfl fun _ _ => Iff.rfl⟩

end Moves

variable (w : World) {sites : CallSite → Prop}

/-! ### Imports -/

theorem mem_addExternal (l : Linking) (module : String) (origin : Origin) :
    (Node.external module origin).id ∈ (l.addExternal module origin).graph.nodes :=
  Graph.mem_nodes_addNode.mpr (Or.inl rfl)

theorem linkImportEdge_moves (l : Linking) (source target : NodeId) :
    Moves w .importing sites l (l.linkImportEdge source target) :=
  .linkCounted l ⟨source, target, .importing⟩ (fun _ => rfl) fun _ => rfl

/-- An import is passed over, or its module is known; then it leads to a name of the project, to nothing that is
    accounted for, or to a module outside of the project. -/
theorem linkImport_cases (l : Linking) (i : ImportLink) :
    linkImport w l i = l ∨ ∃ source, l.symbols.module? i.module = some source ∧
      ((∃ target, l.symbols.Names target ∧ linkImport w l i = l.linkImportEdge source target) ∨
        ∃ module origin, origin = w.classifier.origin (Dotted.head module) ∧
          ((origin = .unresolved ∧ linkImport w l i = report w (l.addExternal module origin)
              (.unresolvedReference i.module i.target unaccountedImport) i.module i.line) ∨
            (origin ≠ .unresolved ∧ linkImport w l i =
              (l.addExternal module origin).linkImportEdge source (Node.external module origin).id))) := by
  unfold linkImport
  cases l.symbols.module? i.module with
  | none => exact Or.inl rfl
  | some source =>
    have holds := l.symbols.holds_lookup w.classifier i.target i.imported
    simp only
    split <;> rename_i referent <;> rw [referent] at holds
    · exact Or.inr ⟨source, rfl, Or.inl ⟨_, holds.named rfl, rfl⟩⟩
    · exact Or.inr ⟨source, rfl, Or.inl ⟨_, holds.named rfl, rfl⟩⟩
    · exact Or.inr ⟨source, rfl, Or.inl ⟨_, holds.named rfl, rfl⟩⟩
    · split
      · rename_i here
        exact Or.inr ⟨source, rfl, Or.inl ⟨_, Or.inl ⟨_, here⟩, rfl⟩⟩
      · exact Or.inl rfl
    · exact Or.inr ⟨source, rfl, Or.inr ⟨_, _, holds, Or.inl ⟨rfl, rfl⟩⟩⟩
    · rename_i known
      exact Or.inr ⟨source, rfl, Or.inr ⟨_, _, holds, Or.inr ⟨known, rfl⟩⟩⟩
    · exact Or.inl rfl

theorem linkImport_moves (l : Linking) (i : ImportLink) : Moves w .importing sites l (linkImport w l i) := by
  rcases linkImport_cases w l i with
    next | ⟨source, -, ⟨target, -, next⟩ | ⟨module, origin, classified, ⟨-, next⟩ | ⟨-, next⟩⟩⟩ <;> rw [next]
  · exact .refl l
  · exact linkImportEdge_moves ..
  · exact (Moves.addExternal l classified).trans (.report ..)
  · exact (Moves.addExternal l classified).trans (linkImportEdge_moves ..)

theorem linkImports_moves (l : Linking) : Moves w .importing sites l (linkImports w l) :=
  .foldl id l.symbols.importLinks l fun l i _ => linkImport_moves w l i

/-! ### Inheritance -/

theorem linkBaseEdge_moves (l : Linking) (source target : NodeId) :
    Moves w .inherits sites l (l.linkBaseEdge source target) :=
  .linkCounted l ⟨source, target, .inherits⟩ (fun _ => rfl) fun _ => rfl

/-- A base is a class of the project, comes from outside of it, or links to nothing; unless it is `object`, it opens
    the class then. -/
theorem linkBase_cases (module : String) (cls : ClassDecl) (l : Linking) (found : List String) (base : String) :
    (∃ qualname id, l.symbols.class? qualname = some id ∧
        (linkBase w module cls (l, found) base).1 = l.linkBaseEdge cls.id id) ∨
      (∃ name origin, origin = w.classifier.origin (Dotted.head name) ∧
        ((origin = .unresolved ∧ (linkBase w module cls (l, found) base).1 =
            reportBase w ((l.addExternal name origin).openClass cls.qualname) module cls base unresolvedBase) ∨
          (origin ≠ .unresolved ∧ (linkBase w module cls (l, found) base).1 =
            ((l.addExternal name origin).linkBaseEdge cls.id (Node.external name origin).id).openClass cls.qualname))) ∨
      (linkBase w module cls (l, found) base).1 = l ∨
      (linkBase w module cls (l, found) base).1 = l.openClass cls.qualname ∨
      ∃ reason, (linkBase w module cls (l, found) base).1 =
        reportBase w (l.openClass cls.qualname) module cls base reason := by
  have holds := l.symbols.holds_resolve w.classifier module base
  unfold linkBase
  simp only
  split <;> rename_i referent <;> rw [referent] at holds
  · exact Or.inl ⟨_, _, holds, rfl⟩
  · exact Or.inr (Or.inl ⟨_, _, holds, Or.inl ⟨rfl, rfl⟩⟩)
  · rename_i known
    exact Or.inr (Or.inl ⟨_, _, holds, Or.inr ⟨known, rfl⟩⟩)
  · split
    · split
      · exact Or.inr (Or.inr (Or.inl rfl))
      · exact Or.inr (Or.inr (Or.inr (Or.inl rfl)))
    · exact Or.inr (Or.inr (Or.inr (Or.inr ⟨_, rfl⟩)))
  all_goals exact Or.inr (Or.inr (Or.inr (Or.inr ⟨_, rfl⟩)))

theorem linkBase_moves (module : String) (cls : ClassDecl) (state : Linking × List String) (base : String) :
    Moves w .inherits sites state.1 (linkBase w module cls state base).1 := by
  obtain ⟨l, found⟩ := state
  rcases linkBase_cases w module cls l found base with
    ⟨_, _, -, next⟩ | ⟨name, origin, classified, ⟨-, next⟩ | ⟨-, next⟩⟩ | next | next | ⟨reason, next⟩ <;> rw [next]
  · exact linkBaseEdge_moves ..
  · exact ((Moves.addExternal l classified).trans (.openClass ..)).trans (.report ..)
  · exact ((Moves.addExternal l classified).trans (linkBaseEdge_moves ..)).trans (.openClass ..)
  · exact .refl l
  · exact .openClass ..
  · exact (Moves.openClass ..).trans (.report ..)

theorem linkClass_moves (module : String) (state : Linking × Hierarchy) (cls : ClassDecl) :
    Moves w .inherits sites state.1 (linkClass w module state cls).1 := by
  unfold linkClass
  split
  · exact .foldl Prod.fst cls.bases (state.1, []) fun state base _ => linkBase_moves w module cls state base
  · exact .refl _

/-- Linking the classes of all outlines, before openness spreads. -/
theorem linkClasses_moves (outlines : List Outline) (state : Linking × Hierarchy) :
    Moves w .inherits sites state.1
      (outlines.foldl (fun state o => o.classes.foldl (linkClass w o.module) state) state).1 :=
  .foldl Prod.fst outlines state fun state o _ =>
    .foldl Prod.fst o.classes state fun state cls _ => linkClass_moves w o.module state cls

theorem linkInheritance_moves (l : Linking) (outlines : List Outline) :
    Moves w .inherits sites l (linkInheritance w l outlines).1 :=
  (linkClasses_moves w outlines (l, ∅)).trans
    ⟨.refl, rfl, fun other => absurd rfl other, fun tallied => tallied.of_edges rfl rfl fun _ _ => Iff.rfl⟩

/-! ### Calls -/

theorem reportCalls_moves (module : String) (site : CallSite) (ps : Array Problem) (l : Linking) :
    Moves w .calls sites l (ps.foldl (reportCall w module site) l) := by
  rw [← Array.foldl_toList]
  exact .foldl id ps.toList l fun l p _ => .report ..

theorem keepCall_moves (module : String) (l : Linking) {site : CallSite} (known : sites site) :
    Moves w .calls sites l (keepCall w module l site).1 := by
  have placed : Moves w .calls sites l { l with graph := (l.graph.placeAll (site.fallback :: site.fragment)).graph } := by
    refine .change (.place known) rfl rfl fun tallied => tallied.of_edges rfl rfl fun e is => ⟨fun member => ?_, ?_⟩
    · refine (Graph.Placement.foldl_edges _ { graph := l.graph } member).resolve_right fun contains => ?_
      simp [contains] at is
    · exact (Graph.Placement.foldl_leads _ { graph := l.graph }).grows.edge
  exact placed.trans (reportCalls_moves ..)

/-- The call around a call site, if there is one, left a node. -/
def Reachable (kept : Array Bool) (site : CallSite) : Prop :=
  ∀ place, site.enclosing = some place → kept[place]? = some true

theorem reachable_iff {kept : Array Bool} {site : CallSite} :
    (site.enclosing.all fun place => kept.getD place false) = true ↔ Reachable kept site := by
  unfold Reachable
  cases site.enclosing with
  | none => simp
  | some place =>
    cases known : kept[place]? <;> simp [known]

/-- One more call has, or has not, a target. -/
def countResolved (l : Linking) : Linking :=
  { l with counts.callsResolved := l.counts.callsResolved + 1 }

def countUnresolved (l : Linking) : Linking :=
  { l with counts.callsUnresolved := l.counts.callsUnresolved + 1 }

/-- A call with a target is linked and leaves no node; one without is kept if the call around it is, and its
    problem is recorded. -/
theorem linkCall_cases (module : String) (l : Linking) (kept : Array Bool) (site : CallSite) :
    (∃ id, decideCall w l module site = .resolved id ∧
        linkCall w module (l, kept) site = ((l.link ⟨site.scope, id, .calls⟩).countResolved, kept.push false)) ∨
      ∃ problem, decideCall w l module site = .unresolved problem ∧
        ((Reachable kept site ∧ linkCall w module (l, kept) site =
            (problem.elim (keepCall w module l.countUnresolved site).1
              (reportCall w module site (keepCall w module l.countUnresolved site).1),
            kept.push (keepCall w module l.countUnresolved site).2)) ∨
          (¬Reachable kept site ∧ linkCall w module (l, kept) site =
            (problem.elim l.countUnresolved (reportCall w module site l.countUnresolved), kept.push false))) := by
  cases decided : decideCall w l module site with
  | resolved id =>
    refine Or.inl ⟨id, rfl, ?_⟩
    simp only [linkCall, decided, countResolved, counts_link]
  | unresolved problem =>
    refine Or.inr ⟨problem, rfl, ?_⟩
    by_cases reachable : Reachable kept site
    · refine Or.inl ⟨reachable, ?_⟩
      simp only [linkCall, decided, reachable_iff.mpr reachable, if_true]
      rfl
    · refine Or.inr ⟨reachable, ?_⟩
      have lost := eq_false_of_ne_true (mt reachable_iff.mp reachable)
      simp only [linkCall, decided, lost]
      rfl

theorem reportProblem_moves (module : String) (site : CallSite) (l : Linking) (problem : Option Problem) :
    Moves w .calls sites l (problem.elim l (reportCall w module site l)) := by
  cases problem with
  | none => exact .refl l
  | some p => exact .report ..

/-- A call places the nodes of its site only if it has no target and the call around it left a node. -/
theorem linkCall_moves (module : String) (state : Linking × Array Bool) {site : CallSite}
    (known : (∃ problem, decideCall w state.1 module site = .unresolved problem) → Reachable state.2 site → sites site) :
    Moves w .calls sites state.1 (linkCall w module state site).1 := by
  obtain ⟨l, kept⟩ := state
  have counted : Moves w .calls sites l l.countUnresolved := .counted _ rfl rfl
  rcases linkCall_cases w module l kept site with
    ⟨id, -, next⟩ | ⟨problem, decided, ⟨reachable, next⟩ | ⟨-, next⟩⟩ <;> rw [next]
  · have linked : Moves w .calls sites l (l.link ⟨site.scope, id, .calls⟩) := by
      refine .link rfl rfl (symbols_link ..) (openClasses_link ..) ?_ ?_ <;> simp [counts_link]
    exact linked.trans (.counted _ rfl rfl)
  · exact (counted.trans (keepCall_moves w module _ (known ⟨problem, decided⟩ reachable))).trans
      (reportProblem_moves ..)
  · exact counted.trans (reportProblem_moves ..)

theorem linkCalls_moves (l : Linking) (o : Outline) : Moves w .calls (· ∈ o.callSites) l (linkCalls w l o) :=
  .foldl Prod.fst o.callSites (l, #[]) fun state _ known => linkCall_moves w o.module state fun _ _ => known

/-! ### The whole run -/

/-- The state in which calls are decided: imports and bases are linked, and inherited methods entered. -/
def prepare (w : World) (l : Linking) (outlines : List Outline) : Linking :=
  let (l, hierarchy) := linkInheritance w (linkImports w l) outlines
  { l with symbols := hierarchy.mergeInherited l.symbols }

theorem run_eq (l : Linking) (outlines : List Outline) :
    run w l outlines = outlines.foldl (linkCalls w) (prepare w l outlines) := rfl

/-- The calls of some of the outlines are linked last. -/
theorem linkAllCalls_moves (l : Linking) (outlines : List Outline) :
    Moves w .calls (fun site => ∃ o ∈ outlines, site ∈ o.callSites) l (outlines.foldl (linkCalls w) l) :=
  .foldl id outlines l fun l o member => (linkCalls_moves w l o).mono fun _ known => ⟨o, member, known⟩

/-- What holds of the graph at the start and is kept by every change that links imports, bases or calls holds at
    the end of a run. -/
theorem run_keeps {P : Graph → Prop} (l : Linking) (outlines : List Outline) (start : P l.graph)
    (kept : ∀ kind : EdgeKind, kind.isLink = true → ∀ g g',
      Change w kind (fun site => ∃ o ∈ outlines, site ∈ o.callSites) g g' → P g → P g') :
    P (run w l outlines).graph := by
  have imports := (linkImports_moves w l).keeps (kept .importing rfl) start
  have bases := (linkInheritance_moves w (linkImports w l) outlines).keeps (kept .inherits rfl) imports
  exact (linkAllCalls_moves w (prepare w l outlines) outlines).keeps (kept .calls rfl) bases

end Linking

end ProgramGraph
