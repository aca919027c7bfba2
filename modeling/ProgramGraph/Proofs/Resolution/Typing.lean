import ProgramGraph.Proofs.Outline.Kinds
import ProgramGraph.Proofs.Reference
import ProgramGraph.Proofs.Resolution.Calls
import ProgramGraph.Proofs.Resolution.Inheritance

/-! What edges join. An edge is linked between names of the project and modules from outside, and each table of names
    holds nodes of one kind; so a link joins ids that nodes of the right kinds were given (`Linking.Typed`). What is
    stored under such an id is of that kind, unless another node of a file came first (`Graph.Bears`). -/

namespace ProgramGraph
open Std

/-- The kinds of the nodes that an edge may join. Containment and the audit may join any. -/
def EdgeKind.joins : EdgeKind → NodeKind → NodeKind → Bool
  | containment, _, _ | orphan, _, _ => true
  | importing, .module, target =>
    target = .module || target = .classDef || target = .function || target = .external
  | inherits, .classDef, target => target = .classDef || target = .external
  | calls, source, target => source.declares && (target = .classDef || target = .function)
  | importing, _, _ | inherits, _, _ => false

/-- Each table of names holds ids of its kind. -/
structure Symbols.Kinds (P : NodeKind → NodeId → Prop) (s : Symbols) : Prop where
  modules : ∀ {name id}, s.module? name = some id → P .module id
  classes : ∀ {qualname id}, s.class? qualname = some id → P .classDef id
  functions : ∀ {owner name id}, s.function? owner name = some id → P .function id

theorem Symbols.Kinds.mono {P Q : NodeKind → NodeId → Prop} {s : Symbols} (kinds : s.Kinds P)
    (sub : ∀ kind id, P kind id → Q kind id) : s.Kinds Q :=
  ⟨fun found => sub _ _ (kinds.modules found), fun found => sub _ _ (kinds.classes found),
    fun found => sub _ _ (kinds.functions found)⟩

/-- Inheritance enters functions for further names, and nothing else. -/
theorem Symbols.Kinds.mergeInherited {P : NodeKind → NodeId → Prop} {s : Symbols} (kinds : s.Kinds P) (h : Hierarchy) :
    (h.mergeInherited s).Kinds P where
  modules found := kinds.modules (Hierarchy.module?_mergeInherited s h _ ▸ found)
  classes found := kinds.classes (Hierarchy.class?_mergeInherited s h _ ▸ found)
  functions found := by
    obtain ⟨q, -, declared⟩ := Hierarchy.mergeInherited_from found
    exact kinds.functions declared

/-! ### Stored kinds -/

/-- A node of a file, or of a module from outside of the project whose origin is known. -/
def Node.Given (listed : Node → Prop) (n : Node) : Prop :=
  listed n ∨ ∃ module origin, origin ≠ .unresolved ∧ n = .external module origin

namespace Graph
variable {listed : Node → Prop} {g g' : Graph}

/-- A node of this kind was given the id. What is stored there is of this kind, or another node of a file. -/
def Bears (listed : Node → Prop) (g : Graph) (kind : NodeKind) (id : NodeId) : Prop :=
  ∃ n m : Node, n.Given listed ∧ n.id = id ∧ n.kind = kind ∧ g.node? id = some m ∧ (m.kind = kind ∨ listed m)

theorem Grows.bears (grows : g.Grows g') {kind : NodeKind} {id : NodeId} (bears : g.Bears listed kind id) :
    g'.Bears listed kind id := by
  obtain ⟨n, m, given, same, is, stored, like⟩ := bears
  exact ⟨n, m, given, same, is, grows.node stored, like⟩

/-- An edge joins ids that nodes of the right kinds were given. -/
def Joins (listed : Node → Prop) (g : Graph) (e : Edge) : Prop :=
  ∃ a b, g.Bears listed a e.source ∧ g.Bears listed b e.target ∧ e.kind.joins a b = true

theorem Grows.joins (grows : g.Grows g') {e : Edge} (joins : g.Joins listed e) : g'.Joins listed e := by
  obtain ⟨a, b, source, target, may⟩ := joins
  exact ⟨a, b, grows.bears source, grows.bears target, may⟩

/-- Every stored node is of a file or from outside of the project. -/
def Clean (listed : Node → Prop) (g : Graph) : Prop :=
  ∀ id m, g.node? id = some m → listed m ∨ m.kind = .external

theorem Clean.addExternal (clean : g.Clean listed) (module : String) (origin : Origin) :
    (g.addNode (.external module origin)).Clean listed := by
  intro id m stored
  rcases node?_addNode_cases stored with ⟨-, -, rfl⟩ | stored
  · exact Or.inr rfl
  · exact clean id m stored

/-- What leads outside of the project bears the kind of external nodes. -/
theorem Clean.bears_external (clean : g.Clean listed) (module : String) {origin : Origin} (known : origin ≠ .unresolved) :
    (g.addNode (.external module origin)).Bears listed .external (Node.external module origin).id := by
  have here : (Node.external module origin).id ∈ (g.addNode (.external module origin)).nodes :=
    mem_nodes_addNode.mpr (Or.inl rfl)
  obtain ⟨m, stored⟩ := mem_nodes_iff.mp here
  exact ⟨_, m, Or.inr ⟨module, origin, known, rfl⟩, rfl, rfl, stored, (clean.addExternal module origin _ m stored).symm⟩

end Graph

namespace Linking

/-- Links join ids that nodes of the right kinds were given, and the names of the project are such ids. -/
structure Typed (listed : Node → Prop) (l : Linking) : Prop where
  edges : ∀ e ∈ l.graph.edges, e.kind ≠ .containment → l.graph.Joins listed e
  names : l.symbols.Kinds (l.graph.Bears listed)

/-- A phase without calls leaves the graph clean. -/
theorem Moves.clean {w : World} {kind : EdgeKind} {l l' : Linking} {listed : Node → Prop}
    (moves : Moves w kind (fun _ => False) l l') (clean : l.graph.Clean listed) : l'.graph.Clean listed := by
  intro id m stored
  rcases moves.node_cases stored with stored | ⟨module, rfl⟩
  · exact clean id m stored
  · exact Or.inr rfl

namespace Typed
variable {listed : Node → Prop} {l l' : Linking}

theorem of_eq (typed : l.Typed listed) (graph : l'.graph = l.graph) (symbols : l'.symbols = l.symbols) :
    l'.Typed listed := by
  refine ⟨?_, ?_⟩
  · rw [graph]
    exact typed.edges
  · rw [graph, symbols]
    exact typed.names

/-- A change that links nothing. -/
theorem grow (typed : l.Typed listed) (grows : l.graph.Grows l'.graph) (symbols : l'.symbols = l.symbols)
    (edges : ∀ e ∈ l'.graph.edges, e ∈ l.graph.edges ∨ e.kind = .containment) : l'.Typed listed where
  edges e member other := grows.joins (typed.edges e ((edges e member).resolve_right other) other)
  names := by
    rw [symbols]
    exact typed.names.mono fun _ _ => grows.bears

theorem openClass (typed : l.Typed listed) (qualname : String) : (l.openClass qualname).Typed listed :=
  typed.of_eq rfl rfl

theorem report (typed : l.Typed listed) (w : World) (p : Problem) (module : String) (line : Option Nat) :
    (Linking.report w l p module line).Typed listed :=
  typed.grow (.report ..) rfl fun _ member => Or.inl (Graph.edges_report .. ▸ member)

theorem addExternal (typed : l.Typed listed) (module : String) (origin : Origin) :
    (l.addExternal module origin).Typed listed :=
  typed.grow (.addNode ..) rfl fun _ member => Or.inl member

theorem link (typed : l.Typed listed) {e : Edge} (joins : l.graph.Joins listed e) : (l.link e).Typed listed := by
  unfold Linking.link
  split
  · refine ⟨fun e' member other => ?_, typed.names⟩
    rcases Graph.mem_edges_addEdge.mp member with rfl | member
    · exact joins
    · exact typed.edges e' member other
  · exact typed

theorem linkCounted (typed : l.Typed listed) {e : Edge} (count : LinkCounts → LinkCounts)
    (joins : l.graph.Joins listed e) : (l.linkCounted e count).Typed listed := by
  have linked := typed.link joins
  unfold Linking.linkCounted
  simp only
  split
  · exact linked.of_eq rfl rfl
  · exact linked

/-! ### Imports -/

theorem linkImport (typed : l.Typed listed) (clean : l.graph.Clean listed) (w : World) (i : ImportLink) :
    (Linking.linkImport w l i).Typed listed := by
  rcases linkImport_cases w l i with
    next | ⟨source, known, ⟨target, named, next⟩ | ⟨module, origin, -, ⟨-, next⟩ | ⟨accounted, next⟩⟩⟩ <;> rw [next]
  · exact typed
  · have importer := typed.names.modules known
    rcases named with ⟨_, found⟩ | ⟨_, found⟩ | ⟨_, _, found⟩
    · exact typed.linkCounted _ ⟨_, _, importer, typed.names.modules found, rfl⟩
    · exact typed.linkCounted _ ⟨_, _, importer, typed.names.classes found, rfl⟩
    · exact typed.linkCounted _ ⟨_, _, importer, typed.names.functions found, rfl⟩
  · exact (typed.addExternal ..).report ..
  · have importer := (Graph.Grows.addNode l.graph (.external module origin)).bears (typed.names.modules known)
    exact (typed.addExternal module origin).linkCounted _ ⟨_, _, importer, clean.bears_external module accounted, rfl⟩

theorem linkImports (typed : l.Typed listed) (clean : l.graph.Clean listed) (w : World) :
    (Linking.linkImports w l).Typed listed := by
  unfold Linking.linkImports
  have both := List.foldlRecOn l.symbols.importLinks (Linking.linkImport w)
    (motive := fun l => Typed listed l ∧ l.graph.Clean listed) ⟨typed, clean⟩ fun l ⟨typed, clean⟩ i _ =>
      ⟨typed.linkImport clean w i, (linkImport_moves w l i).clean clean⟩
  exact both.1

/-! ### Inheritance -/

theorem linkBase (typed : l.Typed listed) (clean : l.graph.Clean listed) (w : World) (module : String) {cls : ClassDecl}
    (inheritor : l.graph.Bears listed .classDef cls.id) (found : List String) (base : String) :
    (Linking.linkBase w module cls (l, found) base).1.Typed listed := by
  rcases linkBase_cases w module cls l found base with
    ⟨_, _, held, next⟩ | ⟨name, origin, -, ⟨-, next⟩ | ⟨known, next⟩⟩ | next | next | ⟨reason, next⟩ <;> rw [next]
  · exact typed.linkCounted _ ⟨_, _, inheritor, typed.names.classes held, rfl⟩
  · exact ((typed.addExternal ..).openClass _).report ..
  · have linked : ((l.addExternal name origin).linkBaseEdge cls.id (Node.external name origin).id).Typed listed :=
      (typed.addExternal name origin).linkCounted _
        ⟨_, _, (Graph.Grows.addNode ..).bears inheritor, clean.bears_external name known, rfl⟩
    exact linked.openClass _
  · exact typed
  · exact typed.openClass _
  · exact (typed.openClass _).report ..

/-- A declaration that still has its name is a class. -/
theorem linkClass (typed : l.Typed listed) (clean : l.graph.Clean listed) (w : World) (module : String)
    (hierarchy : Hierarchy) (cls : ClassDecl) : (Linking.linkClass w module (l, hierarchy) cls).1.Typed listed := by
  unfold Linking.linkClass
  split
  · rename_i held
    have inheritor := typed.names.classes held
    have all := List.foldlRecOn cls.bases (Linking.linkBase w module cls)
      (motive := fun state => Typed listed state.1 ∧ state.1.graph.Clean listed ∧ l.graph.Grows state.1.graph)
      (b := (l, [])) ⟨typed, clean, .refl _⟩ fun state ⟨typed, clean, grows⟩ base _ =>
        have moves : Moves w .inherits (fun _ => False) state.1 _ := linkBase_moves w module cls state base
        ⟨typed.linkBase clean w module (grows.bears inheritor) state.2 base, moves.clean clean, grows.trans moves.grows⟩
    exact all.1
  · exact typed

theorem linkInheritance (typed : l.Typed listed) (clean : l.graph.Clean listed) (w : World) (outlines : List Outline) :
    (Linking.linkInheritance w l outlines).1.Typed listed := by
  have linked : (outlines.foldl (fun state o => o.classes.foldl (Linking.linkClass w o.module) state)
      ((l, ∅) : Linking × Hierarchy)).1.Typed listed := by
    rw [linkClasses_eq]
    have both := List.foldlRecOn (classesOf outlines)
      (fun (state : Linking × Hierarchy) entry => Linking.linkClass w entry.1 state entry.2)
      (motive := fun state => Typed listed state.1 ∧ state.1.graph.Clean listed) (b := (l, ∅)) ⟨typed, clean⟩
      fun state ⟨typed, clean⟩ entry _ =>
        ⟨typed.linkClass clean w entry.1 state.2 entry.2, (linkClass_moves w entry.1 state entry.2).clean clean⟩
    exact both.1
  exact linked.of_eq rfl rfl

end Typed

/-! ### Calls -/

namespace Typed
variable {listed : Node → Prop} {l : Linking}

theorem callable (typed : l.Typed listed) {id : NodeId} (callable : l.Callable id) :
    ∃ kind : NodeKind, (kind = .classDef ∨ kind = .function) ∧ l.graph.Bears listed kind id := by
  rcases callable with ⟨_, found⟩ | ⟨_, _, found⟩
  · exact ⟨.classDef, Or.inl rfl, typed.names.classes found⟩
  · exact ⟨.function, Or.inr rfl, typed.names.functions found⟩

theorem keepCall (typed : l.Typed listed) (w : World) (module : String) (site : CallSite) :
    (Linking.keepCall w module l site).1.Typed listed := by
  have placed : Typed listed { l with graph := (l.graph.placeAll (site.fallback :: site.fragment)).graph } :=
    typed.grow (Graph.Placement.foldl_leads _ { graph := l.graph }).grows rfl fun _ member =>
      Graph.Placement.foldl_edges _ { graph := l.graph } member
  unfold Linking.keepCall
  simp only [← Array.foldl_toList]
  exact List.foldlRecOn _ (reportCall w module site) (motive := Typed listed) placed fun _ before _ _ => before.report ..

theorem reportProblem (typed : l.Typed listed) (w : World) (module : String) (site : CallSite) (problem : Option Problem) :
    (problem.elim l (reportCall w module site l)).Typed listed := by
  cases problem with
  | none => exact typed
  | some p => exact typed.report ..

theorem linkCall (typed : l.Typed listed) (w : World) (module : String) (kept : Array Bool) {site : CallSite}
    {kind : NodeKind} (declares : kind.declares = true) (caller : l.graph.Bears listed kind site.scope) :
    (Linking.linkCall w module (l, kept) site).1.Typed listed := by
  have counted : l.countUnresolved.Typed listed := typed.of_eq rfl rfl
  rcases linkCall_cases w module l kept site with
    ⟨id, decided, next⟩ | ⟨problem, -, ⟨-, next⟩ | ⟨-, next⟩⟩ <;> rw [next]
  · obtain ⟨target, callee, bears⟩ := typed.callable (decideCall_callable decided)
    have joins : EdgeKind.calls.joins kind target = true := by
      rcases callee with rfl | rfl <;> simp [EdgeKind.joins, declares]
    exact (typed.link ⟨_, _, caller, bears, joins⟩).of_eq rfl rfl
  · exact (counted.keepCall w module site).reportProblem ..
  · exact counted.reportProblem ..

/-- The declarations that make calls bear a kind that does. -/
def Callers (listed : Node → Prop) (g : Graph) (outlines : List Outline) : Prop :=
  ∀ o ∈ outlines, ∀ site ∈ o.callSites, ∃ kind : NodeKind, kind.declares = true ∧ g.Bears listed kind site.scope

theorem linkAllCalls (typed : l.Typed listed) (w : World) {outlines : List Outline}
    (callers : Callers listed l.graph outlines) : (outlines.foldl (linkCalls w) l).Typed listed := by
  have all := List.foldlRecOn outlines (linkCalls w)
    (motive := fun l' => Typed listed l' ∧ l.graph.Grows l'.graph) ⟨typed, .refl _⟩ fun l' ⟨typed, grows⟩ o member => by
      have sites := List.foldlRecOn o.callSites (Linking.linkCall w o.module)
        (motive := fun state => Typed listed state.1 ∧ l.graph.Grows state.1.graph) (b := (l', #[])) ⟨typed, grows⟩
        fun state ⟨typed, grows⟩ site here => by
          obtain ⟨kind, declares, caller⟩ := callers o member site here
          have moves : Moves w .calls (fun _ => True) state.1 (Linking.linkCall w o.module state site).1 :=
            linkCall_moves w o.module state fun _ _ => trivial
          exact ⟨typed.linkCall w o.module state.2 declares (grows.bears caller), grows.trans moves.grows⟩
      exact sites
  exact all.1

/-! ### The whole run -/

/-- A run links only what may be joined. -/
theorem run (typed : l.Typed listed) (clean : l.graph.Clean listed) (w : World) {outlines : List Outline}
    (callers : Callers listed l.graph outlines) : (Linking.run w l outlines).Typed listed := by
  have imports := typed.linkImports clean w
  have moves : Moves w .importing (fun _ => False) l _ := linkImports_moves w l
  have bases := imports.linkInheritance (moves.clean clean) w outlines
  have moves' : Moves w .inherits (fun _ => False) _ _ := linkInheritance_moves w (Linking.linkImports w l) outlines
  have grows := moves.grows.trans moves'.grows
  have prepared : (prepare w l outlines).Typed listed := ⟨bases.edges, bases.names.mergeInherited _⟩
  rw [run_eq]
  refine prepared.linkAllCalls w fun o member site here => ?_
  obtain ⟨kind, declares, caller⟩ := callers o member site here
  exact ⟨kind, declares, grows.bears caller⟩

end Typed

end Linking

end ProgramGraph
