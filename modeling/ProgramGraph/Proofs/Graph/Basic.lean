import ProgramGraph.Graph.Basic

/-! Elementary changes of a program graph, seen through its look-ups, and what every change but a
    removal keeps: stored nodes, edges, containment parents and records (`Graph.Grows`). -/

namespace ProgramGraph
open Std

namespace Graph

/-! ### Look-ups -/

theorem mem_nodes_iff {g : Graph} {id : NodeId} : id ∈ g.nodes ↔ ∃ n, g.node? id = some n := by
  rw [TreeMap.mem_iff_isSome_getElem?, Option.isSome_iff_exists]
  rfl

theorem contains_iff {g : Graph} {id : NodeId} : g.contains id = true ↔ id ∈ g.nodes := Iff.rfl

theorem node?_eq_none_iff {g : Graph} {id : NodeId} : g.node? id = none ↔ id ∉ g.nodes := by
  rw [mem_nodes_iff, Option.eq_none_iff_forall_ne_some]
  exact ⟨fun h ⟨n, hn⟩ => h n hn, fun h n hn => h ⟨n, hn⟩⟩

theorem mem_edgeList {g : Graph} {e : Edge} : e ∈ g.edgeList ↔ e ∈ g.edges := TreeSet.mem_toList

theorem node?_addNode {g : Graph} {n : Node} {id : NodeId} :
    (g.addNode n).node? id = if n.id = id ∧ id ∉ g.nodes then some n else g.node? id := by
  unfold node? addNode
  simp only [TreeMap.getElem?_insertIfNew, Std.compare_eq_iff_eq]
  by_cases h : n.id = id
  · subst h
    rfl
  · simp [h]

/-- A node that is stored after another one was added is that one, under an id that was free, or was stored before. -/
theorem node?_addNode_cases {g : Graph} {n m : Node} {id : NodeId} (stored : (g.addNode n).node? id = some m) :
    (n.id = id ∧ id ∉ g.nodes ∧ m = n) ∨ g.node? id = some m := by
  rw [node?_addNode] at stored
  split at stored
  · rename_i here
    cases stored
    exact Or.inl ⟨here.1, here.2, rfl⟩
  · exact Or.inr stored

theorem mem_nodes_addNode {g : Graph} {n : Node} {id : NodeId} :
    id ∈ (g.addNode n).nodes ↔ id = n.id ∨ id ∈ g.nodes := by
  unfold addNode
  rw [TreeMap.mem_insertIfNew, Std.compare_eq_iff_eq, eq_comm]

theorem mem_edges_addEdge {g : Graph} {e e' : Edge} : e' ∈ (g.addEdge e).edges ↔ e' = e ∨ e' ∈ g.edges := by
  unfold addEdge
  rw [TreeSet.mem_insert, Std.compare_eq_iff_eq, eq_comm]

theorem mem_edgesOfKind {g : Graph} {kind : EdgeKind} {e : Edge} : e ∈ g.edgesOfKind kind ↔ e ∈ g.edges ∧ e.kind = kind := by
  simp [edgesOfKind, mem_edgeList]

theorem nodup_edgesOfKind (g : Graph) (kind : EdgeKind) : (g.edgesOfKind kind).Nodup := by
  have distinct : g.edgeList.Nodup := TreeSet.distinct_toList.imp fun apart same => apart (by simp [same])
  exact distinct.filter _

/-- Graphs with the same edges of a kind have as many. -/
theorem length_edgesOfKind_congr {g g' : Graph} {kind : EdgeKind}
    (same : ∀ e : Edge, e.kind = kind → (e ∈ g'.edges ↔ e ∈ g.edges)) :
    (g'.edgesOfKind kind).length = (g.edgesOfKind kind).length := by
  refine ((List.perm_ext_iff_of_nodup (nodup_edgesOfKind ..) (nodup_edgesOfKind ..)).mpr fun e => ?_).length_eq
  rw [mem_edgesOfKind, mem_edgesOfKind]
  exact and_congr_left fun is => same e is

theorem length_edgesOfKind_addEdge {g : Graph} {e : Edge} (new : e ∉ g.edges) :
    ((g.addEdge e).edgesOfKind e.kind).length = (g.edgesOfKind e.kind).length + 1 := by
  have fresh : (e :: g.edgesOfKind e.kind).Nodup :=
    List.nodup_cons.mpr ⟨fun member => new (mem_edgesOfKind.mp member).1, nodup_edgesOfKind ..⟩
  refine ((List.perm_ext_iff_of_nodup (nodup_edgesOfKind ..) fresh).mpr fun e' => ?_).length_eq
  rw [List.mem_cons, mem_edgesOfKind, mem_edgesOfKind, mem_edges_addEdge]
  constructor
  · rintro ⟨rfl | member, kind⟩
    · exact Or.inl rfl
    · exact Or.inr ⟨member, kind⟩
  · rintro (rfl | ⟨member, kind⟩)
    · exact ⟨Or.inl rfl, rfl⟩
    · exact ⟨Or.inr member, kind⟩

section Report
variable (g : Graph) (p : Problem) (path : Option String) (line : Option Nat)

@[simp] theorem nodes_report : (g.report p path line).nodes = g.nodes := by
  unfold report
  split <;> rfl

@[simp] theorem edges_report : (g.report p path line).edges = g.edges := by
  unfold report
  split <;> rfl

@[simp] theorem parents_report : (g.report p path line).parents = g.parents := by
  unfold report
  split <;> rfl

@[simp] theorem node?_report (id : NodeId) : (g.report p path line).node? id = g.node? id := by
  unfold node?
  rw [nodes_report]

theorem diagnostics_report :
    (g.report p path line).diagnostics = g.diagnostics ++ (Diagnostic.located? p path line).toArray := by
  unfold report
  split <;> rename_i h <;> simp [h, record]

/-- A taken name is always recorded. -/
theorem exists_report (qualname kept rejected : String) :
    ∃ d ∈ (g.report (.duplicateSymbol qualname kept rejected) path line).diagnostics,
      d.kind = .duplicateSymbol ∧ d.path = path := by
  refine ⟨(Diagnostic.located? (.duplicateSymbol qualname kept rejected) path line).get rfl, ?_, rfl, ?_⟩
  · rw [diagnostics_report]
    exact Array.mem_append_right _ (List.mem_toArray.mpr (Option.mem_toList.mpr rfl))
  · exact Option.or_none

end Report

/-- What recording one problem does not change is not changed by recording several. -/
theorem view_reportAll {α : Type} (view : Graph → α) {path : Option String}
    (each : ∀ (g : Graph) (p : Problem), view (g.report p path) = view g) (ps : List Problem) (g : Graph) :
    view (ps.foldl (fun g p => g.report p path) g) = view g :=
  List.foldlRecOn ps _ (motive := fun later => view later = view g) rfl fun later same p _ => (each later p).trans same

theorem node?_reportAll (path : Option String) (id : NodeId) (ps : List Problem) (g : Graph) :
    (ps.foldl (fun g p => g.report p path) g).node? id = g.node? id :=
  view_reportAll (·.node? id) (fun g p => node?_report g p path none id) ps g

theorem edges_reportAll (path : Option String) (ps : List Problem) (g : Graph) :
    (ps.foldl (fun g p => g.report p path) g).edges = g.edges :=
  view_reportAll (·.edges) (fun g p => edges_report g p path none) ps g

/-! ### Growth -/

/-- Nothing of `g` is lost in `g'`: each stored node with its fields, each edge, each containment parent
    and each record is still there. -/
structure Grows (g g' : Graph) : Prop where
  node : ∀ {id n}, g.node? id = some n → g'.node? id = some n
  edge : ∀ {e}, e ∈ g.edges → e ∈ g'.edges
  parent : ∀ {id p : NodeId}, g.parents[id]? = some p → g'.parents[id]? = some p
  diagnostic : ∀ {d}, d ∈ g.diagnostics → d ∈ g'.diagnostics

namespace Grows
variable {g g' g'' : Graph}

theorem refl (g : Graph) : Grows g g := ⟨id, id, id, id⟩

theorem trans (h : Grows g g') (h' : Grows g' g'') : Grows g g'' :=
  ⟨h'.node ∘ h.node, h'.edge ∘ h.edge, h'.parent ∘ h.parent, h'.diagnostic ∘ h.diagnostic⟩

theorem mem (h : Grows g g') {id : NodeId} (hid : id ∈ g.nodes) : id ∈ g'.nodes := by
  obtain ⟨n, hn⟩ := mem_nodes_iff.mp hid
  exact mem_nodes_iff.mpr ⟨n, h.node hn⟩

theorem addNode (g : Graph) (n : Node) : Grows g (g.addNode n) where
  node {id m} hm := by
    rw [node?_addNode]
    split
    · rename_i h
      exact absurd (mem_nodes_iff.mpr ⟨m, hm⟩) h.2
    · exact hm
  edge := id
  parent := id
  diagnostic := id

theorem addEdge (g : Graph) (e : Edge) : Grows g (g.addEdge e) where
  node := id
  edge he := mem_edges_addEdge.mpr (Or.inr he)
  parent := id
  diagnostic := id

theorem report (g : Graph) (p : Problem) (path : Option String) (line : Option Nat) :
    Grows g (g.report p path line) where
  node h := by rwa [node?_report]
  edge h := by rwa [edges_report]
  parent h := by rwa [parents_report]
  diagnostic h := by
    rw [diagnostics_report]
    exact Array.mem_append_left _ h

theorem reportAll (path : Option String) (ps : List Problem) (g : Graph) :
    Grows g (ps.foldl (fun g p => g.report p path) g) :=
  List.foldlRecOn ps _ (motive := Grows g) (refl g) fun later grows p _ => grows.trans (report later p path none)

end Grows

end Graph

end ProgramGraph
