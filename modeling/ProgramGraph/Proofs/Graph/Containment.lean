import Mathlib.Logic.Relation
import ProgramGraph.Proofs.Graph.Placement

/-! Containment in a store. It is kept twice, as edges and as recorded parents, and a store may be changed by
    roots, placed nodes, links and removals in any order: a node may lose its container and stay, and a removed id
    may come back in another module or under another parent. Edges and parents agree all the same
    (`Graph.Paired`), and no node comes to stand in itself: a node is placed only while its id is free, and an id
    that is free contains nothing. -/

namespace ProgramGraph
open Std Relation

namespace Graph

/-- `p` contains `id`. -/
def Contains (g : Graph) (p id : NodeId) : Prop :=
  ⟨p, id, .containment⟩ ∈ g.edges

/-- The edges of containment and the recorded parents say the same. -/
structure Paired (g : Graph) : Prop where
  placed : g.WellPlaced
  contains_iff : ∀ {p id : NodeId}, g.Contains p id ↔ g.parents[id]? = some p

section
variable {g : Graph}

theorem contains_addEdge {e : Edge} (kind : e.kind ≠ .containment) (p id : NodeId) :
    (g.addEdge e).Contains p id ↔ g.Contains p id := by
  refine mem_edges_addEdge.trans (or_iff_right ?_)
  rintro rfl
  exact kind rfl

theorem contains_hang {n : Node} {p q id : NodeId} :
    (g.hang n p).Contains q id ↔ (q = p ∧ id = n.id) ∨ g.Contains q id := by
  unfold Contains
  rw [mem_edges_hang, Edge.mk.injEq]
  simp only [and_true]

theorem parents_removeNodes {ids : TreeSet NodeId} {id p : NodeId} :
    (g.removeNodes ids).parents[id]? = some p ↔ g.parents[id]? = some p ∧ id ∉ ids ∧ p ∉ ids := by
  unfold removeNodes
  rw [TreeMap.getElem?_filter', Option.filter_eq_some_iff, Bool.and_eq_true, Bool.not_eq_true', Bool.not_eq_true',
    ← Bool.not_eq_true, ← Bool.not_eq_true]
  rfl

end

namespace Paired
variable {g : Graph}

theorem empty : Paired {} where
  placed := Sound.empty.placed
  contains_iff := by simp [Contains]

/-- A contained node is stored, in a stored node of its module, and it asks for that node as its parent. -/
theorem exists_of_contains (paired : g.Paired) {p id : NodeId} (contains : g.Contains p id) :
    ∃ n holder, g.node? id = some n ∧ n.parent = some p ∧ g.node? p = some holder ∧ holder.module = n.module :=
  paired.placed.parent (paired.contains_iff.mp contains)

theorem mem_of_contains (paired : g.Paired) {p id : NodeId} (contains : g.Contains p id) :
    p ∈ g.nodes ∧ id ∈ g.nodes := by
  obtain ⟨n, holder, stored, -, stands, -⟩ := paired.exists_of_contains contains
  exact ⟨mem_nodes_iff.mpr ⟨holder, stands⟩, mem_nodes_iff.mpr ⟨n, stored⟩⟩

/-- A node has at most one container. -/
theorem container_unique (paired : g.Paired) {p q id : NodeId} (contains : g.Contains p id)
    (contains' : g.Contains q id) : p = q :=
  Option.some.inj ((paired.contains_iff.mp contains).symm.trans (paired.contains_iff.mp contains'))

/-! ### Changes -/

theorem of_eq (paired : g.Paired) {g' : Graph} (nodes : g'.nodes = g.nodes) (parents : g'.parents = g.parents)
    (edges : ∀ p id, g'.Contains p id ↔ g.Contains p id) : g'.Paired where
  placed := paired.placed.of_eq nodes parents
  contains_iff {p id} := by
    rw [edges, parents]
    exact paired.contains_iff

theorem addEdge (paired : g.Paired) {e : Edge} (kind : e.kind ≠ .containment) : (g.addEdge e).Paired :=
  paired.of_eq rfl rfl (contains_addEdge kind)

theorem addNode (paired : g.Paired) (n : Node) : (g.addNode n).Paired where
  placed := paired.placed.addNode n
  contains_iff := paired.contains_iff

theorem hang (paired : g.Paired) {n holder : Node} {p : NodeId} (asks : n.parent = some p)
    (stands : g.node? p = some holder) (same : holder.module = n.module) (free : g.parents[n.id]? = none)
    (new : g.node? n.id = none) : (g.hang n p).Paired where
  placed := paired.placed.hang asks stands same free new
  contains_iff {q id} := by
    rw [contains_hang, parents_hang]
    split
    · rename_i here
      subst here
      -- Before, nothing contains the node.
      rw [paired.contains_iff, free, Option.some_inj, eq_comm]
      simp
    · rename_i other
      rw [paired.contains_iff]
      refine or_iff_right ?_
      rintro ⟨-, here⟩
      exact other here.symm

theorem place? (paired : g.Paired) {g' : Graph} {n : Node} (placed : g.place? n = .ok g') : g'.Paired := by
  rcases place?_eq_ok placed with ⟨-, rfl⟩ | ⟨p, holder, asks, stands, same, ⟨-, rfl⟩ | ⟨free, new, rfl⟩⟩
  · exact paired.addNode n
  · exact paired
  · exact paired.hang asks stands same free new

theorem removeNodes (paired : g.Paired) (ids : TreeSet NodeId) : (g.removeNodes ids).Paired where
  placed.keyed stored := paired.placed.keyed (node?_removeNodes.mp stored).1
  placed.parent recorded := by
    obtain ⟨recorded, kept, kept'⟩ := parents_removeNodes.mp recorded
    obtain ⟨n, holder, stored, asks, stands, same⟩ := paired.placed.parent recorded
    exact ⟨n, holder, node?_removeNodes.mpr ⟨stored, kept⟩, asks, node?_removeNodes.mpr ⟨stands, kept'⟩, same⟩
  contains_iff {p id} := by
    unfold Contains
    rw [mem_edges_removeNodes, parents_removeNodes, and_comm (a := p ∉ ids)]
    exact and_congr_left fun _ => paired.contains_iff

end Paired

/-! ### No node stands in itself -/

/-- Containment has no cycle. -/
def Acyclic (g : Graph) : Prop :=
  ∀ id, ¬TransGen g.Contains id id

namespace Acyclic
variable {g : Graph}

theorem mono {g' : Graph} (acyclic : g.Acyclic) (less : ∀ p id, g'.Contains p id → g.Contains p id) : g'.Acyclic :=
  fun id way => acyclic id (TransGen.mono less id id way)

/-- A node that is hung into a graph is new there and contains nothing, so no way leads on from it. -/
theorem hang (acyclic : g.Acyclic) (paired : g.Paired) {n holder : Node} {p : NodeId}
    (stands : g.node? p = some holder) (new : g.node? n.id = none) : (g.hang n p).Acyclic := by
  have apart : p ≠ n.id := by
    rintro rfl
    rw [new] at stands
    cases stands
  have bare : ∀ id, ¬(g.hang n p).Contains n.id id := by
    intro id contains
    rcases contains_hang.mp contains with ⟨here, -⟩ | contains
    · exact apart here.symm
    · exact node?_eq_none_iff.mp new (paired.mem_of_contains contains).1
  -- A way to another node never passes through the new one.
  have old : ∀ {a b}, TransGen (g.hang n p).Contains a b → b ≠ n.id → TransGen g.Contains a b := by
    intro a b way other
    induction way with
    | single step => exact .single ((contains_hang.mp step).resolve_left fun here => other here.2)
    | @tail b c _ step ih =>
      have before : b ≠ n.id := by
        rintro rfl
        exact bare c step
      exact (ih before).tail ((contains_hang.mp step).resolve_left fun here => other here.2)
  intro id way
  by_cases here : id = n.id
  · subst here
    obtain ⟨next, step, -⟩ := TransGen.head'_iff.mp way
    exact bare next step
  · exact acyclic id (old way here)

theorem place? (acyclic : g.Acyclic) (paired : g.Paired) {g' : Graph} {n : Node} (placed : g.place? n = .ok g') :
    g'.Acyclic := by
  rcases place?_eq_ok placed with ⟨-, rfl⟩ | ⟨p, holder, -, stands, -, ⟨-, rfl⟩ | ⟨-, new, rfl⟩⟩
  · exact acyclic
  · exact acyclic
  · exact acyclic.hang paired stands new

end Acyclic

/-! ### Any changes in any order -/

/-- A change of a store. Links are of any kind but containment, which comes from placed nodes only. -/
inductive Operation
  | addNode (n : Node)
  | place (n : Node)
  | placeAll (ns : List Node)
  | link (e : Edge) (kind : e.kind ≠ .containment)
  | remove (ids : TreeSet NodeId)

/-- The graph after one change. One that is refused changes nothing. -/
def apply (g : Graph) : Operation → Graph
  | .addNode n => g.addNode n
  | .place n =>
    match g.place? n with
    | .ok g' => g'
    | .error _ => g
  | .placeAll ns => (g.placeAll ns).graph
  | .link e _ => g.addEdge e
  | .remove ids => g.removeNodes ids

/-- What every store keeps. -/
structure Tidy (g : Graph) : Prop where
  paired : g.Paired
  acyclic : g.Acyclic

namespace Tidy
variable {g : Graph}

theorem empty : Tidy {} where
  paired := .empty
  acyclic id way := by
    obtain ⟨next, step, -⟩ := TransGen.head'_iff.mp way
    exact TreeSet.not_mem_emptyc step

theorem place? (tidy : g.Tidy) {g' : Graph} {n : Node} (placed : g.place? n = .ok g') : g'.Tidy :=
  ⟨tidy.paired.place? placed, tidy.acyclic.place? tidy.paired placed⟩

theorem step {p : Placement} (tidy : p.graph.Tidy) (n : Node) : (p.step n).graph.Tidy := by
  rcases p.step_graph n with ⟨-, same⟩ | placed
  · rwa [same]
  · exact tidy.place? placed

theorem apply (tidy : g.Tidy) (op : Operation) : (g.apply op).Tidy := by
  cases op with
  | addNode n => exact ⟨tidy.paired.addNode n, tidy.acyclic⟩
  | place n =>
    simp only [Graph.apply]
    split
    · rename_i placed
      exact tidy.place? placed
    · exact tidy
  | placeAll ns =>
    exact List.foldlRecOn ns Placement.step (motive := fun p : Placement => p.graph.Tidy) tidy
      fun _ tidy n _ => tidy.step n
  | link e kind =>
    exact ⟨tidy.paired.addEdge kind, tidy.acyclic.mono fun p id contains => (contains_addEdge kind p id).mp contains⟩
  | remove ids =>
    exact ⟨tidy.paired.removeNodes ids,
      tidy.acyclic.mono fun p id contains => (mem_edges_removeNodes.mp contains).1⟩

theorem run (ops : List Operation) : (ops.foldl Graph.apply {}).Tidy :=
  List.foldlRecOn ops Graph.apply (motive := Tidy) empty fun _ tidy op _ => tidy.apply op

end Tidy

/-! ### What containment is in a store -/

/-- The contained nodes come in the order of their ids: the edges that lead to them have one source and one kind. -/
theorem children_ordered {g : Graph} (keyed : ∀ {id : NodeId} {n : Node}, g.node? id = some n → n.id = id) (p : NodeId) :
    (g.children p).Pairwise fun a b => a.id < b.id := by
  unfold children
  rw [List.pairwise_filterMap, outgoing_eq_filter]
  refine List.Pairwise.imp_of_mem ?_ (TreeSet.ordered_toList.filter _)
  intro e e' member member' before n found n' found'
  rw [List.mem_filter, beq_iff_eq] at member member'
  obtain ⟨kind, stored⟩ := Option.ite_none_right_eq_some.mp found
  obtain ⟨kind', stored'⟩ := Option.ite_none_right_eq_some.mp found'
  rw [keyed stored, keyed stored']
  have sources : compare e.source e'.source = .eq := by rw [member.2, member'.2, Std.compare_self]
  have kinds : compare e.kind e'.kind = .eq := by rw [kind, kind', Std.compare_self]
  rw [compare_edge, sources, kinds, Ordering.eq_then, Ordering.then_eq] at before
  exact compareOfLessAndEq_eq_lt.mp before

/-- The laws of containment: nodes are stored under their own ids; edges and recorded parents agree, so a node has
    at most one container; a container and what it contains are stored and of one module; there is no cycle; and the
    children of a node are those whose parent it is, each listed once. -/
structure Lawful (g : Graph) : Prop where
  keyed : ∀ {id : NodeId} {n : Node}, g.node? id = some n → n.id = id
  recorded : ∀ {p id : NodeId}, g.Contains p id ↔ g.parents[id]? = some p
  unique : ∀ {p q id : NodeId}, g.Contains p id → g.Contains q id → p = q
  ends : ∀ {p id : NodeId}, g.Contains p id →
    ∃ holder n, g.node? p = some holder ∧ g.node? id = some n ∧ holder.module = n.module
  acyclic : ∀ id, ¬TransGen g.Contains id id
  children : ∀ (p : NodeId) (n : Node), n ∈ g.children p ↔
    g.node? n.id = some n ∧ ∃ holder, g.parent? n.id = some holder ∧ holder.id = p
  listed : ∀ p, (g.children p).Pairwise fun a b => a.id < b.id

theorem mem_children {g : Graph} {p : NodeId} {n : Node} :
    n ∈ g.children p ↔ ∃ id, g.Contains p id ∧ g.node? id = some n := by
  unfold children
  simp only [List.mem_filterMap, mem_outgoing, Option.ite_none_right_eq_some]
  constructor
  · rintro ⟨⟨source, target, kind⟩, ⟨member, rfl⟩, rfl, stored⟩
    exact ⟨target, member, stored⟩
  · rintro ⟨id, member, stored⟩
    exact ⟨⟨p, id, .containment⟩, ⟨member, rfl⟩, rfl, stored⟩

namespace Tidy
variable {g : Graph}

theorem lawful (tidy : g.Tidy) : g.Lawful where
  keyed := tidy.paired.placed.keyed
  recorded := tidy.paired.contains_iff
  unique := tidy.paired.container_unique
  ends contains := by
    obtain ⟨n, holder, stored, -, stands, same⟩ := tidy.paired.exists_of_contains contains
    exact ⟨holder, n, stands, stored, same⟩
  acyclic := tidy.acyclic
  children p n := by
    have keyed := @tidy.paired.placed.keyed
    rw [mem_children]
    unfold parent?
    simp only [Option.bind_eq_some_iff]
    constructor
    · rintro ⟨id, contains, stored⟩
      cases keyed stored
      obtain ⟨_, holder, -, -, stands, -⟩ := tidy.paired.exists_of_contains contains
      exact ⟨stored, holder, ⟨p, tidy.paired.contains_iff.mp contains, stands⟩, keyed stands⟩
    · rintro ⟨stored, holder, ⟨q, recorded, stands⟩, rfl⟩
      cases keyed stands
      exact ⟨n.id, tidy.paired.contains_iff.mpr recorded, stored⟩
  listed := children_ordered tidy.paired.placed.keyed

end Tidy

/-- Whatever changes a store has seen, containment is lawful in it. A node that is refused changes nothing, and no
    edge and no recorded parent mentions an id that has just been removed. -/
theorem operations_keep_containment (ops : List Operation) :
    let g := ops.foldl apply empty
    g.Lawful ∧ (∀ n problem, g.place? n = .error problem → g.apply (.place n) = g) ∧
      ∀ ids : TreeSet NodeId,
        (∀ e ∈ (g.apply (.remove ids)).edges, e.source ∉ ids ∧ e.target ∉ ids) ∧
          ∀ id p : NodeId, (g.apply (.remove ids)).parents[id]? = some p → id ∉ ids ∧ p ∉ ids := by
  intro g
  refine ⟨(Tidy.run ops).lawful, fun n problem refused => ?_, fun ids => ⟨fun e member => ?_, fun id p recorded => ?_⟩⟩
  · simp only [apply, refused]
  · exact (mem_edges_removeNodes.mp member).2
  · exact (parents_removeNodes.mp recorded).2

end Graph

end ProgramGraph
