import ProgramGraph.Proofs.Graph.Orphans

/-! What the queries of a graph say of its edges. The scan for the edges of a node starts at an edge that no node need
    have and stops at the first edge of another node, so it is right only because the edges of one source follow one
    another (`Graph.outgoing_eq_filter`). Degrees, orphans and the check of a graph are read off that. -/

namespace ProgramGraph
open Std

namespace Edge

/-- The order of edges: by source, then by target, then by kind. -/
def Before (a b : Edge) : Prop :=
  a.source < b.source ∨ a.source = b.source ∧
    (a.target < b.target ∨ a.target = b.target ∧ a.kind.rank < b.kind.rank)

theorem compare_kind_eq_lt {a b : EdgeKind} : compare a b = .lt ↔ a.rank < b.rank :=
  Nat.compare_eq_lt (a := a.rank) (b := b.rank)

theorem compare_text_eq_lt {a b : String} : compare a b = .lt ↔ a < b :=
  compareOfLessAndEq_eq_lt

theorem compare_eq_lt_iff {a b : Edge} : compare a b = .lt ↔ a.Before b := by
  rw [Graph.compare_edge, Ordering.then_eq_lt, Ordering.then_eq_lt]
  simp only [Std.compare_eq_iff_eq, compare_text_eq_lt, compare_kind_eq_lt]
  rfl

end Edge

namespace Graph
variable {g : Graph}

theorem before_edgeList (g : Graph) : g.edgeList.Pairwise Edge.Before :=
  TreeSet.ordered_toList.imp Edge.compare_eq_lt_iff.mp

theorem hasEdge_iff {source target : NodeId} {kind : EdgeKind} :
    g.hasEdge source target kind = true ↔ ⟨source, target, kind⟩ ∈ g.edges := by
  simp only [hasEdge, List.any_eq_true, mem_outgoing, Bool.and_eq_true, beq_iff_eq]
  constructor
  · rintro ⟨⟨_, _, _⟩, ⟨member, rfl⟩, rfl, rfl⟩
    exact member
  · intro member
    exact ⟨_, ⟨member, rfl⟩, rfl, rfl⟩

theorem degree_eq (g : Graph) (id : NodeId) : g.degree id =
    (g.edgeList.filter fun e => e.source == id).length + (g.edgeList.filter fun e => e.target == id).length := by
  rw [degree, outgoing_eq_filter]
  rfl

theorem degree_eq_zero_iff {id : NodeId} : g.degree id = 0 ↔ ¬g.Touches id := by
  simp only [degree_eq, Nat.add_eq_zero_iff, List.length_eq_zero_iff, List.filter_eq_nil_iff, mem_edgeList, beq_iff_eq]
  constructor
  · rintro ⟨noSource, noTarget⟩ ⟨e, member, ends⟩
    exact ends.elim (noSource e member) (noTarget e member)
  · intro untouched
    exact ⟨fun e member source => untouched ⟨e, member, Or.inl source⟩,
      fun e member target => untouched ⟨e, member, Or.inr target⟩⟩

theorem isOrphan_iff {id : NodeId} : g.IsOrphan id ↔ id ∈ g.nodes ∧ g.degree id = 0 :=
  and_congr_right fun _ => degree_eq_zero_iff.symm

/-- The orphans are listed in the order of the nodes. -/
theorem ordered_edgeless (g : Graph) : g.edgeless.Pairwise (· < ·) :=
  (TreeMap.ordered_keys.imp Edge.compare_text_eq_lt.mp).filter _

/-- The queries of a graph agree with its edges, for ids of stored nodes and for all others. The edges are listed in
    order; those that leave an id are all edges with that source, in that order; an edge is there if it is found;
    the nodes without edges are listed in order; and the check accepts a graph exactly if both ends of every edge are
    stored and every stored node has an edge. -/
theorem queries_read_edges (g : Graph) :
    g.edgeList.Pairwise Edge.Before ∧
    (∀ id, g.outgoing id = g.edgeList.filter fun e => e.source == id) ∧
    (∀ source target kind, g.hasEdge source target kind = true ↔ ⟨source, target, kind⟩ ∈ g.edges) ∧
    (g.edgeless.Pairwise (· < ·) ∧ ∀ id, id ∈ g.edgeless ↔ id ∈ g.nodes ∧ g.degree id = 0) ∧
    (g.check = .ok () ↔
      (∀ e ∈ g.edges, e.source ∈ g.nodes ∧ e.target ∈ g.nodes) ∧ ∀ id ∈ g.nodes, 1 ≤ g.degree id) := by
  have orphans (id : NodeId) : id ∈ g.edgeless ↔ id ∈ g.nodes ∧ g.degree id = 0 := mem_edgeless.trans isOrphan_iff
  refine ⟨before_edgeList g, outgoing_eq_filter g, fun _ _ _ => hasEdge_iff, ⟨ordered_edgeless g, orphans⟩, ?_⟩
  refine check_eq_ok_iff.trans (and_congr_right fun _ => forall_congr' fun id => ?_)
  rw [isOrphan_iff, not_and, Nat.one_le_iff_ne_zero]

end Graph

end ProgramGraph
