import ProgramGraph.Proofs.Corpus.Intake

/-! The audited graph of a tree, under either policy. The resolved graph is sound, so everything is settled
    by what the audit does to a sound graph: the debug policy always succeeds, and the pruning policy
    removes the orphans alone exactly when no edge of the project ends at the id of the sentinel. -/

namespace ProgramGraph
open Std

namespace Graph

/-- `n` is the number of orphans of a graph. -/
def CountsOrphans (g : Graph) (n : Nat) : Prop :=
  ∃ ids : List NodeId, ids.Nodup ∧ (∀ id, id ∈ ids ↔ g.IsOrphan id) ∧ ids.length = n

theorem countsOrphans_edgeless (g : Graph) : g.CountsOrphans g.edgeless.length :=
  ⟨g.edgeless, nodup_edgeless g, fun _ => mem_edgeless, rfl⟩

theorem finish_eq_ok_iff {g g' : Graph} {policy : OrphanPolicy} :
    g.finish policy = .ok g' ↔ (g.settleOrphans policy).check = .ok () ∧
      g' = { g.settleOrphans policy with
        statistics := (g.settleOrphans policy).auditedStatistics g.edgeless.length } := by
  unfold finish audit
  simp only
  cases (g.settleOrphans policy).check with
  | error p => simp [Except.map]
  | ok u =>
    constructor
    · intro same
      cases same
      exact ⟨rfl, rfl⟩
    · rintro ⟨-, rfl⟩
      rfl

/-! ### The debug policy -/

/-- `g'` is `g` with its orphans on the sentinel, and audited. -/
structure Hung (g g' : Graph) : Prop where
  kept : ∀ {id n}, g.node? id = some n → g'.node? id = some n
  nodes : ∀ id, id ∈ g'.nodes ↔ id ∈ g.nodes ∨ (id = Node.sentinel.id ∧ ∃ o, g.IsOrphan o)
  edges : ∀ e, e ∈ g'.edges ↔ e ∈ g.edges ∨ ∃ o, g.IsOrphan o ∧ e = orphanEdge o
  orphans : g.CountsOrphans g'.statistics.orphans
  checked : g'.check = .ok ()
  closed : g'.Closed
  settled : ∀ id, ¬g'.IsOrphan id

section Debug
variable {g : Graph}

theorem mem_nodes_debug {id : NodeId} :
    id ∈ (g.settleOrphans .debug).nodes ↔ id ∈ g.nodes ∨ (id = Node.sentinel.id ∧ ∃ o, g.IsOrphan o) := by
  by_cases none : g.edgeless = []
  · rw [settleOrphans_eq_self none]
    have free := edgeless_eq_nil_iff.mp none
    exact ⟨Or.inl, fun h => h.elim (fun stored => stored) fun ⟨_, o, orphan⟩ => absurd orphan (free o)⟩
  · rw [settleOrphans_debug none, mem_nodes_attach, or_comm]
    obtain ⟨o, orphan⟩ := List.exists_mem_of_ne_nil _ none
    exact or_congr_right ⟨fun same => ⟨same, o, mem_edgeless.mp orphan⟩, fun h => h.1⟩

theorem mem_edges_debug {e : Edge} :
    e ∈ (g.settleOrphans .debug).edges ↔ e ∈ g.edges ∨ ∃ o, g.IsOrphan o ∧ e = orphanEdge o := by
  by_cases none : g.edgeless = []
  · rw [settleOrphans_eq_self none]
    have free := edgeless_eq_nil_iff.mp none
    exact ⟨Or.inl, fun h => h.elim (fun stored => stored) fun ⟨o, orphan, _⟩ => absurd orphan (free o)⟩
  · rw [settleOrphans_debug none, mem_edges_attach]
    simp only [mem_edgeless]

theorem node?_debug {id : NodeId} {n : Node} (stored : g.node? id = some n) :
    (g.settleOrphans .debug).node? id = some n := by
  by_cases none : g.edgeless = []
  · rwa [settleOrphans_eq_self none]
  · rw [settleOrphans_debug none, node?_attach]
    exact (Grows.addNode g _).node stored

theorem closed_debug (closed : g.Closed) : (g.settleOrphans .debug).Closed := by
  intro e member
  rcases mem_edges_debug.mp member with member | ⟨o, orphan, rfl⟩
  · exact ⟨mem_nodes_debug.mpr (Or.inl (closed e member).1), mem_nodes_debug.mpr (Or.inl (closed e member).2)⟩
  · exact ⟨mem_nodes_debug.mpr (Or.inr ⟨rfl, o, orphan⟩), mem_nodes_debug.mpr (Or.inl orphan.1)⟩

/-- Every orphan gets an edge from the sentinel, and so does the sentinel get an edge. -/
theorem settled_debug (id : NodeId) : ¬(g.settleOrphans .debug).IsOrphan id := by
  rintro ⟨stored, untouched⟩
  rcases mem_nodes_debug.mp stored with stored | ⟨rfl, o, orphan⟩
  · by_cases touched : g.Touches id
    · obtain ⟨e, member, ends⟩ := touched
      exact untouched ⟨e, mem_edges_debug.mpr (Or.inl member), ends⟩
    · exact untouched ⟨orphanEdge id, mem_edges_debug.mpr (Or.inr ⟨id, ⟨stored, touched⟩, rfl⟩), Or.inr rfl⟩
  · exact untouched ⟨orphanEdge o, mem_edges_debug.mpr (Or.inr ⟨o, orphan, rfl⟩), Or.inl rfl⟩

/-- The debug policy succeeds on every graph that stores the ends of its edges. -/
theorem finish_debug (closed : g.Closed) : ∃ g', g.finish .debug = .ok g' ∧ Hung g g' := by
  have checked : (g.settleOrphans .debug).check = .ok () := check_eq_ok_iff.mpr ⟨closed_debug closed, settled_debug⟩
  refine ⟨_, finish_eq_ok_iff.mpr ⟨checked, rfl⟩, ?_⟩
  exact
    { kept := node?_debug
      nodes := fun _ => mem_nodes_debug
      edges := fun _ => mem_edges_debug
      orphans := countsOrphans_edgeless g
      checked
      closed := closed_debug closed
      settled := settled_debug }

end Debug

/-! ### The pruning policy -/

/-- `g'` is `g` without its orphans: all other nodes, all edges, and the number of orphans. -/
structure PrunedTo (g g' : Graph) : Prop where
  nodes : ∀ id n, g'.node? id = some n ↔ g.node? id = some n ∧ ¬g.IsOrphan id
  edges : ∀ e, e ∈ g'.edges ↔ e ∈ g.edges
  orphans : g.CountsOrphans g'.statistics.orphans

section Prune
variable {g : Graph}

/-- Without orphans there is nothing to prune. -/
theorem finish_prune_of_settled (closed : g.Closed) (settled : ∀ id, ¬g.IsOrphan id) :
    ∃ g', g.finish .prune = .ok g' ∧ PrunedTo g g' := by
  have same := settleOrphans_eq_self (edgeless_eq_nil_iff.mpr settled) .prune
  have nodes : ∀ id n, (g.settleOrphans .prune).node? id = some n ↔ g.node? id = some n ∧ ¬g.IsOrphan id := by
    intro id n
    rw [same]
    exact ⟨fun stored => ⟨stored, settled id⟩, fun h => h.1⟩
  have edges : ∀ e, e ∈ (g.settleOrphans .prune).edges ↔ e ∈ g.edges := by
    intro e
    rw [same]
  have checked : (g.settleOrphans .prune).check = .ok () := by
    rw [same]
    exact check_eq_ok_iff.mpr ⟨closed, settled⟩
  exact ⟨_, finish_eq_ok_iff.mpr ⟨checked, rfl⟩, nodes, edges, countsOrphans_edgeless g⟩

/-- Where no edge ends at the id of the sentinel, that id is free or the id of an orphan. -/
theorem finish_prune_of_untouched (closed : g.Closed) (unaudited : g.Unaudited) (some_orphan : g.edgeless ≠ [])
    (untouched : ¬g.Touches Node.sentinel.id) : ∃ g', g.finish .prune = .ok g' ∧ PrunedTo g g' := by
  have nodes : ∀ id n, (g.settleOrphans .prune).node? id = some n ↔ g.node? id = some n ∧ ¬g.IsOrphan id := by
    intro id n
    rw [node?_prune unaudited some_orphan]
    refine and_congr_right fun stored => ⟨fun h => h.1, fun kept => ⟨kept, ?_⟩⟩
    rintro rfl
    exact kept ⟨mem_nodes_iff.mpr ⟨n, stored⟩, untouched⟩
  have edges : ∀ e, e ∈ (g.settleOrphans .prune).edges ↔ e ∈ g.edges := by
    intro e
    rw [mem_edges_prune unaudited some_orphan]
    exact ⟨fun h => h.1, fun member =>
      ⟨member, fun source => untouched ⟨e, member, Or.inl source⟩, fun target => untouched ⟨e, member, Or.inr target⟩⟩⟩
  -- What an edge ends at is no orphan, so pruning keeps both ends of every edge.
  have stored : ∀ id, g.Touches id → id ∈ (g.settleOrphans .prune).nodes := by
    intro id touched
    obtain ⟨n, here⟩ := mem_nodes_iff.mp (closed.mem_of_touches touched)
    exact mem_nodes_iff.mpr ⟨n, (nodes id n).mpr ⟨here, fun orphan => orphan.2 touched⟩⟩
  have checked : (g.settleOrphans .prune).check = .ok () := by
    refine check_eq_ok_iff.mpr ⟨fun e member => ?_, fun id orphan => ?_⟩
    · have before := (edges e).mp member
      exact ⟨stored e.source ⟨e, before, Or.inl rfl⟩, stored e.target ⟨e, before, Or.inr rfl⟩⟩
    · obtain ⟨n, here⟩ := mem_nodes_iff.mp orphan.1
      obtain ⟨before, kept⟩ := (nodes id n).mp here
      refine kept ⟨mem_nodes_iff.mpr ⟨n, before⟩, fun ⟨e, member, ends⟩ => orphan.2 ⟨e, (edges e).mpr member, ends⟩⟩
  exact ⟨_, finish_eq_ok_iff.mpr ⟨checked, rfl⟩, nodes, edges, countsOrphans_edgeless g⟩

/-- Pruning removes the orphans alone exactly when there are none or no edge ends at the id of the
    sentinel. -/
theorem finish_prune_iff (closed : g.Closed) (unaudited : g.Unaudited) :
    (∃ g', g.finish .prune = .ok g' ∧ PrunedTo g g') ↔
      (∀ id, ¬g.IsOrphan id) ∨ ¬g.Touches Node.sentinel.id := by
  constructor
  · rintro ⟨g', finished, pruned⟩
    by_cases none : g.edgeless = []
    · exact Or.inl (edgeless_eq_nil_iff.mp none)
    · refine Or.inr ?_
      rintro ⟨e, member, ends⟩
      -- The edge has to survive, but it goes with the node under the id of the sentinel.
      have survives := (pruned.edges e).mpr member
      obtain ⟨-, rfl⟩ := finish_eq_ok_iff.mp finished
      obtain ⟨-, source, target⟩ := (mem_edges_prune unaudited none).mp survives
      exact ends.elim source target
  · rintro (settled | untouched)
    · exact finish_prune_of_settled closed settled
    · by_cases none : g.edgeless = []
      · exact finish_prune_of_settled closed (edgeless_eq_nil_iff.mp none)
      · exact finish_prune_of_untouched closed unaudited none untouched

end Prune

end Graph

/-! ### Trees -/

namespace FileTree

/-- Under the debug policy every tree has a graph. It is the resolved graph, whose edges join stored nodes,
    with the sentinel and an edge to each orphan if there are orphans. -/
theorem build_debug_succeeds (t : FileTree) (s : Settings) (c : Classifier) :
    (t.resolve s.labelLimit c).Closed ∧
      ∃ g, t.build { s with orphanPolicy := .debug } c = .ok g ∧ Graph.Hung (t.resolve s.labelLimit c) g :=
  have sound := t.resolve_sound s.labelLimit c
  ⟨sound.closed, Graph.finish_debug sound.closed⟩

/-- The pruning policy takes the orphans of a tree and nothing else exactly when there are none or no edge
    ends at the id of the sentinel, which a module may have. -/
theorem prune_takes_orphans_alone_iff (t : FileTree) (labelLimit : Nat) (c : Classifier) :
    (∃ g, (t.resolve labelLimit c).finish .prune = .ok g ∧ Graph.PrunedTo (t.resolve labelLimit c) g) ↔
      (∀ id, ¬(t.resolve labelLimit c).IsOrphan id) ∨ ¬(t.resolve labelLimit c).Touches Node.sentinel.id :=
  have sound := t.resolve_sound labelLimit c
  Graph.finish_prune_iff sound.closed sound.unaudited

set_option maxRecDepth 100000 in
/-- A module with the name of the sentinel goes with the orphans of the project, although it has an edge. -/
theorem prune_takes_a_module_with_edges :
    let t := FileTree.ofFiles [("Detached.py", "class A: x\n"), ("empty.py", "")]
    let r := t.resolve 48 (.ofPackages [] false)
    r.edges.contains ⟨"Detached.Detached", "Detached.A", .containment⟩ = true ∧
      (r.finish .prune).toOption.map (fun g => g.contains "Detached.Detached") = some false := by
  have sorted := files_of_sorted (t := .ofFiles [("Detached.py", "class A: x\n"), ("empty.py", "")]) (by decide +kernel)
  simp only [resolve, outlines, counters, ignored, units, sorted]
  decide +kernel

end FileTree

end ProgramGraph
