import ProgramGraph.Graph.Audit
import ProgramGraph.Proofs.Graph.Basic

/-! Orphans and what becomes of them. The computed notions (`edgeless`, `check`, `outgoing`) are read as
    statements about stored nodes and edges; the facts about the sentinel follow from them. -/

namespace ProgramGraph
open Std

namespace Graph

/-! ### Edges and nodes -/

/-- An edge ends at `id`. -/
def Touches (g : Graph) (id : NodeId) : Prop :=
  ∃ e ∈ g.edges, e.source = id ∨ e.target = id

/-- A stored node at which no edge ends. -/
def IsOrphan (g : Graph) (id : NodeId) : Prop :=
  id ∈ g.nodes ∧ ¬g.Touches id

/-- Both ends of every edge are stored. -/
def Closed (g : Graph) : Prop :=
  ∀ e ∈ g.edges, e.source ∈ g.nodes ∧ e.target ∈ g.nodes

/-- No edge stems from an audit. -/
def Unaudited (g : Graph) : Prop :=
  ∀ e ∈ g.edges, e.kind ≠ .orphan

theorem Closed.mem_of_touches {g : Graph} (h : g.Closed) {id : NodeId} (ht : g.Touches id) : id ∈ g.nodes := by
  obtain ⟨e, he, rfl | rfl⟩ := ht
  · exact (h e he).1
  · exact (h e he).2

theorem mem_touched_foldl {id : NodeId} (es : List Edge) (ids : TreeSet NodeId) :
    id ∈ es.foldl (fun ids e => (ids.insert e.source).insert e.target) ids ↔
      id ∈ ids ∨ ∃ e ∈ es, e.source = id ∨ e.target = id := by
  induction es generalizing ids with
  | nil => simp
  | cons e es ih =>
    rw [List.foldl_cons, ih]
    simp only [TreeSet.mem_insert, Std.compare_eq_iff_eq, List.mem_cons, exists_eq_or_imp]
    grind

theorem mem_touched {g : Graph} {id : NodeId} : id ∈ g.touched ↔ g.Touches id := by
  unfold touched Touches
  simp only [mem_touched_foldl, TreeSet.not_mem_emptyc, false_or, mem_edgeList]

theorem mem_edgeless {g : Graph} {id : NodeId} : id ∈ g.edgeless ↔ g.IsOrphan id := by
  unfold edgeless IsOrphan
  rw [List.mem_filter, TreeMap.mem_keys, ← mem_touched, Bool.not_eq_true', ← Bool.not_eq_true]
  rfl

theorem nodup_edgeless (g : Graph) : g.edgeless.Nodup :=
  TreeMap.nodup_keys.filter _

theorem edgeless_eq_nil_iff {g : Graph} : g.edgeless = [] ↔ ∀ id, ¬g.IsOrphan id := by
  simp only [List.eq_nil_iff_forall_not_mem, mem_edgeless]

/-- The check accepts exactly the graphs that store the ends of their edges and have no orphan. -/
theorem check_eq_ok_iff {g : Graph} : g.check = .ok () ↔ g.Closed ∧ ∀ id, ¬g.IsOrphan id := by
  rw [← edgeless_eq_nil_iff]
  unfold check
  split
  · rename_i e he
    have hmem := mem_edgeList.mp (List.mem_of_find?_eq_some he)
    have hends : ¬(e.source ∈ g.nodes ∧ e.target ∈ g.nodes) := by
      have h := List.find?_some he
      rwa [Bool.not_eq_true', ← Bool.not_eq_true, Bool.and_eq_true] at h
    constructor
    · intro h
      cases h
    · intro h
      exact absurd (h.1 e hmem) hends
  · rename_i hnone
    have hc : g.Closed := fun e he => by
      simpa [contains_iff] using List.find?_eq_none.mp hnone e (mem_edgeList.mpr he)
    cases hl : g.edgeless with
    | nil => simp [hc]
    | cons id rest => simp

/-! ### Leaving edges

The edges of a node follow one another in the order of edges, so the scan from the least possible one
finds them all. -/

theorem takeWhile_dropWhile_eq_filter {α : Type} {r : α → α → Prop} {low own : α → Bool}
    (hlow : ∀ a b, r a b → low b = true → low a = true)
    (hown : ∀ a b, r a b → low a = false → own b = true → own a = true)
    (hdis : ∀ a, own a = true → low a = false) :
    ∀ {l : List α}, l.Pairwise r → (l.dropWhile low).takeWhile own = l.filter own
  | [], _ => rfl
  | a :: l, hp => by
    obtain ⟨ha, hl⟩ := List.pairwise_cons.mp hp
    have ih := takeWhile_dropWhile_eq_filter hlow hown hdis hl
    -- What is low comes first, then what is its own; once an element is neither, none of its own follows.
    cases hla : low a with
    | true =>
      have hoa : own a = false := by
        cases ho : own a with
        | false => rfl
        | true => rw [hdis a ho] at hla; cases hla
      simpa [hla, hoa] using ih
    | false =>
      have hrest : l.dropWhile low = l := by
        cases l with
        | nil => rfl
        | cons b l =>
          cases hlb : low b with
          | false => simp [hlb]
          | true => rw [hlow a b (ha b (by simp)) hlb] at hla; cases hla
      rw [hrest] at ih
      cases hoa : own a with
      | true => simp [hla, hoa, ih]
      | false =>
        have hnone : l.filter own = [] := List.filter_eq_nil_iff.mpr fun b hb hob => by
          rw [hown a b (ha b hb) hla hob] at hoa
          cases hoa
        simp [hla, hoa, hnone]

theorem compare_empty_ne_lt (s : String) : compare s "" ≠ .lt := fun h =>
  List.not_lt_nil _ (String.lt_iff.mp (compareOfLessAndEq_eq_lt.mp h))

theorem compare_edge (a b : Edge) : compare a b =
    (compare a.source b.source).then ((compare a.target b.target).then (compare a.kind b.kind)) := rfl

theorem compare_least_ne_lt (e : Edge) : compare e ⟨e.source, "", .containment⟩ ≠ .lt := by
  intro h
  have hs : compare e.source e.source = .eq := ReflCmp.compare_self
  rw [compare_edge, hs, Ordering.eq_then, Ordering.then_eq_lt] at h
  rcases h with ht | ⟨-, hk⟩
  · exact compare_empty_ne_lt _ ht
  · cases hkind : e.kind <;> rw [hkind] at hk <;> cases hk

theorem outgoing_eq_filter (g : Graph) (id : NodeId) :
    g.outgoing id = g.edgeList.filter fun e => e.source == id := by
  unfold outgoing
  refine takeWhile_dropWhile_eq_filter (r := fun a b => compare a b = .lt) ?_ ?_ ?_ TreeSet.ordered_toList
  · intro a b hab hb
    rw [Ordering.isLT_iff_eq_lt] at hb ⊢
    exact TransCmp.lt_trans hab hb
  · intro a b hab ha hb
    rw [beq_iff_eq] at hb ⊢
    rw [compare_edge, hb, Ordering.then_eq_lt] at hab
    rcases hab with hlt | ⟨heq, -⟩
    · rw [compare_edge, hlt] at ha
      cases ha
    · exact Std.compare_eq_iff_eq.mp heq
  · intro a ha
    rw [beq_iff_eq] at ha
    subst ha
    rw [← Bool.not_eq_true, Ordering.isLT_iff_eq_lt]
    exact compare_least_ne_lt a

theorem mem_outgoing {g : Graph} {id : NodeId} {e : Edge} : e ∈ g.outgoing id ↔ e ∈ g.edges ∧ e.source = id := by
  rw [outgoing_eq_filter, List.mem_filter, mem_edgeList, beq_iff_eq]

/-! ### The sentinel -/

section AddEdges
variable {f : NodeId → Edge}

theorem nodes_addEdges (os : List NodeId) (g : Graph) :
    (os.foldl (fun g id => g.addEdge (f id)) g).nodes = g.nodes := by
  induction os generalizing g with
  | nil => rfl
  | cons o os ih => exact ih (g.addEdge (f o))

theorem mem_edges_addEdges {e : Edge} (os : List NodeId) (g : Graph) :
    e ∈ (os.foldl (fun g id => g.addEdge (f id)) g).edges ↔ e ∈ g.edges ∨ ∃ o ∈ os, e = f o := by
  induction os generalizing g with
  | nil => simp
  | cons o os ih =>
    rw [List.foldl_cons, ih, mem_edges_addEdge]
    simp only [List.mem_cons, exists_eq_or_imp]
    grind

end AddEdges

variable {g : Graph} {os : List NodeId}

/-- The edge from the sentinel to an orphan. -/
def orphanEdge (id : NodeId) : Edge :=
  ⟨Node.sentinel.id, id, .orphan⟩

theorem node?_attach {id : NodeId} : (g.attach os).node? id = (g.addNode Node.sentinel).node? id := by
  unfold attach node?
  rw [nodes_addEdges]

theorem mem_nodes_attach {id : NodeId} : id ∈ (g.attach os).nodes ↔ id = Node.sentinel.id ∨ id ∈ g.nodes := by
  unfold attach
  rw [nodes_addEdges, mem_nodes_addNode]

theorem mem_edges_attach {e : Edge} : e ∈ (g.attach os).edges ↔ e ∈ g.edges ∨ ∃ o ∈ os, e = orphanEdge o :=
  mem_edges_addEdges os _

/-- What the pruning policy removes: the sentinel and what was attached to it. -/
theorem mem_detachedIds_attach (hg : g.Unaudited) {id : NodeId} :
    id ∈ (g.attach os).detachedIds ↔ id = Node.sentinel.id ∨ id ∈ os := by
  unfold detachedIds
  simp only [TreeSet.mem_ofList, List.contains_iff_mem, List.mem_cons, List.mem_map, List.mem_filter,
    mem_outgoing, mem_edges_attach, beq_iff_eq]
  refine or_congr_right ⟨?_, fun h => ⟨orphanEdge id, ⟨⟨Or.inr ⟨id, h, rfl⟩, rfl⟩, rfl⟩, rfl⟩⟩
  rintro ⟨e, ⟨⟨he | ⟨o, ho, rfl⟩, -⟩, hk⟩, rfl⟩
  · exact absurd hk (hg e he)
  · exact ho

/-- Under the debug policy a graph with orphans gets the sentinel, if its id is free, and an edge to each
    orphan. -/
theorem settleOrphans_debug (h : g.edgeless ≠ []) : g.settleOrphans .debug = g.attach g.edgeless := by
  unfold settleOrphans
  split
  · contradiction
  · rfl

theorem settleOrphans_prune (h : g.edgeless ≠ []) :
    g.settleOrphans .prune = (g.attach g.edgeless).removeNodes (g.attach g.edgeless).detachedIds := by
  unfold settleOrphans
  split
  · contradiction
  · rfl

theorem settleOrphans_eq_self (h : g.edgeless = []) (policy : OrphanPolicy) : g.settleOrphans policy = g := by
  unfold settleOrphans
  rw [h]

theorem node?_removeNodes {ids : TreeSet NodeId} {id : NodeId} {n : Node} :
    (g.removeNodes ids).node? id = some n ↔ g.node? id = some n ∧ id ∉ ids := by
  unfold removeNodes node?
  rw [TreeMap.getElem?_filter', Option.filter_eq_some_iff, Bool.not_eq_true', ← Bool.not_eq_true]
  rfl

theorem mem_edges_removeNodes {ids : TreeSet NodeId} {e : Edge} :
    e ∈ (g.removeNodes ids).edges ↔ e ∈ g.edges ∧ e.source ∉ ids ∧ e.target ∉ ids := by
  unfold removeNodes
  simp only [TreeSet.mem_filter, TreeSet.get_eq, exists_prop, Bool.and_eq_true, Bool.not_eq_true', ← Bool.not_eq_true,
    TreeSet.contains_iff_mem]

/-- Pruning keeps every node that is neither an orphan nor stored under the id of the sentinel. -/
theorem node?_prune (hg : g.Unaudited) (h : g.edgeless ≠ []) {id : NodeId} {n : Node} :
    (g.settleOrphans .prune).node? id = some n ↔
      g.node? id = some n ∧ ¬g.IsOrphan id ∧ id ≠ Node.sentinel.id := by
  rw [settleOrphans_prune h, node?_removeNodes, mem_detachedIds_attach hg, node?_attach, node?_addNode,
    mem_edgeless, not_or]
  constructor
  · rintro ⟨hn, hs, ho⟩
    rw [if_neg fun hc => hs hc.1.symm] at hn
    exact ⟨hn, ho, hs⟩
  · rintro ⟨hn, ho, hs⟩
    exact ⟨by rwa [if_neg fun hc => hs hc.1.symm], hs, ho⟩

/-- Pruning keeps every edge that does not end at the id of the sentinel: no edge ends at an orphan. -/
theorem mem_edges_prune (hg : g.Unaudited) (h : g.edgeless ≠ []) {e : Edge} :
    e ∈ (g.settleOrphans .prune).edges ↔
      e ∈ g.edges ∧ e.source ≠ Node.sentinel.id ∧ e.target ≠ Node.sentinel.id := by
  rw [settleOrphans_prune h, mem_edges_removeNodes, mem_detachedIds_attach hg, mem_detachedIds_attach hg,
    mem_edges_attach, mem_edgeless, mem_edgeless, not_or, not_or]
  constructor
  · rintro ⟨he | ⟨o, -, rfl⟩, ⟨hs, -⟩, ht, -⟩
    · exact ⟨he, hs, ht⟩
    · exact absurd rfl hs
  · rintro ⟨he, hs, ht⟩
    exact ⟨Or.inl he, ⟨hs, fun ho => ho.2 ⟨e, he, Or.inl rfl⟩⟩, ht, fun ho => ho.2 ⟨e, he, Or.inr rfl⟩⟩

end Graph

end ProgramGraph
