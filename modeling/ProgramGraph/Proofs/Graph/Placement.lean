import ProgramGraph.Proofs.Graph.Orphans

/-! Placing nodes. `place?_eq_ok` and `place?_eq_error` say all that placing one node can do;
    `Placement.step_cases` says it of one step through a list. What a list of placements keeps and what
    it reports follows by induction on the list. -/

namespace ProgramGraph
open Std

namespace Graph

/-! ### One node -/

/-- The graph with one more node, under a parent. -/
def hang (g : Graph) (n : Node) (parent : NodeId) : Graph :=
  { g.addNode n with
    parents := g.parents.insert n.id parent
    edges := g.edges.insert ⟨parent, n.id, .containment⟩ }

/-- A node is stored under its id with the module and the parent it asks for. -/
def Holds (g : Graph) (n : Node) : Prop :=
  ∃ m, g.node? n.id = some m ∧ m.module = n.module ∧ m.parent = n.parent

theorem Grows.holds {g g' : Graph} (h : Grows g g') {n : Node} (hn : g.Holds n) : g'.Holds n := by
  obtain ⟨m, hm, hmod, hpar⟩ := hn
  exact ⟨m, h.node hm, hmod, hpar⟩

theorem place?_eq_ok {g g' : Graph} {n : Node} (h : g.place? n = .ok g') :
    (n.parent = none ∧ g' = g.addNode n) ∨
      ∃ p holder, n.parent = some p ∧ g.node? p = some holder ∧ holder.module = n.module ∧
        ((g.parents[n.id]? = some p ∧ g' = g) ∨
          (g.parents[n.id]? = none ∧ g.node? n.id = none ∧ g' = g.hang n p)) := by
  unfold place? at h
  split at h
  · rename_i hpar
    cases h
    exact Or.inl ⟨hpar, rfl⟩
  · rename_i p hpar
    refine Or.inr ?_
    split at h
    · cases h
    · rename_i holder hholder
      split at h
      · cases h
      · rename_i hmod
        refine ⟨p, holder, hpar, hholder, Decidable.not_not.mp hmod, ?_⟩
        split at h
        · rename_i kept hkept
          split at h
          · rename_i heq
            cases h
            exact Or.inl ⟨heq ▸ hkept, rfl⟩
          · cases h
        · rename_i hfree
          split at h
          · cases h
          · rename_i hnone
            cases h
            exact Or.inr ⟨hfree, hnone, rfl⟩

/-- A refused node has a parent; the refusal is a taken name unless that parent is missing. -/
theorem place?_eq_error {g : Graph} {n : Node} {problem : Problem} (h : g.place? n = .error problem) :
    ∃ p, n.parent = some p ∧
      (g.node? p = none ∨ ∃ qualname kept rejected, problem = .duplicateSymbol qualname kept rejected) := by
  unfold place? at h
  split at h
  · cases h
  · rename_i p hpar
    refine ⟨p, hpar, ?_⟩
    split at h
    · rename_i hnone
      exact Or.inl hnone
    · refine Or.inr ?_
      split at h
      · cases h
        exact ⟨_, _, _, rfl⟩
      · split at h
        · split at h
          · cases h
          · cases h
            exact ⟨_, _, _, rfl⟩
        · split at h
          · cases h
            exact ⟨_, _, _, rfl⟩
          · cases h

section Hang
variable {g : Graph} {n : Node} {p : NodeId}

theorem mem_edges_hang {e : Edge} : e ∈ (g.hang n p).edges ↔ e = ⟨p, n.id, .containment⟩ ∨ e ∈ g.edges := by
  unfold hang
  rw [TreeSet.mem_insert, Std.compare_eq_iff_eq, eq_comm]

theorem parents_hang {id : NodeId} : (g.hang n p).parents[id]? = if n.id = id then some p else g.parents[id]? := by
  unfold hang
  simp only [TreeMap.getElem?_insert, Std.compare_eq_iff_eq]

theorem node?_hang_self (hfree : g.node? n.id = none) : (g.hang n p).node? n.id = some n := by
  have h : (g.hang n p).node? n.id = (g.addNode n).node? n.id := rfl
  rw [h, node?_addNode, if_pos ⟨rfl, node?_eq_none_iff.mp hfree⟩]

theorem Grows.hang (hfree : g.parents[n.id]? = none) : Grows g (g.hang n p) where
  node h := (Grows.addNode g n).node h
  edge he := mem_edges_hang.mpr (Or.inr he)
  parent {id q} hq := by
    rw [parents_hang]
    split
    · rename_i heq
      rw [← heq, hfree] at hq
      cases hq
    · exact hq
  diagnostic := id

end Hang

theorem Grows.place? {g g' : Graph} {n : Node} (h : g.place? n = .ok g') : Grows g g' := by
  rcases place?_eq_ok h with ⟨-, rfl⟩ | ⟨p, holder, -, -, -, ⟨-, rfl⟩ | ⟨hfree, -, rfl⟩⟩
  · exact Grows.addNode g n
  · exact Grows.refl g'
  · exact Grows.hang hfree

/-- The edge of containment of a node that `g` lacks, from the parent that the node has in `g'`. -/
def Hangs (g g' : Graph) (e : Edge) : Prop :=
  e.kind = .containment ∧ e.target ∉ g.nodes ∧ ∃ n, g'.node? e.target = some n ∧ n.parent = some e.source

theorem Hangs.mono {g₀ g g' g'' : Graph} {e : Edge} (hangs : g.Hangs g' e) (before : g₀.Grows g)
    (after : g'.Grows g'') : g₀.Hangs g'' e := by
  obtain ⟨kind, new, n, stored, parent⟩ := hangs
  exact ⟨kind, fun old => new (before.mem old), n, after.node stored, parent⟩

/-! ### What placing keeps -/

/-- Nodes are stored under their own ids, and the containment parent of a node is the one it asks for,
    stored and of the same module. -/
structure WellPlaced (g : Graph) : Prop where
  keyed : ∀ {id n}, g.node? id = some n → n.id = id
  parent : ∀ {id p : NodeId}, g.parents[id]? = some p →
    ∃ n holder, g.node? id = some n ∧ n.parent = some p ∧ g.node? p = some holder ∧ holder.module = n.module

namespace WellPlaced
variable {g : Graph}

theorem addNode (h : g.WellPlaced) (n : Node) : (g.addNode n).WellPlaced where
  keyed {id m} hm := by
    rcases node?_addNode_cases hm with ⟨hid, -, rfl⟩ | hm
    · exact hid
    · exact h.keyed hm
  parent hp := by
    obtain ⟨m, holder, hm, hpar, hh, hmod⟩ := h.parent hp
    exact ⟨m, holder, (Grows.addNode g n).node hm, hpar, (Grows.addNode g n).node hh, hmod⟩

theorem of_eq {g' : Graph} (h : g.WellPlaced) (hn : g'.nodes = g.nodes) (hp : g'.parents = g.parents) :
    g'.WellPlaced := by
  refine ⟨fun {id n} => ?_, fun {id p} => ?_⟩
  · unfold node?
    rw [hn]
    exact h.keyed
  · unfold node?
    rw [hn, hp]
    exact h.parent

theorem hang (h : g.WellPlaced) {n holder : Node} {p : NodeId} (hpar : n.parent = some p)
    (hholder : g.node? p = some holder) (hmod : holder.module = n.module) (hfree : g.parents[n.id]? = none)
    (hnone : g.node? n.id = none) : (g.hang n p).WellPlaced where
  keyed hm := (h.addNode n).keyed hm
  parent {id q} hq := by
    have grows : Grows g (g.hang n p) := Grows.hang hfree
    rw [parents_hang] at hq
    split at hq
    · rename_i heq
      cases hq
      subst heq
      exact ⟨n, holder, node?_hang_self hnone, hpar, grows.node hholder, hmod⟩
    · obtain ⟨m, holder', hm, hpar', hh, hmod'⟩ := h.parent hq
      exact ⟨m, holder', grows.node hm, hpar', grows.node hh, hmod'⟩

theorem place? (h : g.WellPlaced) {g' : Graph} {n : Node} (hg : g.place? n = .ok g') : g'.WellPlaced := by
  rcases place?_eq_ok hg with ⟨-, rfl⟩ | ⟨p, holder, hpar, hholder, hmod, ⟨-, rfl⟩ | ⟨hfree, hnone, rfl⟩⟩
  · exact h.addNode n
  · exact h
  · exact h.hang hpar hholder hmod hfree hnone

end WellPlaced

/-- The graph of a run before its audit. -/
structure Sound (g : Graph) : Prop where
  closed : g.Closed
  unaudited : g.Unaudited
  placed : g.WellPlaced

namespace Sound
variable {g : Graph}

theorem empty : Sound {} where
  closed := fun e he => absurd he TreeSet.not_mem_emptyc
  unaudited := fun e he => absurd he TreeSet.not_mem_emptyc
  placed := ⟨fun h => by simp [node?] at h, fun h => by simp at h⟩

theorem addNode (h : g.Sound) (n : Node) : (g.addNode n).Sound where
  closed e he := ⟨mem_nodes_addNode.mpr (Or.inr (h.closed e he).1), mem_nodes_addNode.mpr (Or.inr (h.closed e he).2)⟩
  unaudited := h.unaudited
  placed := h.placed.addNode n

theorem addEdge (h : g.Sound) {e : Edge} (hs : e.source ∈ g.nodes) (ht : e.target ∈ g.nodes)
    (hk : e.kind ≠ .orphan) : (g.addEdge e).Sound where
  closed e' he' := by
    rcases mem_edges_addEdge.mp he' with rfl | he'
    · exact ⟨hs, ht⟩
    · exact h.closed e' he'
  unaudited e' he' := by
    rcases mem_edges_addEdge.mp he' with rfl | he'
    · exact hk
    · exact h.unaudited e' he'
  placed := ⟨h.placed.keyed, h.placed.parent⟩

theorem of_eq {g' : Graph} (h : g.Sound) (hn : g'.nodes = g.nodes) (he : g'.edges = g.edges)
    (hp : g'.parents = g.parents) : g'.Sound where
  closed e := by
    rw [hn, he]
    exact h.closed e
  unaudited e := by
    rw [he]
    exact h.unaudited e
  placed := h.placed.of_eq hn hp

theorem report (h : g.Sound) (p : Problem) (path : Option String) (line : Option Nat) :
    (g.report p path line).Sound :=
  h.of_eq (nodes_report ..) (edges_report ..) (parents_report ..)

theorem reportAll (path : Option String) (ps : List Problem) {g : Graph} (h : g.Sound) :
    (ps.foldl (fun g p => g.report p path) g).Sound :=
  List.foldlRecOn ps _ (motive := Sound) h fun _ sound p _ => sound.report p path none

theorem hang (h : g.Sound) {n holder : Node} {p : NodeId} (hpar : n.parent = some p)
    (hholder : g.node? p = some holder) (hmod : holder.module = n.module) (hfree : g.parents[n.id]? = none)
    (hnone : g.node? n.id = none) : (g.hang n p).Sound where
  closed e he := by
    rcases mem_edges_hang.mp he with rfl | he
    · exact ⟨(Grows.hang hfree).mem (mem_nodes_iff.mpr ⟨holder, hholder⟩),
        mem_nodes_iff.mpr ⟨n, node?_hang_self hnone⟩⟩
    · exact ⟨(Grows.hang hfree).mem (h.closed e he).1, (Grows.hang hfree).mem (h.closed e he).2⟩
  unaudited e he := by
    rcases mem_edges_hang.mp he with rfl | he
    · exact nofun
    · exact h.unaudited e he
  placed := h.placed.hang hpar hholder hmod hfree hnone

theorem place? (h : g.Sound) {g' : Graph} {n : Node} (hg : g.place? n = .ok g') : g'.Sound := by
  rcases place?_eq_ok hg with ⟨-, rfl⟩ | ⟨p, holder, hpar, hholder, hmod, ⟨-, rfl⟩ | ⟨hfree, hnone, rfl⟩⟩
  · exact h.addNode n
  · exact h
  · exact h.hang hpar hholder hmod hfree hnone

end Sound

/-- A node that asks for a parent and is placed is held as it is. -/
theorem holds_of_place? {g g' : Graph} (h : g.WellPlaced) {n : Node} (hn : n.parent.isSome)
    (hg : g.place? n = .ok g') : g'.Holds n := by
  rcases place?_eq_ok hg with ⟨hpar, -⟩ | ⟨p, holder, hpar, hholder, hmod, ⟨hkept, rfl⟩ | ⟨hfree, hnone, rfl⟩⟩
  · rw [hpar] at hn
    cases hn
  · obtain ⟨m, holder', hm, hmp, hh, hmod'⟩ := h.parent hkept
    rw [hholder] at hh
    cases hh
    exact ⟨m, hm, hmod'.symm.trans hmod, hmp.trans hpar.symm⟩
  · exact ⟨n, node?_hang_self hnone, rfl, rfl⟩

/-- A node that is placed has its id stored, a root perhaps for another node. -/
theorem mem_of_place? {g g' : Graph} (h : g.WellPlaced) {n : Node} (hg : g.place? n = .ok g') : n.id ∈ g'.nodes := by
  cases hpar : n.parent with
  | none =>
    rcases place?_eq_ok hg with ⟨-, rfl⟩ | ⟨p, -, hpar', -⟩
    · exact mem_nodes_addNode.mpr (Or.inl rfl)
    · rw [hpar] at hpar'
      cases hpar'
  | some p =>
    obtain ⟨m, hm, -⟩ := holds_of_place? h (by rw [hpar]; rfl) hg
    exact mem_nodes_iff.mpr ⟨m, hm⟩

theorem stored_of_place? {g g' : Graph} {n m : Node} {id : NodeId} (placed : g.place? n = .ok g')
    (stored : g'.node? id = some m) : g.node? id = some m ∨ m = n := by
  have added (stored : (g.addNode n).node? id = some m) : g.node? id = some m ∨ m = n :=
    (node?_addNode_cases stored).symm.imp_right fun ⟨_, _, same⟩ => same
  rcases place?_eq_ok placed with ⟨-, rfl⟩ | ⟨_, _, -, -, -, ⟨-, rfl⟩ | ⟨-, -, rfl⟩⟩
  · exact added stored
  · exact Or.inl stored
  · exact added stored

/-! ### A list of nodes -/

/-- Each node comes after its parent, unless the parent is known beforehand. -/
def ParentsFirst (known : NodeId → Prop) : List Node → Prop
  | [] => True
  | n :: ns => (∀ p, n.parent = some p → known p) ∧ ParentsFirst (fun id => known id ∨ id = n.id) ns

theorem ParentsFirst.mono : ∀ {ns : List Node} {known known' : NodeId → Prop},
    ParentsFirst known ns → (∀ id, known id → known' id) → ParentsFirst known' ns
  | [], _, _, _, _ => trivial
  | _ :: _, _, _, h, hk =>
    ⟨fun p hp => hk p (h.1 p hp), h.2.mono fun id hid => hid.imp (hk id) fun heq => heq⟩

theorem ParentsFirst.append : ∀ {ns ms : List Node} {known : NodeId → Prop}, ParentsFirst known ns →
    ParentsFirst (fun id => known id ∨ ∃ n ∈ ns, n.id = id) ms → ParentsFirst known (ns ++ ms)
  | [], _, _, _, hm => hm.mono fun id hid => hid.elim (fun h => h) fun h => by simp at h
  | n :: ns, ms, known, h, hm => by
    refine ⟨h.1, h.2.append (hm.mono fun id hid => ?_)⟩
    rcases hid with hid | ⟨m, hmem, rfl⟩
    · exact Or.inl (Or.inl hid)
    · rcases List.mem_cons.mp hmem with rfl | hmem
      · exact Or.inl (Or.inr rfl)
      · exact Or.inr ⟨m, hmem, rfl⟩

namespace Placement

/-- One step leaves a node out because its parent is missing, places it, or refuses it because a name is
    taken. -/
theorem step_cases (p : Placement) (n : Node) :
    (∃ parent, n.parent = some parent ∧ (parent ∈ p.rejected ∨ parent ∉ p.graph.nodes) ∧
        p.step n = { p with rejected := p.rejected.insert n.id }) ∨
      (∃ g, p.graph.place? n = .ok g ∧ p.step n = { p with graph := g }) ∨
      (∃ parent qualname kept refused, n.parent = some parent ∧
        p.step n = { p with
          rejected := p.rejected.insert n.id
          problems := p.problems.push (.duplicateSymbol qualname kept refused) }) := by
  cases hpar : n.parent with
  | none =>
    refine Or.inr (Or.inl ⟨p.graph.addNode n, ?_, ?_⟩) <;> simp [step, place?, hpar]
  | some parent =>
    have lost : (p.rejected.contains parent || !p.graph.contains parent) = true ↔
        parent ∈ p.rejected ∨ parent ∉ p.graph.nodes := by
      rw [Bool.or_eq_true, Bool.not_eq_true', ← Bool.not_eq_true, contains_iff]
      rfl
    unfold step
    rw [hpar]
    by_cases missing : parent ∈ p.rejected ∨ parent ∉ p.graph.nodes
    · exact Or.inl ⟨parent, rfl, missing, if_pos (lost.mpr missing)⟩
    · refine Or.inr ?_
      have kept := mt lost.mp missing
      cases hplace : p.graph.place? n with
      | ok g => exact Or.inl ⟨g, rfl, if_neg kept⟩
      | error problem =>
        -- The parent is there, so what is refused is a name that is taken.
        obtain ⟨parent', hpar', hnone | ⟨qualname, holder, refused, rfl⟩⟩ := place?_eq_error hplace
        · rw [hpar] at hpar'
          cases hpar'
          exact absurd (Or.inr (node?_eq_none_iff.mp hnone)) missing
        · exact Or.inr ⟨parent, qualname, holder, refused, rfl, if_neg kept⟩

theorem mem_insert_rejected {s : TreeSet NodeId} {id n : NodeId} : id ∈ s.insert n ↔ id = n ∨ id ∈ s := by
  rw [TreeSet.mem_insert, Std.compare_eq_iff_eq, eq_comm]

/-- A step leaves the node out and the graph as it is, or it places the node. -/
theorem step_graph (p : Placement) (n : Node) :
    (n.id ∈ (p.step n).rejected ∧ (p.step n).graph = p.graph) ∨ p.graph.place? n = .ok (p.step n).graph := by
  rcases step_cases p n with ⟨_, -, -, next⟩ | ⟨g, placed, next⟩ | ⟨_, _, _, _, -, next⟩ <;> rw [next]
  · exact Or.inl ⟨mem_insert_rejected.mpr (Or.inl rfl), rfl⟩
  · exact Or.inr placed
  · exact Or.inl ⟨mem_insert_rejected.mpr (Or.inl rfl), rfl⟩

/-- What has been placed, left out and reported stays so. -/
structure Leads (p q : Placement) : Prop where
  grows : Grows p.graph q.graph
  rejected : ∀ {id}, id ∈ p.rejected → id ∈ q.rejected
  problem : ∀ {x}, x ∈ p.problems → x ∈ q.problems

theorem Leads.refl (p : Placement) : Leads p p := ⟨Grows.refl _, id, id⟩

theorem Leads.trans {p q r : Placement} (h : Leads p q) (h' : Leads q r) : Leads p r :=
  ⟨h.grows.trans h'.grows, h'.rejected ∘ h.rejected, h'.problem ∘ h.problem⟩

theorem step_leads (p : Placement) (n : Node) : Leads p (p.step n) := by
  rcases step_cases p n with ⟨_, -, -, h⟩ | ⟨g, hg, h⟩ | ⟨_, _, _, _, -, h⟩ <;> rw [h]
  · exact ⟨Grows.refl _, fun hid => mem_insert_rejected.mpr (Or.inr hid), id⟩
  · exact ⟨Grows.place? hg, id, id⟩
  · exact ⟨Grows.refl _, fun hid => mem_insert_rejected.mpr (Or.inr hid), Array.mem_push_of_mem _⟩

theorem foldl_leads (ns : List Node) (p : Placement) : Leads p (ns.foldl step p) := by
  induction ns generalizing p with
  | nil => exact Leads.refl p
  | cons n ns ih => exact (step_leads p n).trans (ih (p.step n))

theorem step_sound {p : Placement} (h : p.graph.Sound) (n : Node) : (p.step n).graph.Sound := by
  rcases step_graph p n with ⟨-, same⟩ | placed
  · rwa [same]
  · exact h.place? placed

theorem foldl_sound (ns : List Node) {p : Placement} (h : p.graph.Sound) : (ns.foldl step p).graph.Sound := by
  induction ns generalizing p with
  | nil => exact h
  | cons n ns ih => exact ih (step_sound h n)

theorem step_placed {p : Placement} (h : p.graph.WellPlaced) (n : Node) : (p.step n).graph.WellPlaced := by
  rcases step_graph p n with ⟨-, same⟩ | placed
  · rwa [same]
  · exact h.place? placed

/-- A root is never left out: afterwards its id is stored, if perhaps for another node. -/
theorem step_root (p : Placement) {n : Node} (hn : n.parent = none) :
    p.step n = { p with graph := p.graph.addNode n } := by
  unfold step place?
  simp [hn]

/-- Placing reports nothing but taken names. -/
theorem foldl_problem {x : Problem} (ns : List Node) (p : Placement) (hx : x ∈ (ns.foldl step p).problems) :
    x ∈ p.problems ∨ ∃ qualname kept refused, x = .duplicateSymbol qualname kept refused := by
  induction ns generalizing p with
  | nil => exact Or.inl hx
  | cons n ns ih =>
    rcases ih (p.step n) hx with hx | hx
    · rcases step_cases p n with ⟨_, -, -, hs⟩ | ⟨_, -, hs⟩ | ⟨_, q, k, r, -, hs⟩ <;> rw [hs] at hx
      · exact Or.inl hx
      · exact Or.inl hx
      · rcases Array.mem_push.mp hx with hx | rfl
        · exact Or.inl hx
        · exact Or.inr ⟨q, k, r, rfl⟩
    · exact Or.inr hx

/-- After its turn a node is left out or its id is stored; a node that asks for a parent is held then. -/
theorem step_settles {p : Placement} (placed : p.graph.WellPlaced) (n : Node) : n.id ∈ (p.step n).rejected ∨
    (n.id ∈ (p.step n).graph.nodes ∧ (n.parent.isSome → (p.step n).graph.Holds n)) := by
  rcases step_graph p n with ⟨out, -⟩ | done
  · exact Or.inl out
  · exact Or.inr ⟨mem_of_place? placed done, fun asks => holds_of_place? placed asks done⟩

theorem foldl_settles (ns : List Node) {p : Placement} (placed : p.graph.WellPlaced) : ∀ n ∈ ns,
    n.id ∈ (ns.foldl step p).rejected ∨ (n.id ∈ (ns.foldl step p).graph.nodes ∧
      (n.parent.isSome → (ns.foldl step p).graph.Holds n)) := by
  induction ns generalizing p with
  | nil =>
    intro n member
    cases member
  | cons m ns ih =>
    intro n member
    rcases List.mem_cons.mp member with rfl | member
    · have later := foldl_leads ns (p.step n)
      exact (step_settles placed n).imp later.rejected (And.imp later.grows.mem fun holds asks => later.grows.holds (holds asks))
    · exact ih (step_placed placed m) n member

/-- Every stored node was stored before or is one of the list. -/
theorem foldl_stored (ns : List Node) (p : Placement) {id : NodeId} {m : Node}
    (stored : (ns.foldl step p).graph.node? id = some m) : p.graph.node? id = some m ∨ m ∈ ns := by
  induction ns generalizing p with
  | nil => exact Or.inl stored
  | cons n ns ih =>
    rcases ih (p.step n) stored with stored | member
    · rcases step_graph p n with ⟨-, same⟩ | placed
      · exact Or.inl (same ▸ stored)
      · rcases stored_of_place? placed stored with stored | rfl
        · exact Or.inl stored
        · exact Or.inr List.mem_cons_self
    · exact Or.inr (List.mem_cons_of_mem _ member)

theorem step_hangs (p : Placement) (n : Node) {e : Edge} (member : e ∈ (p.step n).graph.edges) :
    e ∈ p.graph.edges ∨ p.graph.Hangs (p.step n).graph e := by
  rcases step_graph p n with ⟨-, same⟩ | placed
  · exact Or.inl (same ▸ member)
  · rcases place?_eq_ok placed with ⟨-, next⟩ | ⟨parent, _, asks, -, -, ⟨-, next⟩ | ⟨-, free, next⟩⟩ <;> rw [next] at member ⊢
    · exact Or.inl member
    · exact Or.inl member
    · rcases mem_edges_hang.mp member with rfl | member
      · exact Or.inr ⟨rfl, node?_eq_none_iff.mp free, n, node?_hang_self free, asks⟩
      · exact Or.inl member

/-- Placing links by containment only, and to new nodes only. -/
theorem foldl_hangs (ns : List Node) (p : Placement) {e : Edge} (member : e ∈ (ns.foldl step p).graph.edges) :
    e ∈ p.graph.edges ∨ p.graph.Hangs (ns.foldl step p).graph e := by
  induction ns generalizing p with
  | nil => exact Or.inl member
  | cons n ns ih =>
    rcases ih (p.step n) member with member | hangs
    · exact (step_hangs p n member).imp_right fun hangs => hangs.mono (.refl _) (foldl_leads ns _).grows
    · exact Or.inr (hangs.mono (step_leads p n).grows (.refl _))

theorem foldl_edges (ns : List Node) (p : Placement) {e : Edge} (member : e ∈ (ns.foldl step p).graph.edges) :
    e ∈ p.graph.edges ∨ e.kind = .containment :=
  (foldl_hangs ns p member).imp_right And.left

/-- Placing records nothing: what it reports is recorded by its caller. -/
theorem foldl_diagnostics (ns : List Node) (p : Placement) : (ns.foldl step p).graph.diagnostics = p.graph.diagnostics := by
  induction ns generalizing p with
  | nil => rfl
  | cons n ns ih =>
    refine (ih (p.step n)).trans ?_
    rcases step_graph p n with ⟨-, same⟩ | placed
    · rw [same]
    · rcases place?_eq_ok placed with ⟨-, next⟩ | ⟨_, _, -, -, -, ⟨-, next⟩ | ⟨-, -, next⟩⟩ <;> rw [next] <;> rfl

/-- A node whose parent is held for another module is refused with a report. -/
theorem step_refused {p : Placement} {n holder : Node} {parent : NodeId} (asks : n.parent = some parent)
    (kept : parent ∉ p.rejected) (stored : p.graph.node? parent = some holder) (foreign : holder.module ≠ n.module) :
    ∃ x, x ∈ (p.step n).problems := by
  rcases step_cases p n with ⟨q, asks', missing, -⟩ | ⟨g, placed, -⟩ | ⟨_, _, _, _, -, next⟩
  · rw [asks] at asks'
    cases asks'
    rcases missing with lost | lost
    · exact absurd lost kept
    · exact absurd (mem_nodes_iff.mpr ⟨holder, stored⟩) lost
  · rcases place?_eq_ok placed with ⟨root, -⟩ | ⟨q, holder', asks', stored', same, -⟩
    · rw [asks] at root
      cases root
    · rw [asks] at asks'
      cases asks'
      rw [stored] at stored'
      cases stored'
      exact absurd same foreign
  · rw [next]
    exact ⟨_, Array.mem_push_self⟩

/-- Where parents come first, nodes are left out only together with a report: the parent of a node that
    is left out silently was left out before. -/
theorem foldl_reported {ns : List Node} {known : NodeId → Prop} {p : Placement} (placed : p.graph.WellPlaced)
    (hfirst : ParentsFirst known ns) (hknown : ∀ id, known id → id ∈ p.rejected ∨ id ∈ p.graph.nodes)
    (hrep : ∀ id ∈ p.rejected, ∃ x, x ∈ p.problems) :
    ∀ id ∈ (ns.foldl step p).rejected, ∃ x, x ∈ (ns.foldl step p).problems := by
  induction ns generalizing known p with
  | nil => exact hrep
  | cons n ns ih =>
    refine ih (p := p.step n) (step_placed placed n) hfirst.2 (fun other ho => ?_) ?_
    · have lead := step_leads p n
      rcases ho with ho | rfl
      · exact (hknown other ho).imp lead.rejected lead.grows.mem
      · exact (step_settles placed n).imp_right And.left
    · intro other ho
      rcases step_cases p n with ⟨parent, hpar, hmiss, hs⟩ | ⟨g, hg, hs⟩ | ⟨_, _, _, _, -, hs⟩ <;> rw [hs] at ho ⊢
      · -- The parent is known, so it has been left out itself, and that was reported.
        rcases hknown parent (hfirst.1 parent hpar) with hr | hm
        · exact hrep parent hr
        · rcases hmiss with hr | hm'
          · exact hrep parent hr
          · exact absurd hm hm'
      · exact hrep other ho
      · exact ⟨_, Array.mem_push_self⟩

end Placement

end Graph

end ProgramGraph
