import ProgramGraph.Proofs.Graph.Containment

/-! Containment as a forest. The edges of containment, the recorded parents and the parents that nodes ask for
    say the same, and from every node the parents lead up to a root (`Graph.Forest`). Adding a root, placing a
    node that asks for a parent, and linking keep this; so containment has no cycle, and a node that is no
    root has one containment edge, from the parent it asks for. -/

namespace ProgramGraph
open Std Relation

namespace Node

/-- The root of a module, or a module outside of the project. -/
def IsTop (n : Node) : Prop :=
  (∃ name, n = .moduleRoot name) ∨ ∃ name origin, n = .external name origin

/-- A node of one of some modules that stands in another node. -/
def IsInner (modules : String → Prop) (n : Node) : Prop :=
  modules n.module ∧ n.parent.isSome = true ∧ n.kind.isRoot = false

/-- A node at the top, or inside one of some modules. -/
def Fits (modules : String → Prop) (n : Node) : Prop :=
  n.IsTop ∨ n.IsInner modules

theorem IsTop.parent_eq {n : Node} (top : n.IsTop) : n.parent = none := by
  rcases top with ⟨name, rfl⟩ | ⟨name, origin, rfl⟩ <;> rfl

theorem IsTop.kind_cases {n : Node} (top : n.IsTop) : n.kind = .module ∨ n.kind = .external := by
  rcases top with ⟨name, rfl⟩ | ⟨name, origin, rfl⟩
  · exact Or.inl rfl
  · exact Or.inr rfl

theorem IsTop.isRoot {n : Node} (top : n.IsTop) : n.kind.isRoot = true := by
  rcases top.kind_cases with kind | kind <;> rw [kind] <;> rfl

theorem IsTop.external_module {n : Node} (top : n.IsTop) (external : n.kind = .external) :
    n.module = "External" ∨ n.module = "Unresolved" := by
  rcases top with ⟨name, rfl⟩ | ⟨name, origin, rfl⟩
  · cases external
  · cases origin
    · exact Or.inl rfl
    · exact Or.inl rfl
    · exact Or.inr rfl

section
variable {modules : String → Prop} {n : Node}

theorem Fits.mono {more : String → Prop} (fits : n.Fits modules) (sub : ∀ m, modules m → more m) : n.Fits more :=
  fits.imp_right fun ⟨here, rest⟩ => ⟨sub _ here, rest⟩

theorem Fits.isTop (fits : n.Fits modules) (root : n.kind.isRoot = true) : n.IsTop := by
  rcases fits with top | ⟨-, -, inner⟩
  · exact top
  · rw [root] at inner
    cases inner

theorem Fits.isTop_of_parent (fits : n.Fits modules) (free : n.parent = none) : n.IsTop := by
  rcases fits with top | ⟨-, asks, -⟩
  · exact top
  · rw [free] at asks
    cases asks

theorem Fits.isInner (fits : n.Fits modules) (inner : n.kind.isRoot = false) : n.IsInner modules := by
  rcases fits with top | within
  · rw [top.isRoot] at inner
    cases inner
  · exact within

theorem Fits.isInner_of_parent (fits : n.Fits modules) {p : NodeId} (asks : n.parent = some p) : n.IsInner modules := by
  rcases fits with top | within
  · rw [top.parent_eq] at asks
    cases asks
  · exact within

end

end Node

namespace Graph

/-! ### The invariant -/

/-- The parents that nodes ask for lead from `id` up to the root `r`. -/
inductive LeadsUp (g : Graph) : NodeId → Node → Prop
  | root {id : NodeId} {n : Node} : g.node? id = some n → n.parent = none → LeadsUp g id n
  | up {id p : NodeId} {n r : Node} : g.node? id = some n → n.parent = some p → LeadsUp g p r → LeadsUp g id r

theorem Grows.leadsUp {g g' : Graph} (grows : Grows g g') {id : NodeId} {r : Node} (up : g.LeadsUp id r) :
    g'.LeadsUp id r := by
  induction up with
  | root stored free => exact .root (grows.node stored) free
  | up stored asks _ ih => exact .up (grows.node stored) asks ih

/-- The edges of containment, the recorded parents and the fields of the nodes agree, and the parents of
    every node end. -/
structure Forest (modules : String → Prop) (g : Graph) : Prop where
  placed : g.WellPlaced
  contains_iff : ∀ {p id : NodeId}, g.Contains p id ↔ g.parents[id]? = some p
  recorded : ∀ {id : NodeId} {n : Node}, g.node? id = some n → g.parents[id]? = n.parent
  fits : ∀ {id : NodeId} {n : Node}, g.node? id = some n → n.Fits modules
  leadsUp : ∀ {id : NodeId} {n : Node}, g.node? id = some n → ∃ r, g.LeadsUp id r

namespace Forest
variable {modules : String → Prop} {g : Graph}

theorem paired (forest : Forest modules g) : g.Paired :=
  ⟨forest.placed, forest.contains_iff⟩

theorem empty : Forest modules {} where
  placed := Sound.empty.placed
  contains_iff := Paired.empty.contains_iff
  recorded stored := by simp [node?] at stored
  fits stored := by simp [node?] at stored
  leadsUp stored := by simp [node?] at stored

/-- An id that is not stored has no recorded parent. -/
theorem unrecorded (forest : Forest modules g) {id : NodeId} (free : id ∉ g.nodes) : g.parents[id]? = none := by
  cases recorded : g.parents[id]? with
  | none => rfl
  | some p =>
    obtain ⟨n, -, stored, -⟩ := forest.placed.parent recorded
    exact absurd (mem_nodes_iff.mpr ⟨n, stored⟩) free

/-! ### Changes -/

theorem of_eq (forest : Forest modules g) {g' : Graph} (nodes : g'.nodes = g.nodes) (parents : g'.parents = g.parents)
    (edges : ∀ p id, g'.Contains p id ↔ g.Contains p id) : Forest modules g' := by
  have same : ∀ id, g'.node? id = g.node? id := fun id => by
    unfold node?
    rw [nodes]
  have grows : ∀ {id : NodeId} {r : Node}, g.LeadsUp id r → g'.LeadsUp id r := by
    intro id r up
    induction up with
    | root stored free => exact .root ((same _).trans stored) free
    | up stored asks _ ih => exact .up ((same _).trans stored) asks ih
  exact
    { placed := forest.placed.of_eq nodes parents
      contains_iff := (forest.paired.of_eq nodes parents edges).contains_iff
      recorded := fun {id n} stored => by
        rw [parents]
        exact forest.recorded ((same id).symm.trans stored)
      fits := fun {id n} stored => forest.fits ((same id).symm.trans stored)
      leadsUp := fun {id n} stored => by
        obtain ⟨r, up⟩ := forest.leadsUp ((same id).symm.trans stored)
        exact ⟨r, grows up⟩ }

theorem report (forest : Forest modules g) (p : Problem) (path : Option String) (line : Option Nat) :
    Forest modules (g.report p path line) :=
  forest.of_eq (nodes_report ..) (parents_report ..) fun _ _ => by
    unfold Contains
    rw [edges_report]

theorem reportAll (path : Option String) (ps : List Problem) {g : Graph} (forest : Forest modules g) :
    Forest modules (ps.foldl (fun g p => g.report p path) g) :=
  List.foldlRecOn ps _ (motive := Forest modules) forest fun _ forest p _ => forest.report p path none

theorem addEdge (forest : Forest modules g) {e : Edge} (kind : e.kind ≠ .containment) : Forest modules (g.addEdge e) :=
  forest.of_eq rfl rfl (contains_addEdge kind)

theorem addNode (forest : Forest modules g) {n : Node} (top : n.IsTop) : Forest modules (g.addNode n) where
  placed := forest.placed.addNode n
  contains_iff := forest.contains_iff
  recorded {id m} stored := by
    rcases node?_addNode_cases stored with ⟨-, new, rfl⟩ | stored
    · exact (forest.unrecorded new).trans top.parent_eq.symm
    · exact forest.recorded stored
  fits {id m} stored := by
    rcases node?_addNode_cases stored with ⟨-, -, rfl⟩ | stored
    · exact Or.inl top
    · exact forest.fits stored
  leadsUp {id m} stored := by
    rcases node?_addNode_cases stored with ⟨-, -, rfl⟩ | before
    · exact ⟨m, .root stored top.parent_eq⟩
    · obtain ⟨r, up⟩ := forest.leadsUp before
      exact ⟨r, (Grows.addNode g n).leadsUp up⟩

theorem hang (forest : Forest modules g) {n holder : Node} {p : NodeId} (inner : n.IsInner modules)
    (asks : n.parent = some p) (stands : g.node? p = some holder) (same : holder.module = n.module)
    (free : g.parents[n.id]? = none) (new : g.node? n.id = none) : Forest modules (g.hang n p) := by
  have grows : Grows g (g.hang n p) := Grows.hang free
  -- The id of the node was free, so all other ids give what they gave.
  have cases_stored : ∀ {id : NodeId} {m : Node}, (g.hang n p).node? id = some m →
      (n.id = id ∧ m = n) ∨ (n.id ≠ id ∧ g.node? id = some m) := by
    intro id m stored
    refine (node?_addNode_cases stored).imp (fun ⟨here, _, same⟩ => ⟨here, same⟩) fun before => ⟨?_, before⟩
    rintro rfl
    rw [new] at before
    cases before
  exact
    { placed := forest.placed.hang asks stands same free new
      contains_iff := (forest.paired.hang asks stands same free new).contains_iff
      recorded := fun {id m} stored => by
        rw [parents_hang]
        rcases cases_stored stored with ⟨rfl, rfl⟩ | ⟨other, stored⟩
        · rw [if_pos rfl, asks]
        · rw [if_neg other]
          exact forest.recorded stored
      fits := fun {id m} stored => by
        rcases cases_stored stored with ⟨rfl, rfl⟩ | ⟨-, stored⟩
        · exact Or.inr inner
        · exact forest.fits stored
      leadsUp := fun {id m} stored => by
        rcases cases_stored stored with ⟨rfl, rfl⟩ | ⟨-, stored⟩
        · obtain ⟨r, up⟩ := forest.leadsUp stands
          exact ⟨r, .up stored asks (grows.leadsUp up)⟩
        · obtain ⟨r, up⟩ := forest.leadsUp stored
          exact ⟨r, grows.leadsUp up⟩ }

theorem place? (forest : Forest modules g) {g' : Graph} {n : Node} (fits : n.Fits modules) (placed : g.place? n = .ok g') :
    Forest modules g' := by
  rcases place?_eq_ok placed with ⟨free, rfl⟩ | ⟨p, holder, asks, stands, same, ⟨-, rfl⟩ | ⟨free, new, rfl⟩⟩
  · exact forest.addNode (fits.isTop_of_parent free)
  · exact forest
  · exact forest.hang (fits.isInner_of_parent asks) asks stands same free new

theorem step {p : Placement} (forest : Forest modules p.graph) {n : Node} (fits : n.Fits modules) :
    Forest modules (p.step n).graph := by
  rcases p.step_graph n with ⟨-, same⟩ | placed
  · rwa [same]
  · exact forest.place? fits placed

theorem placeAll (forest : Forest modules g) {ns : List Node} (fits : ∀ n ∈ ns, n.Fits modules) :
    Forest modules (g.placeAll ns).graph :=
  List.foldlRecOn ns Placement.step (motive := fun p : Placement => Forest modules p.graph) forest
    fun _ forest n member => forest.step (fits n member)

/-! ### What a forest says -/

theorem contains_parent (forest : Forest modules g) {id : NodeId} {n : Node} (stored : g.node? id = some n) {p : NodeId} :
    g.Contains p id ↔ n.parent = some p := by
  rw [forest.contains_iff, forest.recorded stored]

/-- A contained node is stored, in a stored node of its module. -/
theorem exists_of_contains (forest : Forest modules g) {p id : NodeId} (contains : g.Contains p id) :
    ∃ n holder, g.node? id = some n ∧ n.parent = some p ∧ g.node? p = some holder ∧ holder.module = n.module :=
  forest.paired.exists_of_contains contains

/-- What leads up to a root is on no cycle: the way round would go through each parent on the way up. -/
theorem acyclic_of_leadsUp (forest : Forest modules g) {id : NodeId} {r : Node} (up : g.LeadsUp id r) :
    ¬TransGen g.Contains id id := by
  induction up with
  | root stored free =>
    intro way
    obtain ⟨p, -, last⟩ := TransGen.tail'_iff.mp way
    rw [forest.contains_parent stored, free] at last
    cases last
  | up stored asks _ ih =>
    intro way
    obtain ⟨p, start, last⟩ := TransGen.tail'_iff.mp way
    rw [forest.contains_parent stored, asks] at last
    cases last
    exact ih (TransGen.head' ((forest.contains_parent stored).mpr asks) start)

theorem acyclic (forest : Forest modules g) (id : NodeId) : ¬TransGen g.Contains id id := by
  intro way
  obtain ⟨p, -, last⟩ := TransGen.tail'_iff.mp way
  obtain ⟨n, -, stored, -⟩ := forest.exists_of_contains last
  obtain ⟨r, up⟩ := forest.leadsUp stored
  exact forest.acyclic_of_leadsUp up way

end Forest

/-! ### The laws of containment -/

/-- Containment as a graph should have it: a node of a kind that is no root has exactly one containment edge,
    from the stored parent of its module that it asks for; a root has none; there is no cycle; and only
    roots can be orphans. -/
structure Nested (g : Graph) : Prop where
  inner : ∀ {id : NodeId} {n : Node}, g.node? id = some n → n.kind.isRoot = false →
    ∃ p holder, n.parent = some p ∧ g.node? p = some holder ∧ holder.module = n.module ∧
      ∀ e : Edge, (e ∈ g.edges ∧ e.kind = .containment ∧ e.target = id) ↔ e = ⟨p, id, .containment⟩
  root : ∀ {id : NodeId} {n : Node}, g.node? id = some n → n.kind.isRoot = true →
    ∀ e ∈ g.edges, e.kind = .containment → e.target ≠ id
  acyclic : ∀ id, ¬TransGen g.Contains id id
  orphan : ∀ {id : NodeId} {n : Node}, g.node? id = some n → g.IsOrphan id → n.kind.isRoot = true

/-- Going from `id` from parent to parent ends at the node `r`. -/
inductive EndsAt (g : Graph) : NodeId → Node → Prop
  | here {id : NodeId} {n : Node} : g.node? id = some n → g.parent? id = none → EndsAt g id n
  | up {id : NodeId} {n r : Node} : g.parent? id = some n → EndsAt g n.id r → EndsAt g id r

namespace Forest
variable {modules : String → Prop} {g : Graph}

theorem nested (forest : Forest modules g) : g.Nested where
  inner {id n} stored kind := by
    obtain ⟨-, asks, -⟩ := (forest.fits stored).isInner kind
    obtain ⟨p, asks⟩ := Option.isSome_iff_exists.mp asks
    -- What contains a node is told by the parent that it asks for, so there is one.
    have contained := (forest.contains_parent stored).mpr asks
    obtain ⟨n', holder, stored', -, stands, same⟩ := forest.exists_of_contains contained
    rw [stored] at stored'
    cases stored'
    refine ⟨p, holder, asks, stands, same, fun e => ⟨?_, ?_⟩⟩
    · obtain ⟨source, target, kind⟩ := e
      rintro ⟨member, rfl, rfl⟩
      have asks' := (forest.contains_parent stored).mp member
      rw [asks] at asks'
      cases asks'
      rfl
    · rintro rfl
      exact ⟨contained, rfl, rfl⟩
  root {id n} stored kind e member contains := by
    obtain ⟨source, target, _⟩ := e
    cases contains
    rintro rfl
    have asks := (forest.contains_parent stored).mp member
    rw [((forest.fits stored).isTop kind).parent_eq] at asks
    cases asks
  acyclic := forest.acyclic
  orphan {id n} stored lone := by
    cases kind : n.kind.isRoot with
    | true => rfl
    | false =>
      obtain ⟨-, asks, -⟩ := (forest.fits stored).isInner kind
      obtain ⟨p, asks⟩ := Option.isSome_iff_exists.mp asks
      exact absurd ⟨_, (forest.contains_parent stored).mpr asks, Or.inr rfl⟩ lone.2

theorem parent?_eq (forest : Forest modules g) {id : NodeId} {n : Node} (stored : g.node? id = some n) :
    g.parent? id = n.parent.bind g.node? := by
  unfold parent?
  rw [forest.recorded stored]

theorem parent?_of_asks (forest : Forest modules g) {id p : NodeId} {n holder : Node} (stored : g.node? id = some n)
    (asks : n.parent = some p) (stands : g.node? p = some holder) : g.parent? id = some holder := by
  rw [forest.parent?_eq stored, asks]
  exact stands

/-- The parents of a node end at a root of its module. -/
theorem endsAt (forest : Forest modules g) {id : NodeId} {n r : Node} (stored : g.node? id = some n) (up : g.LeadsUp id r) :
    g.EndsAt id r ∧ r.module = n.module ∧ r.IsTop := by
  induction up generalizing n with
  | root here free =>
    rw [here] at stored
    cases stored
    refine ⟨.here here ?_, rfl, (forest.fits here).isTop_of_parent free⟩
    rw [forest.parent?_eq here, free]
    rfl
  | up here asks _ ih =>
    rw [here] at stored
    cases stored
    obtain ⟨_, holder, stored', asks', stands, same⟩ :=
      forest.exists_of_contains ((forest.contains_parent here).mpr asks)
    obtain ⟨ends, module, top⟩ := ih stands
    rw [here] at stored'
    cases stored'
    refine ⟨.up (forest.parent?_of_asks here asks stands) ?_, module.trans same, top⟩
    rwa [forest.placed.keyed stands]

/-- The root above a contained node contains something, at least that node. -/
theorem root_contains (forest : Forest modules g) {id : NodeId} {n r : Node} (stored : g.node? id = some n)
    (asks : n.parent.isSome = true) (up : g.LeadsUp id r) : g.node? r.id = some r ∧ ∃ child, g.Contains r.id child := by
  induction up generalizing n with
  | root here free =>
    rw [here] at stored
    cases stored
    rw [free] at asks
    cases asks
  | up here parent above ih =>
    -- One step below the root, the contained child is the node itself.
    have contained := (forest.contains_parent here).mpr parent
    obtain ⟨_, holder, -, -, stands, -⟩ := forest.exists_of_contains contained
    cases higher : holder.parent with
    | some q => exact ih stands (by rw [higher]; rfl)
    | none =>
      cases above with
      | root top _ =>
        have key := forest.placed.keyed top
        subst key
        exact ⟨top, _, contained⟩
      | up there higher' _ =>
        rw [stands] at there
        cases there
        rw [higher] at higher'
        cases higher'

/-- The parents of all contained nodes end at roots of modules exactly when no node from outside of the project
    contains anything. -/
theorem ends_at_modules_iff (forest : Forest modules g) :
    (∀ (id : NodeId) (n : Node), g.node? id = some n → n.kind.isRoot = false →
        ∃ r, g.EndsAt id r ∧ r.kind = .module ∧ r.module = n.module) ↔
      ∀ (id : NodeId) (n : Node), g.node? id = some n → n.kind = .external → ∀ child, ¬g.Contains id child := by
  constructor
  · intro ends id n stored kind child contained
    obtain ⟨m, _, inside, asks, stands, -⟩ := forest.exists_of_contains contained
    rw [stored] at stands
    cases stands
    obtain ⟨-, -, inner⟩ := (forest.fits inside).isInner_of_parent asks
    obtain ⟨r, way, module, -⟩ := ends child m inside inner
    have up : g.parent? child = some n := forest.parent?_of_asks inside asks stored
    have top : g.parent? n.id = none := by
      have free := ((forest.fits stored).isTop (by rw [kind]; rfl)).parent_eq
      rw [forest.placed.keyed stored, forest.parent?_eq stored, free]
      rfl
    -- The way goes from the child to the node from outside and stops there.
    cases way with
    | here _ none =>
      rw [up] at none
      cases none
    | up next way =>
      rw [up] at next
      cases next
      cases way with
      | here stored' _ =>
        rw [forest.placed.keyed stored, stored] at stored'
        cases stored'
        rw [kind] at module
        cases module
      | up next _ =>
        rw [top] at next
        cases next
  · intro bare id n stored inner
    obtain ⟨-, asks, -⟩ := (forest.fits stored).isInner inner
    obtain ⟨r, up⟩ := forest.leadsUp stored
    obtain ⟨ends, module, top⟩ := forest.endsAt stored up
    obtain ⟨here, child, contained⟩ := forest.root_contains stored asks up
    refine ⟨r, ends, top.kind_cases.resolve_right fun external => ?_, module⟩
    exact bare r.id r here external child contained

end Forest

end Graph

end ProgramGraph
