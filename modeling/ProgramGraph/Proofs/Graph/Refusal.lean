import Mathlib.Data.List.Infix
import ProgramGraph.Proofs.Graph.Containment

/-! Placing a list of nodes, seen from outside. Entries may repeat an id, stand for roots, ask for parents in other
    modules and clash with what is stored; whatever they are, nothing stored changes, and what is new stems from an
    entry. An entry is refused in its own turn, or left out because its parent was; only the first is reported
    (`Placement.refusal?`), so a list that comes parents first is placed whole exactly when nothing is reported
    (`Graph.Placed`). The store may have any history: of what came before, only its well-placedness counts. -/

namespace ProgramGraph
open Std

namespace Graph

/-! ### One node -/

/-- An accepted node takes its id if that is free; no other id gets another holder. -/
theorem node?_place? {g g' : Graph} {n : Node} (well : g.WellPlaced) (placed : g.place? n = .ok g') (id : NodeId) :
    g'.node? id = (g.node? id).or (if n.id = id then some n else none) := by
  have added : (g.addNode n).node? id = (g.node? id).or (if n.id = id then some n else none) := by
    rw [node?_addNode]
    cases found : g.node? id with
    | none => simp [node?_eq_none_iff.mp found]
    | some m => simp [mem_nodes_iff.mpr ⟨m, found⟩]
  rcases place?_eq_ok placed with ⟨-, rfl⟩ | ⟨p, _, -, -, -, ⟨kept, rfl⟩ | ⟨-, -, rfl⟩⟩
  · exact added
  · -- The id is held already, under the same parent.
    obtain ⟨m, _, stored, -⟩ := well.parent kept
    by_cases same : n.id = id
    · rw [← same, stored]
      rfl
    · simp [same]
  · exact added

/-- An accepted node stands in the parent that it asks for. -/
theorem parent_of_place? {g g' : Graph} {n : Node} {p : NodeId} (placed : g.place? n = .ok g')
    (asks : n.parent = some p) : g'.parents[n.id]? = some p := by
  rcases place?_eq_ok placed with ⟨root, -⟩ | ⟨q, _, asks', -, -, rest⟩
  · rw [asks] at root
    cases root
  · rw [asks] at asks'
    cases asks'
    rcases rest with ⟨kept, rfl⟩ | ⟨-, -, rfl⟩
    · exact kept
    · rw [parents_hang, if_pos rfl]

namespace Placement

/-! ### One turn -/

/-- The problem for which an entry is refused in its turn. One that is left out with its parent has none. -/
def refusal? (p : Placement) (n : Node) : Option Problem :=
  if n.parent.any fun parent => p.rejected.contains parent then none
  else
    match p.graph.place? n with
    | .ok _ => none
    | .error problem => some problem

/-- An entry whose parent was left out is left out without a word. -/
theorem step_below {p : Placement} {n : Node} {parent : NodeId} (asks : n.parent = some parent)
    (lost : parent ∈ p.rejected) :
    p.refusal? n = none ∧ p.step n = { p with rejected := p.rejected.insert n.id } := by
  have out : p.rejected.contains parent = true := lost
  constructor
  · simp [refusal?, asks, out]
  · simp [step, asks, out]

/-- Any other entry, its parent being there, is placed or refused. -/
theorem step_beside {p : Placement} {n : Node} (kept : ∀ parent, n.parent = some parent → parent ∉ p.rejected)
    (there : ∀ parent, n.parent = some parent → parent ∈ p.graph.nodes) :
    (∃ g, p.graph.place? n = .ok g ∧ p.refusal? n = none ∧ p.step n = { p with graph := g }) ∨
      ∃ x, p.refusal? n = some x ∧
        p.step n = { p with rejected := p.rejected.insert n.id, problems := p.problems.push x } := by
  have inside : (n.parent.any fun parent => p.rejected.contains parent) = false := by
    cases asks : n.parent with
    | none => rfl
    | some parent => exact eq_false_of_ne_true (kept parent asks)
  have open' : (n.parent.any fun parent => p.rejected.contains parent || !p.graph.contains parent) = false := by
    cases asks : n.parent with
    | none => rfl
    | some parent =>
      have out : p.rejected.contains parent = false := eq_false_of_ne_true (kept parent asks)
      have stands : p.graph.contains parent = true := there parent asks
      simp [out, stands]
  unfold refusal? step
  rw [inside, open']
  cases placed : p.graph.place? n with
  | ok g => exact Or.inl ⟨g, rfl, rfl, rfl⟩
  | error x => exact Or.inr ⟨x, rfl, rfl⟩

/-- A turn reports the refusal of its entry and nothing else. -/
theorem problems_step {p : Placement} {n : Node}
    (there : ∀ parent, n.parent = some parent → parent ∈ p.rejected ∨ parent ∈ p.graph.nodes) :
    (p.step n).problems.toList = p.problems.toList ++ (p.refusal? n).toList := by
  by_cases lost : ∃ parent, n.parent = some parent ∧ parent ∈ p.rejected
  · obtain ⟨parent, asks, out⟩ := lost
    obtain ⟨silent, next⟩ := step_below asks out
    rw [silent, next]
    simp
  · have kept : ∀ parent, n.parent = some parent → parent ∉ p.rejected := fun parent asks out =>
      lost ⟨parent, asks, out⟩
    rcases step_beside kept fun parent asks => (there parent asks).resolve_left (kept parent asks) with
      ⟨g, -, silent, next⟩ | ⟨x, told, next⟩
    · rw [silent, next]
      simp
    · rw [told, next]
      simp

theorem node?_step {p : Placement} (well : p.graph.WellPlaced) (n : Node) {id : NodeId}
    (kept : id ∉ (p.step n).rejected) :
    (p.step n).graph.node? id = (p.graph.node? id).or (if n.id = id then some n else none) := by
  rcases step_graph p n with ⟨out, same⟩ | placed
  · have other : n.id ≠ id := ne_of_mem_of_not_mem out kept
    rw [same, if_neg other, Option.or_none]
  · exact node?_place? well placed id

theorem parents_step (p : Placement) {n : Node} {parent : NodeId} (asks : n.parent = some parent)
    (kept : n.id ∉ (p.step n).rejected) : (p.step n).graph.parents[n.id]? = some parent := by
  rcases step_graph p n with ⟨out, -⟩ | placed
  · exact absurd out kept
  · exact parent_of_place? placed asks

/-! ### All turns -/

/-- An id that is not left out is held by its first holder: the one from before, or else its first entry. -/
theorem node?_foldl (ns : List Node) {p : Placement} (well : p.graph.WellPlaced) {id : NodeId}
    (kept : id ∉ (ns.foldl step p).rejected) :
    (ns.foldl step p).graph.node? id = (p.graph.node? id).or (ns.find? fun n => n.id == id) := by
  induction ns generalizing p with
  | nil => simp
  | cons n ns ih =>
    have now : id ∉ (p.step n).rejected := mt (foldl_leads ns (p.step n)).rejected kept
    rw [List.foldl_cons, ih (step_placed well n) kept, node?_step well n now, Option.or_assoc, List.find?_cons]
    by_cases same : n.id = id
    · simp [same]
    · rw [if_neg same, beq_false_of_ne same]
      simp

theorem parents_foldl (ns : List Node) (p : Placement) {n : Node} {parent : NodeId} (member : n ∈ ns)
    (asks : n.parent = some parent) (kept : n.id ∉ (ns.foldl step p).rejected) :
    (ns.foldl step p).graph.parents[n.id]? = some parent := by
  induction ns generalizing p with
  | nil => cases member
  | cons m ns ih =>
    rcases List.mem_cons.mp member with rfl | member
    · have later := foldl_leads ns (p.step n)
      exact later.grows.parent (parents_step p asks (mt later.rejected kept))
    · exact ih (p.step m) member kept

/-- The entries of a list, each in the state in which its turn comes. -/
def turns (p : Placement) (ns : List Node) : List (Placement × Node) :=
  (ns.inits.zip ns).map fun (before, n) => (before.foldl step p, n)

theorem turns_cons (p : Placement) (n : Node) (ns : List Node) : turns p (n :: ns) = (p, n) :: turns (p.step n) ns := by
  unfold turns
  rw [List.inits_cons, List.zip_cons_cons, List.map_cons, List.zip_map_left, List.map_map]
  rfl

/-- What is reported are the refusals, in the order of their turns. -/
theorem problems_foldl {ns : List Node} {known : NodeId → Prop} {p : Placement} (well : p.graph.WellPlaced)
    (first : ParentsFirst known ns) (there : ∀ id, known id → id ∈ p.rejected ∨ id ∈ p.graph.nodes) :
    (ns.foldl step p).problems.toList =
      p.problems.toList ++ (turns p ns).filterMap fun (before, n) => before.refusal? n := by
  induction ns generalizing known p with
  | nil => simp [turns]
  | cons n ns ih =>
    have there' : ∀ id, known id ∨ id = n.id → id ∈ (p.step n).rejected ∨ id ∈ (p.step n).graph.nodes := by
      rintro id (before | rfl)
      · exact (there id before).imp (step_leads p n).rejected (step_leads p n).grows.mem
      · exact (step_settles well n).imp_right And.left
    rw [List.foldl_cons, ih (step_placed well n) first.2 there', problems_step fun q asks => there q (first.1 q asks),
      turns_cons, List.append_assoc]
    cases told : p.refusal? n <;> simp [told]

/-- Whoever is reported is left out. -/
theorem foldl_rejects (ns : List Node) {p : Placement} (before : ∀ x ∈ p.problems, ∃ id, id ∈ p.rejected) :
    ∀ x ∈ (ns.foldl step p).problems, ∃ id, id ∈ (ns.foldl step p).rejected := by
  refine List.foldlRecOn ns step (motive := fun p => ∀ x ∈ p.problems, ∃ id, id ∈ p.rejected) before ?_
  intro p told n _ x member
  rcases step_cases p n with ⟨_, -, -, next⟩ | ⟨g, -, next⟩ | ⟨_, _, _, _, -, next⟩ <;> rw [next] at member ⊢
  · exact ⟨n.id, mem_insert_rejected.mpr (Or.inl rfl)⟩
  · exact told x member
  · exact ⟨n.id, mem_insert_rejected.mpr (Or.inl rfl)⟩

end Placement

/-! ### A list in a store -/

/-- What placing a list of nodes does to a store: what was there stays as it is; what is new are entries and their
    edges of containment; an id that is not left out is held by what was stored under it or else by its first entry,
    and an entry of it stands in its parent; an entry below one that was left out is left out, which alone its turn
    records; the reported problems are the refusals of the other entries, one for each; and nothing is left out
    exactly when nothing is reported. -/
structure Placed (g : Graph) (ns : List Node) (p : Placement) : Prop where
  node : ∀ id n, g.node? id = some n → p.graph.node? id = some n
  edge : ∀ e ∈ g.edges, e ∈ p.graph.edges
  newNode : ∀ id n, p.graph.node? id = some n → id ∉ g.nodes → n ∈ ns ∧ n.id = id
  newEdge : ∀ e ∈ p.graph.edges, e ∉ g.edges → ∃ n ∈ ns, ∃ q, n.parent = some q ∧ e = ⟨q, n.id, .containment⟩
  stored : ∀ n ∈ ns, n.id ∉ p.rejected →
    ∃ m, p.graph.node? n.id = some m ∧ (g.node? n.id).or (ns.find? fun k => k.id == n.id) = some m
  contained : ∀ n ∈ ns, n.id ∉ p.rejected → ∀ q, n.parent = some q →
    p.graph.Contains q n.id ∧ p.graph.parents[n.id]? = some q
  silent : ∀ before n after, ns = before ++ n :: after → ∀ q, n.parent = some q → q ∈ (g.placeAll before).rejected →
    n.id ∈ p.rejected ∧ g.placeAll (before ++ [n]) =
      { g.placeAll before with rejected := (g.placeAll before).rejected.insert n.id }
  problems : p.problems.toList = (Placement.turns { graph := g } ns).filterMap fun (before, n) => before.refusal? n
  whole : (∀ id, id ∉ p.rejected) ↔ p.problems = #[]

section
variable {g : Graph} {ns : List Node}

/-- What is new is listed. -/
theorem listed_of_new (well : (g.placeAll ns).graph.WellPlaced) {id : NodeId} {n : Node}
    (stored : (g.placeAll ns).graph.node? id = some n) (new : id ∉ g.nodes) : n ∈ ns ∧ n.id = id := by
  refine ⟨?_, well.keyed stored⟩
  rcases Placement.foldl_stored ns { graph := g } stored with old | member
  · exact absurd (mem_nodes_iff.mpr ⟨n, old⟩) new
  · exact member

theorem hung_of_new (well : (g.placeAll ns).graph.WellPlaced) {e : Edge} (member : e ∈ (g.placeAll ns).graph.edges)
    (new : e ∉ g.edges) : ∃ n ∈ ns, ∃ q, n.parent = some q ∧ e = ⟨q, n.id, .containment⟩ := by
  obtain ⟨source, target, kind⟩ := e
  rcases Placement.foldl_hangs ns { graph := g } member with old | ⟨rfl, fresh, n, stored, asks⟩
  · exact absurd old new
  · obtain ⟨listed, rfl⟩ := listed_of_new well stored fresh
    exact ⟨n, listed, source, asks, rfl⟩

/-- An entry that is not left out leaves its id to the first holder. -/
theorem stored_of_kept (well : g.WellPlaced) {n : Node} (member : n ∈ ns) (kept : n.id ∉ (g.placeAll ns).rejected) :
    ∃ m, (g.placeAll ns).graph.node? n.id = some m ∧ (g.node? n.id).or (ns.find? fun k => k.id == n.id) = some m := by
  have holder := Placement.node?_foldl ns (p := { graph := g }) well kept
  have listed : (ns.find? fun k => k.id == n.id).isSome := List.find?_isSome.mpr ⟨n, member, beq_self_eq_true _⟩
  have some' : ((g.node? n.id).or (ns.find? fun k => k.id == n.id)).isSome := by
    rw [Option.isSome_or, listed, Bool.or_true]
  obtain ⟨m, first⟩ := Option.isSome_iff_exists.mp some'
  exact ⟨m, holder.trans first, first⟩

/-- The turn of an entry below one that was left out records its id and does nothing else. -/
theorem placeAll_below {before after : List Node} {n : Node} {q : NodeId} (asks : n.parent = some q)
    (lost : q ∈ (g.placeAll before).rejected) :
    n.id ∈ (g.placeAll (before ++ n :: after)).rejected ∧ g.placeAll (before ++ [n]) =
      { g.placeAll before with rejected := (g.placeAll before).rejected.insert n.id } := by
  have next : (g.placeAll before).step n =
      { g.placeAll before with rejected := (g.placeAll before).rejected.insert n.id } :=
    (Placement.step_below asks lost).2
  have now : n.id ∈ ((g.placeAll before).step n).rejected := by
    rw [next]
    exact Placement.mem_insert_rejected.mpr (Or.inl rfl)
  have later : g.placeAll (before ++ n :: after) = after.foldl Placement.step ((g.placeAll before).step n) :=
    List.foldl_append ..
  constructor
  · rw [later]
    exact (Placement.foldl_leads after _).rejected now
  · exact (List.foldl_concat ..).trans next

/-- Where parents come first, nothing is left out exactly when nothing is reported. -/
theorem placeAll_whole_iff (well : g.WellPlaced) (first : ParentsFirst (· ∈ g.nodes) ns) :
    (∀ id, id ∉ (g.placeAll ns).rejected) ↔ (g.placeAll ns).problems = #[] := by
  constructor
  · intro none
    refine Array.eq_empty_iff_forall_not_mem.mpr fun x told => ?_
    obtain ⟨id, lost⟩ := Placement.foldl_rejects ns (p := { graph := g }) (by simp) x told
    exact none id lost
  · intro none id lost
    obtain ⟨x, told⟩ := Placement.foldl_reported (p := { graph := g }) well first (fun id here => Or.inr here)
      (fun id lost => absurd lost TreeSet.not_mem_emptyc) id lost
    have told : x ∈ (g.placeAll ns).problems := told
    rw [none] at told
    exact Array.not_mem_empty x told

theorem Tidy.placed (tidy : g.Tidy) (first : ParentsFirst (· ∈ g.nodes) ns) : g.Placed ns (g.placeAll ns) := by
  have well := tidy.paired.placed
  have after : (g.placeAll ns).graph.Tidy := tidy.apply (.placeAll ns)
  have leads : Placement.Leads { graph := g } (g.placeAll ns) := Placement.foldl_leads ns _
  exact
    { node := fun _ _ stored => leads.grows.node stored
      edge := fun _ member => leads.grows.edge member
      newNode := fun _ _ => listed_of_new after.paired.placed
      newEdge := fun _ => hung_of_new after.paired.placed
      stored := fun _ => stored_of_kept well
      contained := fun n member kept q asks => by
        have recorded := Placement.parents_foldl ns { graph := g } member asks kept
        exact ⟨after.paired.contains_iff.mpr recorded, recorded⟩
      silent := fun before n rest split q asks lost => by
        rw [split]
        exact placeAll_below asks lost
      problems := Placement.problems_foldl (p := { graph := g }) well first fun id here => Or.inr here
      whole := placeAll_whole_iff well first }

end

/-- A list of nodes, each with a parent that is stored or listed before it, is placed in a store of any history. -/
theorem placeAll_places (ops : List Operation) (ns : List Node)
    (first : ParentsFirst (· ∈ (ops.foldl apply empty).nodes) ns) :
    (ops.foldl apply empty).Placed ns ((ops.foldl apply empty).placeAll ns) :=
  (Tidy.run ops).placed first

/-- The theorem for a module whose function has the id of a method in another module, with a parameter below it. -/
theorem placeAll_places_clash :
    let ops : List Operation := [.addNode (.moduleRoot "p"), .addNode (.moduleRoot "p.q"),
      .place { module := "p", label := "q", kind := .classDef, parent := some "p.p" },
      .place { module := "p", label := "q.run", kind := .function, parent := some "p.q" }]
    let ns : List Node := [{ module := "p.q", label := "run", kind := .function, parent := some "p.q.p.q" },
      { module := "p.q", label := "run.x", kind := .argument, parent := some "p.q.run" },
      { module := "p.q", label := "go", kind := .function, parent := some "p.q.p.q" }]
    let g := ops.foldl apply empty
    ParentsFirst (· ∈ g.nodes) ns ∧ g.Placed ns (g.placeAll ns) ∧
      (g.placeAll ns).rejected.toList = ["p.q.run", "p.q.run.x"] ∧
      (g.placeAll ns).problems = #[.duplicateSymbol "p.q.run" "p.q" "p.q.p.q"] ∧
      (g.placeAll ns).graph.contains "p.q.go" = true := by
  intro ops ns g
  have first : ParentsFirst (· ∈ g.nodes) ns := by
    have root : "p.q.p.q" ∈ g.nodes := by decide +kernel
    refine ⟨fun p asks => ?_, fun p asks => ?_, fun p asks => ?_, trivial⟩ <;> cases asks
    · exact root
    · exact Or.inr (by decide)
    · exact Or.inl (Or.inl root)
  exact ⟨first, placeAll_places ops ns first, by decide +kernel, by decide +kernel, by decide +kernel⟩

end Graph

end ProgramGraph
