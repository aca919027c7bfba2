import ProgramGraph.Proofs.Corpus.Containment
import ProgramGraph.Proofs.Corpus.EdgeKinds
import ProgramGraph.Proofs.Resolution.Imports

/-! Imports from outside of the project. An import of a path that the project lacks is accounted for by the node of the
    module it names (`Graph.AccountsFor`), unless a file has taken the id of that node, or a call of a module that is
    called like the module of such nodes is hung on it. -/

namespace ProgramGraph
open Std ProgramGraph.Graph

/-- The graph accounts for an import of a module from outside: its node has the origin, and the importing module an
    edge to it; if it comes from nowhere, no edge ends at it and there is a record of the import. -/
def Graph.AccountsFor (g : Graph) (module target imported : String) (origin : Origin) : Prop :=
  (∃ n, g.node? (Node.external imported origin).id = some n ∧ n.kind = .external ∧ n.origin = some origin) ∧
    if origin = .unresolved then ¬g.Touches (Node.external imported origin).id ∧ g.RecordsImport module target
    else ⟨Dotted.qualify module module, (Node.external imported origin).id, .importing⟩ ∈ g.edges

namespace FileTree
variable {t : FileTree} {labelLimit : Nat} {c : Classifier}

/-- Files list no node from outside of the project. -/
theorem kind_ne_external_of_stored {id : NodeId} {n : Node} (stored : (t.intake labelLimit).graph.node? id = some n) :
    n.kind ≠ .external := by
  intro external
  have root : n.kind.isRoot = true := by rw [external]; rfl
  have top := ((t.intake_planted labelLimit).forest.fits stored).isTop root
  obtain ⟨path, o, member, listed⟩ := lists_of_stored stored
  obtain ⟨rest, nodes, contained⟩ := (t.outlines_listed labelLimit member).root
  rw [nodes] at listed
  rcases List.mem_cons.mp listed with rfl | inner
  · cases external
  · have asks := (contained n inner).2
    rw [top.parent_eq] at asks
    cases asks

theorem module?_of_imports {module target imported : String}
    (imports : (t.intake labelLimit).symbols.Imports module target imported) :
    (t.intake labelLimit).symbols.module? module = some (Dotted.qualify module module) := by
  have all : ∀ module target imported, (t.intake labelLimit).symbols.Imports module target imported →
      ∃ o ∈ (t.intake labelLimit).outlines, o.module = module := by
    refine t.intake_of_steps labelLimit (P := fun i => ∀ module target imported,
      i.symbols.Imports module target imported → ∃ o ∈ i.outlines, o.module = module) ?_ (fun _ _ known => known) ?_
    · rintro module target imported (⟨_, _, bound, -⟩ | ⟨starred, -⟩)
      · simp [Symbols.binding?, Symbols.importsOf] at bound
      · simp [Symbols.wildcardsOf] at starred
    · intro i path o _ _ known module target imported imports
      by_cases same : (o.forget (i.placed o).rejected).module = module
      · exact ⟨_, Array.mem_push_self, same⟩
      · obtain ⟨other, member, is⟩ := known module target imported (Symbols.imports_register same imports)
        exact ⟨other, Array.mem_push_of_mem _ member, is⟩
  obtain ⟨o, stays, rfl⟩ := all module target imported imports
  exact (Intake.registered_ofFiles (t.outlines labelLimit)).registered o stays

/-- A node with an id that entering the files has stored. -/
def Stores (t : FileTree) (labelLimit : Nat) (n : Node) : Prop :=
  n.id ∈ (t.intake labelLimit).graph.nodes

theorem stores_of_id {id : NodeId} {n m : Node} (same : n.id = id)
    (here : (t.intake labelLimit).graph.node? id = some m) : t.Stores labelLimit n := by
  subst same
  exact mem_nodes_iff.mpr ⟨m, here⟩

/-- Links join what entering the files has stored: the names of the project and the callers are such ids. -/
theorem linking_typed_stores : (t.linking labelLimit c).Typed (t.Stores labelLimit) := by
  have stored : ∀ id m, (t.intake labelLimit).graph.node? id = some m → t.Stores labelLimit m :=
    fun _ _ here => stores_of_id ((t.intake_sound labelLimit).graph.placed.keyed here) here
  refine linking_typed_of c stored ?_
  rintro kind id ⟨n, m, -, same, is, here, -⟩
  exact ⟨n, m, Or.inl (stores_of_id same here), same, is, here, Or.inr (stored id m here)⟩

/-- Links end at ids of entered nodes and of modules with a known origin. -/
theorem ends_of_link {e : Edge} (member : e ∈ (t.resolve labelLimit c).edges) (link : e.kind ≠ .containment) {id : NodeId}
    (ends : e.source = id ∨ e.target = id) : ∃ n : Node, n.Given (t.Stores labelLimit) ∧ n.id = id := by
  obtain ⟨_, _, ⟨n, -, given, same, -⟩, ⟨n', -, given', same', -⟩, -⟩ := linking_typed_stores.edges e member link
  rcases ends with rfl | rfl
  · exact ⟨n, given, same⟩
  · exact ⟨n', given', same'⟩

/-! ### Imports -/

section
variable {module target imported : String}

theorem linksOutside (imports : (t.intake labelLimit).symbols.Imports module target imported)
    (lacks : (t.intake labelLimit).symbols.Lacks target) :
    ∃ line, Linking.LinksOutside (Linking.linkImports (t.world labelLimit c) (t.unresolved labelLimit)).graph
      ⟨module, target, imported, line⟩ (Dotted.qualify module module) (c.origin (Dotted.head imported)) := by
  obtain ⟨line, member⟩ := Symbols.exists_importLink imports
  obtain ⟨l, symbols, grows⟩ := Linking.linkImports_at (t.world labelLimit c) (t.unresolved labelLimit) member
  have known : l.symbols.module? module = some (Dotted.qualify module module) := by
    rw [symbols]
    exact module?_of_imports imports
  have lacks : l.symbols.Lacks target := by
    rw [symbols]
    exact lacks
  exact ⟨line, (Linking.linkImport_lacks known lacks).grows grows⟩

theorem grows_linkImports : (Linking.linkImports (t.world labelLimit c) (t.unresolved labelLimit)).graph.Grows
    (t.resolve labelLimit c) :=
  have grows := Linking.grows_linkImports (t.world labelLimit c) (t.unresolved labelLimit)
    (t.intake labelLimit).outlines.toList
  ⟨grows.node, grows.edge, grows.parent, grows.diagnostic⟩

/-- What stands for a module from outside under an id that no file has taken is the node of that module. -/
theorem node?_external {origin : Origin} (free : (Node.external imported origin).id ∉ (t.intake labelLimit).graph.nodes)
    (classified : origin = c.origin (Dotted.head imported)) (stored : (Node.external imported origin).id ∈
      (Linking.linkImports (t.world labelLimit c) (t.unresolved labelLimit)).graph.nodes) :
    (t.resolve labelLimit c).node? (Node.external imported origin).id = some (.external imported origin) := by
  have moves : Linking.Moves (t.world labelLimit c) .importing (fun _ => False) (t.unresolved labelLimit) _ :=
    Linking.linkImports_moves ..
  obtain ⟨n, here⟩ := mem_nodes_iff.mp stored
  rcases moves.node_cases here with before | ⟨module, rfl⟩
  · exact absurd (mem_nodes_iff.mpr ⟨n, before⟩) free
  · have final := grows_linkImports.node here
    obtain ⟨-, rfl⟩ := Node.external_id_inj ((t.resolve_sound labelLimit c).placed.keyed final)
    rw [classified] at final ⊢
    exact final

/-- No edge ends at the node of a module that comes from nowhere, unless a file has taken its id or it contains a node. -/
theorem not_touches_unresolved {origin : Origin} (nowhere : origin = .unresolved)
    (free : (Node.external imported origin).id ∉ (t.intake labelLimit).graph.nodes)
    (stored : (t.resolve labelLimit c).node? (Node.external imported origin).id = some (.external imported origin))
    (empty : ∀ child, ¬(t.resolve labelLimit c).Contains (Node.external imported origin).id child) :
    ¬(t.resolve labelLimit c).Touches (Node.external imported origin).id := by
  rintro ⟨e, member, ends⟩
  -- A root is not contained; an edge of another kind would lead to a listed node or to one of a known origin.
  by_cases contains : e.kind = .containment
  · rcases ends with source | target
    · obtain ⟨_, child, _⟩ := e
      cases contains
      cases source
      exact empty child member
    · exact (t.resolve_forest labelLimit c).nested.root stored rfl e member contains target
  · obtain ⟨n, given, same⟩ := ends_of_link member contains ends
    rcases given with stores | ⟨module, other, known, rfl⟩
    · unfold Stores at stores
      rw [same] at stores
      exact free stores
    · rw [nowhere] at same
      exact Node.externalModule_ne_unresolved known (Node.external_id_inj same).1

/-! Where no module of the project lies in the module that nodes from outside belong to, none of the ids of these is
    taken, and nothing is hung on them. -/

theorem free_of_apart {origin : Origin}
    (apart : ∀ m, t.HasModule labelLimit m → Dotted.head m ≠ Node.externalModule origin) :
    (Node.external imported origin).id ∉ (t.intake labelLimit).graph.nodes := by
  intro taken
  obtain ⟨n, stored⟩ := mem_nodes_iff.mp taken
  obtain ⟨path, o, member, listed⟩ := lists_of_stored stored
  refine apart n.module ⟨path, o, member, ((t.outlines_listed labelLimit member).inModule n listed).symm⟩ ?_
  have same : n.id = (Node.external imported origin).id := (t.intake_sound labelLimit).graph.placed.keyed stored
  calc Dotted.head n.module
    _ = Dotted.head n.id := (Dotted.head_qualify ..).symm
    _ = Dotted.head (Node.external imported origin).id := by rw [same]
    _ = Dotted.head (Node.externalModule origin) := Dotted.head_qualify ..
    _ = Node.externalModule origin := Node.head_externalModule origin

theorem empty_of_apart {origin : Origin}
    (apart : ∀ m, t.HasModule labelLimit m → Dotted.head m ≠ Node.externalModule origin)
    (stored : (t.resolve labelLimit c).node? (Node.external imported origin).id = some (.external imported origin))
    (child : NodeId) : ¬(t.resolve labelLimit c).Contains (Node.external imported origin).id child := by
  intro contains
  have forest := t.resolve_forest labelLimit c
  obtain ⟨n, holder, placed, asks, holds, same⟩ := forest.exists_of_contains contains
  cases stored.symm.trans holds
  have known := ((forest.fits placed).isInner_of_parent asks).1
  rw [← same] at known
  exact apart _ known (Node.head_externalModule origin)

/-- An import of a path that the project lacks always has a node under the id of the module it names, and a record if that
    module comes from nowhere. It is accounted for exactly when no file has taken the id of that node and, if the
    module comes from nowhere, the node contains nothing; so wherever no module of the project lies in the one
    that such nodes belong to. -/
theorem accountsFor_import_iff (t : FileTree) (labelLimit : Nat) (c : Classifier) {module target imported : String}
    (imports : (t.intake labelLimit).symbols.Imports module target imported)
    (lacks : (t.intake labelLimit).symbols.Lacks target) :
    let origin := c.origin (Dotted.head imported)
    let id := (Node.external imported origin).id
    id ∈ (t.resolve labelLimit c).nodes ∧
      (origin = .unresolved → (t.resolve labelLimit c).RecordsImport module target) ∧
      ((t.resolve labelLimit c).AccountsFor module target imported origin ↔
        id ∉ (t.intake labelLimit).graph.nodes ∧
          (origin = .unresolved → ∀ child, ¬(t.resolve labelLimit c).Contains id child)) ∧
      ((∀ m, t.HasModule labelLimit m → Dotted.head m ≠ Node.externalModule origin) →
        (t.resolve labelLimit c).AccountsFor module target imported origin) := by
  intro origin id
  have grows : (Linking.linkImports (t.world labelLimit c) (t.unresolved labelLimit)).graph.Grows
      (t.resolve labelLimit c) := grows_linkImports
  obtain ⟨line, links⟩ := linksOutside (c := c) imports lacks
  have stored (free : id ∉ (t.intake labelLimit).graph.nodes) :
      (t.resolve labelLimit c).node? id = some (.external imported origin) := node?_external free rfl links.stored
  have accounts (free : id ∉ (t.intake labelLimit).graph.nodes)
      (empty : origin = .unresolved → ∀ child, ¬(t.resolve labelLimit c).Contains id child) :
      (t.resolve labelLimit c).AccountsFor module target imported origin := by
    refine ⟨⟨_, stored free, rfl, rfl⟩, ?_⟩
    split
    · rename_i nowhere
      exact ⟨not_touches_unresolved nowhere free (stored free) (empty nowhere),
        grows.recordsImport (links.recorded nowhere)⟩
    · rename_i known
      have root := (t.intake_sound labelLimit).names.modules (module?_of_imports imports)
      have apart : Dotted.qualify module module ≠ id := by
        intro same
        rw [same] at root
        exact free root
      exact grows.edge (links.linked known apart)
  refine ⟨grows.mem links.stored, fun nowhere => grows.recordsImport (links.recorded nowhere),
    ⟨?_, fun ⟨free, empty⟩ => accounts free empty⟩, fun apart => ?_⟩
  · rintro ⟨⟨n, found, external, -⟩, rest⟩
    refine ⟨fun taken => ?_, fun nowhere child contains => ?_⟩
    · obtain ⟨m, before⟩ := mem_nodes_iff.mp taken
      cases ((t.grows_resolve labelLimit c).node before).symm.trans found
      exact kind_ne_external_of_stored before external
    · rw [if_pos nowhere] at rest
      exact rest.1 ⟨_, contains, Or.inl rfl⟩
  · have free : id ∉ (t.intake labelLimit).graph.nodes := free_of_apart apart
    exact accounts free fun _ child => empty_of_apart apart (stored free) child

end

set_option maxRecDepth 100000 in
/-- Two imports from outside, of which one has the name of a function of a module called `External`. -/
theorem imports_beside_external :
    let i := (FileTree.ofFiles [("External.py", "def os(): 0\n"), ("m.py", "import os\nimport ghost\n")]).intake 48
    (i.symbols.Imports "m" "os" "os" ∧ i.symbols.Imports "m" "ghost" "ghost") ∧
      (i.symbols.Lacks "os" ∧ i.symbols.Lacks "ghost") ∧
      (i.graph.node? "External.os").map (fun n => n.kind) = some .function := by
  intro i
  have unit : (FileTree.ofFiles [("External.py", "def os(): 0\n"), ("m.py", "import os\nimport ghost\n")]).units =
      [⟨"External.py", "External", "def os(): 0\n"⟩, ⟨"m.py", "m", "import os\nimport ghost\n"⟩] :=
    units_of_sorted (by decide +kernel) (by decide +kernel)
  have checked : (i.symbols.binding? "m" "os" = some ⟨"os", "os", 1⟩ ∧
      i.symbols.binding? "m" "ghost" = some ⟨"ghost", "ghost", 2⟩) ∧
      (i.symbols.Lacks "os" ∧ i.symbols.Lacks "ghost") ∧
      (i.graph.node? "External.os").map (fun n => n.kind) = some .function := by
    simp only [i, intake_of_units 48 unit]
    decide +kernel
  obtain ⟨⟨bound, bound'⟩, rest⟩ := checked
  exact ⟨⟨Or.inl ⟨_, _, bound, rfl, rfl⟩, Or.inl ⟨_, _, bound', rfl, rfl⟩⟩, rest⟩

/-- The theorem for an import from nowhere. -/
theorem accountsFor_import_iff_ghost :
    let t := FileTree.ofFiles [("External.py", "def os(): 0\n"), ("m.py", "import os\nimport ghost\n")]
    let c := Classifier.ofPackages [] false
    (t.intake 48).symbols.Imports "m" "ghost" "ghost" ∧ (t.intake 48).symbols.Lacks "ghost" ∧
      (t.resolve 48 c).AccountsFor "m" "ghost" "ghost" .unresolved := by
  intro t c
  obtain ⟨⟨-, imports⟩, ⟨-, lacks⟩, -⟩ := imports_beside_external
  have nowhere : c.origin (Dotted.head "ghost") = .unresolved := by decide +kernel
  have unit : t.units = [⟨"External.py", "External", "def os(): 0\n"⟩, ⟨"m.py", "m", "import os\nimport ghost\n"⟩] :=
    units_of_sorted (by decide +kernel) (by decide +kernel)
  have apart : ∀ m, t.HasModule 48 m → Dotted.head m ≠ Node.externalModule (c.origin (Dotted.head "ghost")) := by
    rintro m ⟨path, o, member, rfl⟩
    obtain ⟨u, here, statements, -, -, rfl⟩ := t.outlines_cases 48 member
    have other : Dotted.head u.module ≠ Node.externalModule .unresolved := by
      rw [unit] at here
      simp only [List.mem_cons, List.not_mem_nil, or_false] at here
      rcases here with rfl | rfl <;> decide +kernel
    rw [nowhere]
    exact other
  have accounts := (accountsFor_import_iff t 48 c imports lacks).2.2.2 apart
  rw [nowhere] at accounts
  exact ⟨imports, lacks, accounts⟩

/-- A function of a module that is called like the one of nodes from outside stands for the import of its name. -/
theorem function_stands_for_an_import :
    let t := FileTree.ofFiles [("External.py", "def os(): 0\n"), ("m.py", "import os\nimport ghost\n")]
    let c := Classifier.ofPackages [] false
    (t.intake 48).symbols.Imports "m" "os" "os" ∧ (t.intake 48).symbols.Lacks "os" ∧
      c.origin (Dotted.head "os") = .standardLibrary ∧
      ((t.resolve 48 c).node? "External.os").map (fun n => n.kind) = some .function ∧
      ¬(t.resolve 48 c).AccountsFor "m" "os" "os" .standardLibrary := by
  intro t c
  obtain ⟨⟨imports, -⟩, ⟨lacks, -⟩, stored⟩ := imports_beside_external
  obtain ⟨n, stored, function⟩ := Option.map_eq_some_iff.mp stored
  have final := (t.grows_resolve 48 c).node stored
  refine ⟨imports, lacks, by decide +kernel, Option.map_eq_some_iff.mpr ⟨n, final, function⟩, ?_⟩
  rintro ⟨⟨m, there, external, -⟩, -⟩
  have there : (t.resolve 48 c).node? "External.os" = some m := there
  cases there.symm.trans final
  rw [function] at external
  cases external

end FileTree

end ProgramGraph
