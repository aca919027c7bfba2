import ProgramGraph.Proofs.FileTree
import ProgramGraph.Proofs.Outline.Listing
import ProgramGraph.Proofs.Resolution

/-! The graph of a whole tree of files. Entering a file keeps what a resolution needs of its start: the
    graph is sound, all names and all makers of calls are stored, and every stored node belongs to a
    module that a file holds (`Intake.Sound`). Hence the resolved graph of every tree is sound. -/

namespace ProgramGraph
open Std

namespace Graph

/-- A taken name is on record for a file. -/
def Reported (g : Graph) (path : String) : Prop :=
  ∃ d ∈ g.diagnostics, d.kind = .duplicateSymbol ∧ d.path = some path

theorem Grows.reported {g g' : Graph} (h : Grows g g') {path : String} (reported : g.Reported path) :
    g'.Reported path := by
  obtain ⟨d, member, kind, place⟩ := reported
  exact ⟨d, h.diagnostic member, kind, place⟩

theorem report_reported (g : Graph) (qualname kept rejected path : String) (line : Option Nat) :
    (g.report (.duplicateSymbol qualname kept rejected) (some path) line).Reported path :=
  exists_report g (some path) line qualname kept rejected

theorem reportAll_reported {path qualname kept rejected : String} (ps : List Problem) (g : Graph)
    (member : .duplicateSymbol qualname kept rejected ∈ ps) :
    (ps.foldl (fun g p => g.report p (some path)) g).Reported path := by
  induction ps generalizing g with
  | nil => cases member
  | cons p ps ih =>
    rcases List.mem_cons.mp member with rfl | member
    · exact (Grows.reportAll _ ps _).reported (report_reported ..)
    · exact ih _ member

end Graph

namespace Intake

/-- What holds while files are entered. -/
structure Sound (i : Intake) : Prop where
  graph : i.graph.Sound
  names : i.symbols.All (· ∈ i.graph.nodes)
  scopes : ∀ o ∈ i.outlines, ∀ site ∈ o.callSites, site.scope ∈ i.graph.nodes
  modules : ∀ {id n}, i.graph.node? id = some n → n.module ∈ i.holders

theorem Sound.empty : Sound {} where
  graph := .empty
  names := .empty
  scopes := by simp
  modules := fun stored => by simp [Graph.node?] at stored

/-! ### One file -/

section
variable {i : Intake} {path : String} {o : Outline}

theorem grows_skip (i : Intake) (path : String) (p : Problem) : i.graph.Grows (i.skip path p).graph :=
  .report ..

theorem Sound.skip (sound : i.Sound) (path : String) (p : Problem) : (i.skip path p).Sound where
  graph := sound.graph.report ..
  names := sound.names.mono fun _ => (grows_skip i path p).mem
  scopes o member site here := (grows_skip i path p).mem (sound.scopes o member site here)
  modules := fun stored => by
    unfold Intake.skip at stored
    rw [Graph.node?_report] at stored
    exact sound.modules stored

/-- The graph with the nodes of one more outline, before their problems are recorded. -/
def placed (i : Intake) (o : Outline) : Graph.Placement :=
  i.graph.placeAll o.nodes

theorem graph_enter : (i.enter path o).graph =
    ((i.placed o).problems ++ (i.symbols.register (o.forget (i.placed o).rejected)).2).toList.foldl
      (fun g p => g.report p (some path)) (i.placed o).graph := by
  exact (Array.foldl_toList ..).symm

theorem grows_enter_placed : (i.placed o).graph.Grows (i.enter path o).graph := by
  rw [graph_enter]
  exact .reportAll ..

theorem grows_enter : i.graph.Grows (i.enter path o).graph :=
  (Graph.Placement.foldl_leads o.nodes { graph := i.graph }).grows.trans grows_enter_placed

/-- A listed node that was not rejected is stored. -/
theorem mem_enter (sound : i.Sound) {id : NodeId} (listed : ∃ n ∈ o.nodes, n.id = id)
    (kept : id ∉ (i.placed o).rejected) : id ∈ (i.enter path o).graph.nodes := by
  obtain ⟨n, member, rfl⟩ := listed
  have stored := (Graph.Placement.foldl_settles o.nodes sound.graph.placed n member).resolve_left kept
  exact grows_enter_placed.mem stored.1

/-- The root of a module is placed first. -/
theorem placed_root {rest : List Node} (nodes : o.nodes = .moduleRoot o.module :: rest) :
    i.placed o = rest.foldl Graph.Placement.step { graph := i.graph.addNode (.moduleRoot o.module) } := by
  unfold placed Graph.placeAll
  rw [nodes, List.foldl_cons, Graph.Placement.step_root _ rfl]

theorem root_mem_enter (listed : o.Listed) : o.moduleId ∈ (i.enter path o).graph.nodes := by
  obtain ⟨rest, nodes, -⟩ := listed.root
  refine grows_enter_placed.mem ?_
  rw [placed_root nodes]
  exact (Graph.Placement.foldl_leads rest _).grows.mem (Graph.mem_nodes_addNode.mpr (Or.inl rfl))

/-- What is left of an outline declares and calls from stored nodes only. -/
theorem Sound.enter (sound : i.Sound) (listed : o.Listed) : (i.enter path o).Sound where
  graph := by
    rw [graph_enter]
    exact .reportAll _ _ (Graph.Placement.foldl_sound o.nodes sound.graph)
  names := by
    have before : i.symbols.All (· ∈ (i.enter path o).graph.nodes) := sound.names.mono fun _ => grows_enter.mem
    refine before.register ?_ (fun c member => ?_) (fun d member => ?_)
    · rw [Outline.moduleId_forget]
      exact root_mem_enter listed
    · obtain ⟨member, kept⟩ := Outline.mem_classes_forget member
      exact mem_enter sound (listed.classes c member) kept
    · obtain ⟨member, kept⟩ := Outline.mem_functions_forget member
      exact mem_enter sound (listed.functions d member) kept
  scopes other member site here := by
    rcases Array.mem_push.mp member with member | rfl
    · exact grows_enter.mem (sound.scopes other member site here)
    · obtain ⟨⟨old, listed_site, _, rfl⟩, kept⟩ := Outline.mem_callSites_forget here
      exact mem_enter sound (listed.scopes old listed_site) kept
  modules {id n} stored := by
    rw [graph_enter, Graph.node?_reportAll] at stored
    refine TreeMap.mem_insert.mpr ?_
    rcases Graph.Placement.foldl_stored o.nodes { graph := i.graph } stored with stored | member
    · exact Or.inr (sound.modules stored)
    · exact Or.inl (Std.compare_eq_iff_eq.mpr (listed.inModule n member).symm)

/-- A file is skipped with a report, or it is entered. -/
theorem add_cases (i : Intake) (path : String) (o : Outline) :
    (∃ kept, i.holders[o.module]? = some kept ∧
        i.add (path, .ok o) = i.skip path (.duplicateSymbol o.module kept path)) ∨
      (i.holders[o.module]? = none ∧ i.add (path, .ok o) = i.enter path o) := by
  unfold add
  simp only
  split
  · rename_i kept held
    exact Or.inl ⟨kept, held, rfl⟩
  · rename_i free
    exact Or.inr ⟨free, rfl⟩

/-- What comes of taking in a file, whether the file is skipped or entered. -/
theorem add_step {P : Intake → Prop} (file : String × Except Problem Outline) (skip : ∀ path p, P (i.skip path p))
    (enter : ∀ path o, file = (path, .ok o) → i.holders[o.module]? = none → P (i.enter path o)) : P (i.add file) := by
  obtain ⟨path, p | o⟩ := file
  · exact skip path p
  · rcases add_cases i path o with ⟨kept, -, next⟩ | ⟨free, next⟩ <;> rw [next]
    · exact skip ..
    · exact enter path o rfl free

theorem grows_add (i : Intake) (file : String × Except Problem Outline) : i.graph.Grows (i.add file).graph :=
  add_step (P := fun j => i.graph.Grows j.graph) file (grows_skip i) fun _ _ _ _ => grows_enter

end

/-! ### All files -/

/-- What holds at the start, and is kept where a file is skipped and where one is entered, holds after all files. -/
theorem ofFiles_of_steps {P : Intake → Prop} {files : List (String × Except Problem Outline)} (empty : P {})
    (skip : ∀ {i} path p, P i → P (i.skip path p))
    (enter : ∀ {i path o}, (path, .ok o) ∈ files → i.holders[o.module]? = none → P i → P (i.enter path o)) :
    P (ofFiles files) := by
  refine List.foldlRecOn files add empty fun i before file member => ?_
  refine add_step file (fun path p => skip path p before) fun path o same free => ?_
  subst same
  exact enter member free before

theorem Sound.ofFiles {files : List (String × Except Problem Outline)}
    (listed : ∀ {path o}, (path, .ok o) ∈ files → o.Listed) : (ofFiles files).Sound :=
  ofFiles_of_steps .empty (fun path p sound => sound.skip path p) fun member _ sound => sound.enter (listed member)

theorem grows_foldl (files : List (String × Except Problem Outline)) (i : Intake) :
    i.graph.Grows (files.foldl add i).graph := by
  induction files generalizing i with
  | nil => exact .refl i.graph
  | cons file files ih => exact (grows_add i file).trans (ih (i.add file))

end Intake

/-! ### Resolution -/

namespace FileTree
variable (t : FileTree) (labelLimit : Nat)

/-- An outline is that of the statements of a source file. -/
theorem outlines_cases {path : String} {o : Outline} (member : (path, .ok o) ∈ t.outlines labelLimit) :
    ∃ u ∈ t.units, ∃ statements, u.path = path ∧ Syntax.parse u.text = .ok statements ∧
      o = .ofStatements labelLimit u.module u.path statements := by
  unfold outlines at member
  simp only [List.mem_map, Prod.mk.injEq] at member
  obtain ⟨u, here, same, outline⟩ := member
  unfold SourceUnit.outline at outline
  split at outline
  · rename_i statements parsed
    cases outline
    exact ⟨u, here, statements, same, parsed, rfl⟩
  · cases outline

/-- A source file has this module. -/
def HasModule (module : String) : Prop :=
  ∃ path o, (path, .ok o) ∈ t.outlines labelLimit ∧ o.module = module

theorem outlines_listed {path : String} {o : Outline} (member : (path, .ok o) ∈ t.outlines labelLimit) :
    o.Listed := by
  obtain ⟨u, -, statements, -, -, rfl⟩ := t.outlines_cases labelLimit member
  exact Outline.ofStatements_listed ..

theorem units_of_sorted {t : FileTree} {units : List SourceUnit}
    (sorted : (t.root.collect "").Pairwise fun a b => a.1 ≤ b.1)
    (listed : ((t.root.collect "").filter fun (path, _) => Path.isSource path).map
      (fun (path, file) => SourceUnit.ofFile path file) = units) : t.units = units := by
  unfold FileTree.units
  rw [files_of_sorted sorted]
  exact listed

/-- The state of a resolution after all files have been entered. -/
def intake : Intake :=
  .ofFiles (t.outlines labelLimit)

theorem intake_of_units {t : FileTree} {units : List SourceUnit} (listed : t.units = units) :
    t.intake labelLimit = .ofFiles (units.map fun u => (u.path, u.outline labelLimit)) := by
  unfold intake outlines
  rw [listed]

/-- The outlines of a tree of one source file. -/
theorem outlines_of_unit {t : FileTree} {path module text : String} (unit : t.units = [⟨path, module, text⟩])
    {statements : List Syntax.Stmt} (read : Syntax.parse text = .ok statements) :
    t.outlines labelLimit = [(path, .ok (.ofStatements labelLimit module path statements))] := by
  unfold outlines SourceUnit.outline
  rw [unit]
  simp only [List.map_cons, List.map_nil, read]

theorem intake_of_unit {t : FileTree} {path module text : String} (unit : t.units = [⟨path, module, text⟩])
    {statements : List Syntax.Stmt} (read : Syntax.parse text = .ok statements) :
    t.intake labelLimit = .ofFiles [(path, .ok (.ofStatements labelLimit module path statements))] :=
  congrArg Intake.ofFiles (outlines_of_unit labelLimit unit read)

theorem intake_sound : (t.intake labelLimit).Sound :=
  .ofFiles (t.outlines_listed labelLimit)

/-- What holds at the start, and is kept where a file of a tree is skipped and where one is entered into a sound
    state, holds after all files of the tree. -/
theorem intake_of_steps {P : Intake → Prop} (empty : P {}) (skip : ∀ {i} path p, P i → P (i.skip path p))
    (enter : ∀ {i path o}, (path, .ok o) ∈ t.outlines labelLimit → i.Sound → P i → P (i.enter path o)) :
    P (t.intake labelLimit) := by
  have both : (t.intake labelLimit).Sound ∧ P (t.intake labelLimit) := by
    refine Intake.ofFiles_of_steps (P := fun i => i.Sound ∧ P i) ⟨.empty, empty⟩ ?_ ?_
    · rintro i path p ⟨sound, before⟩
      exact ⟨sound.skip path p, skip path p before⟩
    · rintro i path o member - ⟨sound, before⟩
      exact ⟨sound.enter (t.outlines_listed labelLimit member), enter member sound before⟩
  exact both.2

variable (c : Classifier)

theorem edges_resolve : (t.resolve labelLimit c).edges =
    (resolveOutlines c (t.intake labelLimit).graph (t.intake labelLimit).symbols
      (t.intake labelLimit).outlines.toList).graph.edges :=
  rfl

theorem diagnostics_resolve : (t.resolve labelLimit c).diagnostics =
    (resolveOutlines c (t.intake labelLimit).graph (t.intake labelLimit).symbols
      (t.intake labelLimit).outlines.toList).graph.diagnostics :=
  rfl

theorem parent?_resolve (id : NodeId) : (t.resolve labelLimit c).parent? id =
    (resolveOutlines c (t.intake labelLimit).graph (t.intake labelLimit).symbols
      (t.intake labelLimit).outlines.toList).graph.parent? id :=
  rfl

theorem linking_sound : (resolveOutlines c (t.intake labelLimit).graph (t.intake labelLimit).symbols
    (t.intake labelLimit).outlines.toList).Sound (t.intake labelLimit).graph := by
  have sound := t.intake_sound labelLimit
  exact (Linking.Sound.start sound.graph sound.names).run _ fun o member =>
    sound.scopes o (Array.mem_toList_iff.mp member)

/-- Nothing that was entered is lost by the resolution. -/
theorem grows_resolve : (t.intake labelLimit).graph.Grows (t.resolve labelLimit c) :=
  ⟨(t.linking_sound labelLimit c).grows.node, (t.linking_sound labelLimit c).grows.edge,
    (t.linking_sound labelLimit c).grows.parent, (t.linking_sound labelLimit c).grows.diagnostic⟩

theorem resolve_sound : (t.resolve labelLimit c).Sound :=
  (t.linking_sound labelLimit c).graph.of_eq rfl rfl rfl

end FileTree

end ProgramGraph
