import ProgramGraph.Proofs.Corpus.Intake

/-! Which nodes of a file do not get into the graph. A contained node that is left out is on record for its
    file. The root of a module is not placed like a contained node: it is added where its id is free, and
    where a node of another module holds the id, nothing is recorded. -/

namespace ProgramGraph
open Std

namespace Graph

/-- The id of the root of a file is held by a node of another module. -/
def RootTaken (g : Graph) (o : Outline) : Prop :=
  ∃ holder, g.node? o.moduleId = some holder ∧ holder.module ≠ o.module

theorem Grows.rootTaken {g g' : Graph} (h : Grows g g') {o : Outline} (taken : g.RootTaken o) : g'.RootTaken o := by
  obtain ⟨holder, stored, foreign⟩ := taken
  exact ⟨holder, h.node stored, foreign⟩

theorem RootTaken.not_holds {g : Graph} {o : Outline} (taken : g.RootTaken o) : ¬g.Holds (.moduleRoot o.module) := by
  rintro ⟨m, stored, same, -⟩
  obtain ⟨holder, stored', foreign⟩ := taken
  rw [show (Node.moduleRoot o.module).id = o.moduleId from rfl, stored'] at stored
  cases stored
  exact foreign same

end Graph

namespace Intake
open ProgramGraph.Graph

section
variable {i : Intake} {path : String} {o : Outline}

/-- A problem of a placement is recorded for the file. -/
theorem reported_of_problem (problem : ∃ x, x ∈ (i.placed o).problems) : (i.enter path o).graph.Reported path := by
  obtain ⟨x, member⟩ := problem
  rcases Placement.foldl_problem o.nodes { graph := i.graph } member with member | ⟨qualname, kept, rejected, rfl⟩
  · simp at member
  · rw [graph_enter]
    exact reportAll_reported _ _ (Array.mem_toList_iff.mpr (Array.mem_append_left _ member))

/-- A node that was left out is on record: it was refused itself, or something around it was. -/
theorem reported_of_rejected (sound : i.Sound) (listed : o.Listed) {id : NodeId} (rejected : id ∈ (i.placed o).rejected) :
    (i.enter path o).graph.Reported path :=
  reported_of_problem (Placement.foldl_reported sound.graph.placed listed.parentsFirst nofun (by simp) id rejected)

/-- A contained node is held, or something of its file is on record. -/
theorem enter_holds (sound : i.Sound) (listed : o.Listed) {n : Node} (member : n ∈ o.nodes) (contained : n.parent.isSome) :
    (i.enter path o).graph.Holds n ∨ (i.enter path o).graph.Reported path := by
  rcases Placement.foldl_settles (p := { graph := i.graph }) o.nodes sound.graph.placed n member with rejected | ⟨-, holds⟩
  · exact Or.inr (reported_of_rejected sound listed rejected)
  · exact Or.inl (grows_enter_placed.holds (holds contained))

/-- The root of a new module is held unless its id is taken; then anything else in the file is on record. -/
theorem enter_root (sound : i.Sound) (listed : o.Listed) (new : o.module ∉ i.holders) :
    (i.enter path o).graph.Holds (.moduleRoot o.module) ∨
      ((i.enter path o).graph.RootTaken o ∧
        (o.nodes = [.moduleRoot o.module] ∨ (i.enter path o).graph.Reported path)) := by
  obtain ⟨rest, nodes, contained⟩ := listed.root
  have later := placed_root (i := i) nodes
  cases stored : i.graph.node? o.moduleId with
  | none =>
    refine Or.inl (grows_enter_placed.holds ?_)
    rw [later]
    refine (Placement.foldl_leads rest _).grows.holds ⟨.moduleRoot o.module, ?_, rfl, rfl⟩
    exact node?_addNode.trans (if_pos ⟨rfl, node?_eq_none_iff.mp stored⟩)
  | some holder =>
    have foreign : holder.module ≠ o.module := fun same => new (same ▸ sound.modules stored)
    refine Or.inr ⟨grows_enter.rootTaken ⟨holder, stored, foreign⟩, ?_⟩
    cases rest with
    | nil => exact Or.inl nodes
    | cons n rest =>
      refine Or.inr (reported_of_problem ?_)
      -- The first contained node stands in the root, whose holder is of another module.
      have first := listed.parentsFirst
      rw [nodes] at first
      obtain ⟨p, asks⟩ := Option.isSome_iff_exists.mp (contained n List.mem_cons_self).2
      have parent : p = o.moduleId := (first.2.1 p asks).resolve_left id
      obtain ⟨x, problem⟩ := Placement.step_refused (p := { graph := i.graph.addNode (.moduleRoot o.module) })
        (asks.trans (congrArg some parent)) (by simp) ((Grows.addNode ..).node stored)
        fun same => foreign (same.trans (contained n List.mem_cons_self).1)
      rw [later]
      exact ⟨x, (Placement.foldl_leads rest _).problem problem⟩

/-- What becomes of the nodes of one file: its root may be lost without a record, and nothing else. -/
theorem add_accounts (sound : i.Sound) (listed : o.Listed) :
    (i.add (path, .ok o)).graph.Reported path ∨
      ((∀ n ∈ o.nodes, n.parent.isSome → (i.add (path, .ok o)).graph.Holds n) ∧
        ((i.add (path, .ok o)).graph.Holds (.moduleRoot o.module) ∨
          ((i.add (path, .ok o)).graph.RootTaken o ∧ o.nodes = [.moduleRoot o.module]))) := by
  rcases add_cases i path o with ⟨kept, -, next⟩ | ⟨free, next⟩ <;> rw [next]
  · exact Or.inl (report_reported ..)
  · by_cases reported : (i.enter path o).graph.Reported path
    · exact Or.inl reported
    · have new : o.module ∉ i.holders := by
        rw [TreeMap.mem_iff_isSome_getElem?, free]
        exact nofun
      refine Or.inr ⟨fun n member contained => (enter_holds sound listed member contained).resolve_right reported, ?_⟩
      exact (enter_root sound listed new).imp_right fun ⟨taken, alone⟩ => ⟨taken, alone.resolve_right reported⟩

end

end Intake

namespace FileTree

/-- The state after the files up to one, for each file of a tree. -/
theorem exists_add (t : FileTree) (labelLimit : Nat) {file : String × Except Problem Outline}
    (member : file ∈ t.outlines labelLimit) :
    ∃ i : Intake, i.Sound ∧ (i.add file).graph.Grows (t.intake labelLimit).graph := by
  obtain ⟨before, after, split⟩ := List.append_of_mem member
  have listed {path : String} {o : Outline} (here : (path, .ok o) ∈ before) : o.Listed := by
    have member : (path, .ok o) ∈ t.outlines labelLimit := by
      rw [split]
      exact List.mem_append_left _ here
    exact t.outlines_listed labelLimit member
  refine ⟨.ofFiles before, .ofFiles listed, ?_⟩
  unfold intake Intake.ofFiles
  rw [split, List.foldl_append, List.foldl_cons]
  exact Intake.grows_foldl after _

/-- A file loses a node without a record exactly when all it has is a root whose id a node of another
    module holds. -/
theorem nothing_lost_silently_iff (t : FileTree) (labelLimit : Nat) (c : Classifier) (path : String) (o : Outline)
    (member : (path, .ok o) ∈ t.outlines labelLimit) :
    (∀ n ∈ o.nodes, (t.resolve labelLimit c).Holds n ∨ (t.resolve labelLimit c).Reported path) ↔
      ((t.resolve labelLimit c).RootTaken o → o.nodes ≠ [.moduleRoot o.module] ∨
        (t.resolve labelLimit c).Reported path) := by
  have listed := t.outlines_listed labelLimit member
  obtain ⟨i, sound, grows⟩ := t.exists_add labelLimit member
  have later := grows.trans (t.grows_resolve labelLimit c)
  obtain ⟨rest, nodes, contained⟩ := listed.root
  have root : Node.moduleRoot o.module ∈ o.nodes := by
    rw [nodes]
    exact List.mem_cons_self
  constructor
  · intro kept taken
    exact Or.inr ((kept _ root).resolve_left taken.not_holds)
  · intro condition n here
    -- Below the root all is held or on record, so the root alone is left.
    rcases Intake.add_accounts sound listed with reported | ⟨below, top⟩
    · exact Or.inr (later.reported reported)
    rw [nodes] at here
    rcases List.mem_cons.mp here with rfl | here
    · rcases top with holds | ⟨taken, alone⟩
      · exact Or.inl (later.holds holds)
      · exact Or.inr ((condition (later.rootTaken taken)).resolve_left (not_not_intro alone))
    · refine Or.inl (later.holds (below n ?_ (contained n here).2))
      rw [nodes]
      exact List.mem_cons_of_mem _ here

set_option maxRecDepth 100000 in
/-- The theorem for a package with a function, whose root has the id of a class of one of its modules: the function is
    left out together with the root, and that is on record. -/
theorem nothing_lost_silently_iff_taken :
    let t := FileTree.ofFiles [("A/B/A.py", "class B: x\n"), ("A/B/__init__.py", "def f(): 0\n")]
    let r := t.resolve 48 (.ofPackages [] false)
    ∃ o : Outline, ("A/B/__init__.py", .ok o) ∈ t.outlines 48 ∧ o.nodes.length = 3 ∧
      r.RootTaken o ∧ r.Reported "A/B/__init__.py" ∧
      ((∀ n ∈ o.nodes, r.Holds n ∨ r.Reported "A/B/__init__.py") ↔
        (r.RootTaken o → o.nodes ≠ [.moduleRoot o.module] ∨ r.Reported "A/B/__init__.py")) := by
  intro t r
  have units : t.units = [⟨"A/B/A.py", "A.B.A", "class B: x\n"⟩, ⟨"A/B/__init__.py", "A.B", "def f(): 0\n"⟩] :=
    units_of_sorted (by decide +kernel) (by decide +kernel)
  have checked : (Syntax.parse "class B: x\n").toOption.any (fun inner =>
      (Syntax.parse "def f(): 0\n").toOption.any fun package =>
        let o := Outline.ofStatements 48 "A.B" "A/B/__init__.py" package
        let g := (Intake.ofFiles [("A/B/A.py", .ok (.ofStatements 48 "A.B.A" "A/B/A.py" inner)),
          ("A/B/__init__.py", .ok o)]).graph
        decide (o.nodes.length = 3) && ((g.node? o.moduleId).any fun holder => decide (holder.module ≠ o.module)) &&
          g.diagnostics.any fun d => decide (d.kind = .duplicateSymbol) && decide (d.path = some "A/B/__init__.py")) =
        true := by
    decide +kernel
  obtain ⟨inner, read, checked⟩ := Syntax.exists_parse checked
  obtain ⟨package, read', checked⟩ := Syntax.exists_parse checked
  have outlines : t.outlines 48 = [("A/B/A.py", .ok (.ofStatements 48 "A.B.A" "A/B/A.py" inner)),
      ("A/B/__init__.py", .ok (.ofStatements 48 "A.B" "A/B/__init__.py" package))] := by
    unfold FileTree.outlines SourceUnit.outline
    simp only [units, List.map_cons, List.map_nil, read, read']
  have member : ("A/B/__init__.py", .ok (.ofStatements 48 "A.B" "A/B/__init__.py" package)) ∈ t.outlines 48 := by
    rw [outlines]
    exact List.mem_cons_of_mem _ (List.mem_singleton_self _)
  have grows := t.grows_resolve 48 (.ofPackages [] false)
  unfold intake at grows
  rw [outlines] at grows
  simp only [Bool.and_eq_true, decide_eq_true_eq, Option.any_eq_true, Array.any_eq_true'] at checked
  obtain ⟨⟨three, holder, stored, foreign⟩, d, recorded, kind, path⟩ := checked
  exact ⟨_, member, three, grows.rootTaken ⟨holder, stored, foreign⟩, grows.reported ⟨d, recorded, kind, path⟩,
    nothing_lost_silently_iff t 48 _ _ _ member⟩

set_option maxRecDepth 100000 in
/-- A package whose root has the id of a class of one of its modules is lost without a record. -/
theorem package_lost_to_a_class :
    let t := FileTree.ofFiles [("A/B/A.py", "class B: x\n"), ("A/B/__init__.py", "")]
    let r := t.resolve 48 (.ofPackages [] false)
    (t.outlines 48).any (fun file => file.1 == "A/B/__init__.py" &&
        file.2.toOption.any fun o => o.nodes == [.moduleRoot "A.B"]) = true ∧
      (r.node? (Node.moduleRoot "A.B").id).map (fun n => n.module) = some "A.B.A" ∧
      r.diagnostics.isEmpty = true := by
  have sorted := files_of_sorted (t := .ofFiles [("A/B/A.py", "class B: x\n"), ("A/B/__init__.py", "")])
    (by decide +kernel)
  simp only [resolve, outlines, counters, ignored, units, sorted]
  decide +kernel

end FileTree

end ProgramGraph
