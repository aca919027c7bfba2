import ProgramGraph.Proofs.Corpus.Intake
import ProgramGraph.Proofs.Outline.Contained
import ProgramGraph.Proofs.Resolution.Moves

/-! Containment in the graph of a tree. The nodes of files and of calls ask for parents, and what a resolution
    adds besides are roots and links; so containment is a forest from the first file to the last call. The
    tops of it are roots of modules, unless a module from outside of the project has taken the id of a node
    of a call: what stands below that node is then hung on the module from outside. -/

namespace ProgramGraph
open Std ProgramGraph.Graph

namespace Intake

/-- What entering files keeps: containment is a forest, and the call sites that stay carry nodes of modules. -/
structure Planted (modules : String → Prop) (i : Intake) : Prop where
  forest : i.graph.Forest modules
  sites : ∀ o ∈ i.outlines, ∀ site ∈ o.callSites, ∀ n ∈ site.fallback :: site.fragment, n.Fits modules

namespace Planted
variable {modules : String → Prop} {i : Intake} {path : String} {o : Outline}

theorem empty : Planted modules {} := ⟨.empty, by simp⟩

theorem skip (planted : i.Planted modules) (path : String) (p : Problem) : (i.skip path p).Planted modules :=
  ⟨planted.forest.report .., planted.sites⟩

theorem enter (planted : i.Planted modules) (contained : o.Contained) (known : modules o.module) :
    (i.enter path o).Planted modules where
  forest := by
    rw [graph_enter]
    refine Forest.reportAll _ _ (planted.forest.placeAll fun n member => ?_)
    exact (contained.node_fits n member).mono fun m same => same ▸ known
  sites other member site here n emitted := by
    rcases Array.mem_push.mp member with member | rfl
    · exact planted.sites other member site here n emitted
    · obtain ⟨⟨old, listed, _, rfl⟩, -⟩ := Outline.mem_callSites_forget here
      exact (contained.site_fits listed n emitted).mono fun m same => same ▸ known

end Planted

end Intake

namespace FileTree
variable (t : FileTree) (labelLimit : Nat)

theorem outlines_contained {path : String} {o : Outline} (member : (path, .ok o) ∈ t.outlines labelLimit) :
    o.Contained := by
  obtain ⟨u, -, statements, -, -, rfl⟩ := t.outlines_cases labelLimit member
  exact Outline.ofStatements_contained labelLimit u.module u.path statements

theorem intake_planted : (t.intake labelLimit).Planted (t.HasModule labelLimit) :=
  t.intake_of_steps labelLimit .empty (fun path p planted => planted.skip path p)
    fun {_ path o} member _ planted => planted.enter (t.outlines_contained labelLimit member) ⟨path, o, member, rfl⟩

/-- Containment is a forest in the resolved graph of every tree. -/
theorem resolve_forest (c : Classifier) : (t.resolve labelLimit c).Forest (t.HasModule labelLimit) := by
  have planted := t.intake_planted labelLimit
  have run : (resolveOutlines c (t.intake labelLimit).graph (t.intake labelLimit).symbols
      (t.intake labelLimit).outlines.toList).graph.Forest (t.HasModule labelLimit) := by
    refine Linking.run_keeps _ _ _ planted.forest fun kind linking g g' change forest => ?_
    cases change with
    | link same => exact forest.addEdge (same ▸ EdgeKind.ne_containment linking)
    | external module => exact forest.addNode (Or.inr ⟨module, _, rfl⟩)
    | report => exact forest.report ..
    | place known =>
      obtain ⟨o, member, here⟩ := known
      exact forest.placeAll (planted.sites o (Array.mem_toList_iff.mp member) _ here)
  exact run.of_eq rfl rfl fun _ _ => Iff.rfl

/-- Containment in the graph of a tree obeys its laws, and the parents of a node end at a root of its module. That
    root is the root of a module, or a node from outside of the project where a file is called like the module
    of such nodes. All end at roots of modules exactly when no node from outside contains anything. -/
theorem containment_ends_at_modules_iff (c : Classifier) :
    (t.resolve labelLimit c).Nested ∧
      (∀ (id : NodeId) (n : Node), (t.resolve labelLimit c).node? id = some n → n.kind.isRoot = false →
        ∃ r, (t.resolve labelLimit c).EndsAt id r ∧ r.module = n.module ∧
          (r.kind = .module ∨ r.kind = .external ∧ (t.HasModule labelLimit "External" ∨
            t.HasModule labelLimit "Unresolved"))) ∧
      ((∀ (id : NodeId) (n : Node), (t.resolve labelLimit c).node? id = some n → n.kind.isRoot = false →
          ∃ r, (t.resolve labelLimit c).EndsAt id r ∧ r.kind = .module ∧ r.module = n.module) ↔
        ∀ (id : NodeId) (n : Node), (t.resolve labelLimit c).node? id = some n → n.kind = .external →
          ∀ child, ¬(t.resolve labelLimit c).Contains id child) := by
  have forest := t.resolve_forest labelLimit c
  refine ⟨forest.nested, fun id n stored inner => ?_, forest.ends_at_modules_iff⟩
  obtain ⟨r, up⟩ := forest.leadsUp stored
  obtain ⟨ends, module, top⟩ := forest.endsAt stored up
  refine ⟨r, ends, module, top.kind_cases.imp_right fun external => ⟨external, ?_⟩⟩
  have known : t.HasModule labelLimit n.module := ((forest.fits stored).isInner inner).1
  rw [← module] at known
  rcases top.external_module external with same | same <;> rw [same] at known
  · exact Or.inl known
  · exact Or.inr known

set_option maxRecDepth 100000 in
/-- A call in the format of another call is hung on an import that has the id of its place: its parents end
    outside of the project. -/
theorem call_hung_on_an_import :
    let t := FileTree.ofFiles [("Unresolved.py", "f(f\"\x7bg()\x7d\")\n"),
      ("call(f)/fstring@1:3/format@1:5/m.py", "from . import x\n")]
    let r := t.resolve 48 (.ofPackages [] false)
    let call := "Unresolved.call(f).fstring@1:3.format@1:5.call(g)"
    (r.node? call).map (fun n => n.kind) = some .call ∧
      (r.parent? call).map (fun n => n.kind) = some .external ∧
      ((r.parent? call).map fun n => n.id).bind r.parent? = none := by
  have sorted := files_of_sorted (t := .ofFiles [("Unresolved.py", "f(f\"\x7bg()\x7d\")\n"),
      ("call(f)/fstring@1:3/format@1:5/m.py", "from . import x\n")])
    (by decide +kernel)
  simp only [resolve, outlines, counters, ignored, units, sorted]
  decide +kernel

end FileTree

end ProgramGraph
