import Mathlib.Data.List.Nodup
import ProgramGraph.Proofs.Corpus.EdgeKinds
import ProgramGraph.Proofs.Resolution.Order

/-! The order in which the files of a tree are resolved. The outlines that stay are of different modules, and a class
    node is stored for one module only, so classes of different outlines are different nodes. Hence the resolution of
    a tree does not depend on the order of its outlines, except for the nodes of calls and the order of records. -/

namespace ProgramGraph
open Std ProgramGraph.Graph

namespace FileTree
variable {t : FileTree} {labelLimit : Nat}

/-- The node of a class that stays belongs to the module of its outline. -/
theorem stored_of_class {kept : Outline} (stays : kept ∈ (t.intake labelLimit).outlines) {c : ClassDecl}
    (declared : c ∈ kept.classes) :
    ∃ m, (t.intake labelLimit).graph.node? c.id = some m ∧ m.module = kept.module := by
  obtain ⟨path, o, listed, rejected, rfl, held⟩ := (t.intake_entered labelLimit).outlines kept stays
  obtain ⟨declared, passes⟩ := Outline.mem_classes_forget declared
  obtain ⟨n, member, same, kind⟩ := (t.outlines_kinded labelLimit listed).classes c declared
  obtain ⟨rest, nodes, below⟩ := (t.outlines_listed labelLimit listed).root
  have inner : n ∈ rest := by
    rw [nodes] at member
    refine (List.mem_cons.mp member).resolve_left ?_
    rintro rfl
    cases kind
  obtain ⟨m, stored, module, -⟩ := (held n member (below n inner).2).resolve_left (same ▸ passes)
  refine ⟨m, same ▸ stored, ?_⟩
  rw [module, (below n inner).1, Outline.module_forget]

theorem intake_disjointClasses : Linking.DisjointClasses (t.intake labelLimit).outlines.toList := by
  intro o stays o' stays' c declared c' declared' same
  obtain ⟨m, stored, module⟩ := stored_of_class (Array.mem_toList_iff.mp stays) declared
  obtain ⟨m', stored', module'⟩ := stored_of_class (Array.mem_toList_iff.mp stays') declared'
  rw [same, stored'] at stored
  cases stored
  have registered := Intake.registered_ofFiles (t.outlines labelLimit)
  exact List.inj_on_of_nodup_map registered.apart stays stays' (module.symm.trans module')

/-- Entering files makes no links. -/
theorem length_edgesOfKind_unresolved (t : FileTree) (labelLimit : Nat) {kind : EdgeKind} (link : kind.isLink = true) :
    ((t.unresolved labelLimit).graph.edgesOfKind kind).length = 0 := by
  refine List.length_eq_zero_iff.mpr (List.eq_nil_iff_forall_not_mem.mpr fun e member => ?_)
  obtain ⟨member, same⟩ := mem_edgesOfKind.mp member
  exact EdgeKind.ne_containment link (same.symm.trans ((t.intake_entered labelLimit).edges e member))

/-- Before anything is linked there is nothing to count. -/
theorem unresolved_tallied (t : FileTree) (labelLimit : Nat) : (t.unresolved labelLimit).Tallied :=
  ⟨(t.length_edgesOfKind_unresolved labelLimit rfl).symm, (t.length_edgesOfKind_unresolved labelLimit rfl).symm⟩

/-- Resolving the outlines of a tree in another order gives the same links, names and counts, and the same records of
    names that stand for nothing, perhaps in another order. -/
theorem resolution_ignores_order (t : FileTree) (labelLimit : Nat) (c : Classifier) {outlines : List Outline}
    (perm : outlines.Perm (t.intake labelLimit).outlines.toList) :
    (t.linking labelLimit c).Agrees
      (resolveOutlines c (t.intake labelLimit).graph (t.intake labelLimit).symbols outlines) := by
  have registered := Intake.registered_ofFiles (t.outlines labelLimit)
  have alike := World.alike_of_perm c perm.symm registered.apart
  have agrees := Linking.run_agrees (w := t.world labelLimit c) intake_disjointClasses perm.symm
    (t.unresolved_tallied labelLimit)
  have same : resolveOutlines c (t.intake labelLimit).graph (t.intake labelLimit).symbols outlines =
      Linking.run (t.world labelLimit c) (t.unresolved labelLimit) outlines :=
    congrFun (congrFun (Linking.run_alike alike) _) _
  rw [same]
  exact agrees

set_option maxRecDepth 100000 in
/-- The theorem for two modules, of which the first one states a class that inherits from the second one, in turned
    order. -/
theorem resolution_ignores_order_turned :
    let t := FileTree.ofFiles [("a.py", "from b import B\nclass A(B): 0\n"), ("b.py", "class B: 0\n")]
    let c := Classifier.ofPackages [] false
    let turned := (t.intake 48).outlines.toList.reverse
    turned.map (fun o => (o.module, o.classes.map fun c => c.bases)) = [("b", [[]]), ("a", [["B"]])] ∧
      turned.Perm (t.intake 48).outlines.toList ∧
      (t.linking 48 c).Agrees (resolveOutlines c (t.intake 48).graph (t.intake 48).symbols turned) := by
  intro t c turned
  have sorted := files_of_sorted (t := t) (by decide +kernel)
  have modules : turned.map (fun o => (o.module, o.classes.map fun c => c.bases)) = [("b", [[]]), ("a", [["B"]])] := by
    simp only [turned, intake, outlines, units, sorted]
    decide +kernel
  have perm : turned.Perm (t.intake 48).outlines.toList := List.reverse_perm _
  exact ⟨modules, perm, resolution_ignores_order t 48 c perm⟩

end FileTree

end ProgramGraph
