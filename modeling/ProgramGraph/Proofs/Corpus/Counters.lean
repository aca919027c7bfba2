import Mathlib.Algebra.BigOperators.Group.List.Lemmas
import ProgramGraph.Proofs.Corpus.Audit
import ProgramGraph.Proofs.Corpus.Order
import ProgramGraph.Proofs.Resolution.Counts
import ProgramGraph.Proofs.Resolution.Imports

/-! The counters of a graph agree with what they count. Each is kept beside the data, in a loop of its own: the files
    while they are taken in, links and calls while they are resolved, and the rest at the audit, from the graph that
    the audit leaves. -/

namespace ProgramGraph
open Std ProgramGraph.Graph

/-! ### Tallies -/

namespace Tally

/-- All counts together. -/
def total (t : Tally) : Nat :=
  t.values.foldr (· + ·) 0

theorem getD_bump (t : Tally) (name other : String) :
    (t.bump name).getD other 0 = t.getD other 0 + if name = other then 1 else 0 := by
  unfold bump
  rw [TreeMap.getD_insert]
  by_cases same : name = other
  · subst same
    simp
  · simp [same]

theorem getD_ofList (names : List String) (name : String) : (ofList names).getD name 0 = names.count name := by
  have counts : ∀ t : Tally, (names.foldl bump t).getD name 0 = t.getD name 0 + names.count name := by
    induction names with
    | nil => exact fun t => rfl
    | cons first names ih =>
      intro t
      rw [List.foldl_cons, ih, getD_bump, List.count_cons, Nat.add_assoc, Nat.add_comm (names.count name)]
      simp
  exact (counts ∅).trans (by simp)

theorem mem_ofList {names : List String} {name : String} : name ∈ ofList names ↔ name ∈ names := by
  have grows : ∀ t : Tally, name ∈ names.foldl bump t ↔ name ∈ t ∨ name ∈ names := by
    induction names with
    | nil => simp
    | cons first names ih =>
      intro t
      rw [List.foldl_cons, ih, bump, TreeMap.mem_insert, Std.compare_eq_iff_eq, List.mem_cons, or_assoc, or_left_comm,
        eq_comm]
  exact (grows ∅).trans (by simp)

theorem values_eq (t : Tally) : t.values = t.keys.map fun name => t.getD name 0 := by
  rw [values_eq_map, ← TreeMap.map_fst_toList_eq_keys, List.map_map]
  refine List.map_congr_left fun (name, n) member => ?_
  rw [TreeMap.mem_toList_iff_getElem?_eq_some] at member
  simp [TreeMap.getD_eq_getD_getElem?, member]

/-- What a tally counts adds up to the length of the list. -/
theorem total_ofList (names : List String) : (ofList names).total = names.length := by
  have keys : (ofList names).keys.Perm names.dedup := by
    refine (List.perm_ext_iff_of_nodup TreeMap.nodup_keys names.nodup_dedup).mpr fun name => ?_
    rw [TreeMap.mem_keys, mem_ofList, List.mem_dedup]
  calc (ofList names).total
      = ((ofList names).keys.map fun name => names.count name).sum := by
        rw [total, values_eq, List.sum_eq_foldr]
        simp only [getD_ofList]
    _ = (names.dedup.map fun name => names.count name).sum := (keys.map _).sum_eq
    _ = names.length := List.sum_map_count_dedup_eq_length names

end Tally

/-! ### Files -/

namespace Intake

/-- Every file that was taken in has been counted, and the files that were parsed are those with an outline. -/
structure Accounted (seen : Nat) (i : Intake) : Prop where
  files : i.parsed + i.skipped = seen
  outlines : i.outlines.size = i.parsed

section
variable {i : Intake} {seen : Nat}

theorem Accounted.skip (accounted : i.Accounted seen) (path : String) (p : Problem) :
    (i.skip path p).Accounted (seen + 1) where
  files := by
    rw [← accounted.files]
    exact (Nat.add_assoc ..).symm
  outlines := accounted.outlines

theorem Accounted.enter (accounted : i.Accounted seen) (path : String) (o : Outline) :
    (i.enter path o).Accounted (seen + 1) where
  files := by
    rw [← accounted.files]
    exact Nat.add_right_comm ..
  outlines := by
    change (i.outlines.push _).size = i.parsed + 1
    rw [Array.size_push, accounted.outlines]

theorem Accounted.add (accounted : i.Accounted seen) (file : String × Except Problem Outline) :
    (i.add file).Accounted (seen + 1) :=
  add_step file accounted.skip fun path o _ _ => accounted.enter path o

end

theorem accounted_ofFiles (files : List (String × Except Problem Outline)) : (ofFiles files).Accounted files.length :=
  Linking.foldl_done (P := fun done (i : Intake) => i.Accounted done.length) files ⟨rfl, rfl⟩
    fun done file _ i _ accounted => by
      rw [List.length_append]
      exact accounted.add file

end Intake

namespace FileTree

theorem length_files_eq (t : FileTree) : t.files.length = t.units.length + t.ignored := by
  unfold units ignored
  rw [List.length_map, ← List.countP_eq_length_filter,
    List.length_eq_countP_add_countP fun file : String × SourceFile => Path.isSource file.1]
  refine congrArg _ (List.countP_congr fun file _ => ?_)
  simp

end FileTree

/-! ### The audit -/

namespace Graph

theorem statistics_settleOrphans (g : Graph) (policy : OrphanPolicy) :
    (g.settleOrphans policy).statistics = g.statistics := by
  have attached (orphans : List NodeId) : (g.attach orphans).statistics = g.statistics := by
    unfold attach
    refine List.foldlRecOn orphans _ (motive := fun g' : Graph => g'.statistics = g.statistics) rfl ?_
    exact fun _ same _ _ => same
  unfold settleOrphans
  split
  · rfl
  · cases policy with
    | debug => exact attached _
    | prune => exact attached _

/-- An audit adds the counters of the graph that it leaves and changes no other. -/
structure Audited (s : Statistics) (g : Graph) : Prop where
  kept : s = { g.statistics with nodes := s.nodes, edges := s.edges, edgesByKind := s.edgesByKind, orphans := s.orphans }
  nodes : g.statistics.nodes = g.nodeList.length
  edges : g.statistics.edges = g.edgeList.length
  kinds : g.statistics.edgesByKind.total = g.statistics.edges

theorem finish_audited {g g' : Graph} {policy : OrphanPolicy} (finished : g.finish policy = .ok g') :
    Audited g.statistics g' := by
  obtain ⟨-, rfl⟩ := finish_eq_ok_iff.mp finished
  generalize settled : g.settleOrphans policy = g'
  have nodes : g'.nodes.size = g'.nodeList.length := by
    unfold nodeList
    rw [values_eq_map, List.length_map, TreeMap.length_toList]
  have edges : g'.edges.size = g'.edgeList.length := TreeSet.length_toList.symm
  constructor
  · have kept := g.statistics_settleOrphans policy
    rw [settled] at kept
    unfold auditedStatistics
    rw [kept]
  · exact nodes
  · exact edges
  · refine (Tally.total_ofList _).trans ?_
    rw [List.length_map]
    exact edges.symm

end Graph

/-! ### All counters -/

namespace FileTree

/-- The counters of the resolution of a tree agree with its files, its call sites and the links of its graph. -/
structure Counted (t : FileTree) (labelLimit : Nat) (c : Classifier) (s : Statistics) : Prop where
  files : s.filesSeen = s.filesParsed + s.filesSkipped + s.filesIgnored
  modules : s.modules = s.filesParsed
  /-- Every call site that stays counts once. -/
  calls : s.callsResolved + s.callsUnresolved =
    ((t.intake labelLimit).outlines.toList.flatMap Outline.callSites).length
  imports : (t.linking labelLimit c).counts.imports = ((t.resolve labelLimit c).edgesOfKind .importing).length
  bases : (t.linking labelLimit c).counts.bases = ((t.resolve labelLimit c).edgesOfKind .inherits).length
  links : ((t.resolve labelLimit c).edgesOfKind .calls).length ≤ s.callsResolved

theorem counted_resolve (t : FileTree) (labelLimit : Nat) (c : Classifier) :
    t.Counted labelLimit c (t.resolve labelLimit c).statistics := by
  have accounted : (t.intake labelLimit).Accounted (t.outlines labelLimit).length := Intake.accounted_ofFiles _
  have tallied : (t.linking labelLimit c).Tallied := Linking.run_tallied (t.unresolved_tallied labelLimit)
  obtain ⟨calls, links⟩ := Linking.run_counts (t.world labelLimit c) (t.unresolved labelLimit)
    (t.intake labelLimit).outlines.toList
  rw [t.length_edgesOfKind_unresolved labelLimit rfl] at links
  exact {
    files := by
      change t.files.length = (t.intake labelLimit).parsed + (t.intake labelLimit).skipped + t.ignored
      rw [accounted.files, length_files_eq, outlines, List.length_map]
    modules := accounted.outlines
    calls := calls.trans (Nat.zero_add _)
    imports := tallied.imports
    bases := tallied.bases
    links := links.trans (Nat.le_of_eq (Nat.zero_add _)) }

/-- The counters of a resolved tree agree with what they count. Either audit that succeeds keeps them, and what it adds
    agrees with the graph that it leaves. -/
theorem counters_agree (t : FileTree) (labelLimit : Nat) (c : Classifier) :
    t.Counted labelLimit c (t.resolve labelLimit c).statistics ∧
      ∀ policy g, (t.resolve labelLimit c).finish policy = .ok g →
        Graph.Audited (t.resolve labelLimit c).statistics g ∧ t.Counted labelLimit c g.statistics := by
  have counted := t.counted_resolve labelLimit c
  refine ⟨counted, fun policy g finished => ?_⟩
  have audited := Graph.finish_audited finished
  refine ⟨audited, ?_⟩
  rw [audited.kept] at counted
  exact ⟨counted.files, counted.modules, counted.calls, counted.imports, counted.bases, counted.links⟩

/-- The theorem for two calls of a function and one call of nothing, beside a file that does not parse and one that is
    no source file. -/
theorem counters_agree_mixed :
    let t := FileTree.ofFiles [("a.py", "def f(): 0\nf()\nf()\ng()\n"), ("bad.py", "("), ("notes.txt", "")]
    let r := t.resolve 48 (.ofPackages [] false)
    ∃ g, r.finish .debug = .ok g ∧ Graph.Audited r.statistics g ∧ t.Counted 48 (.ofPackages [] false) g.statistics := by
  intro t r
  obtain ⟨g, finished, -⟩ := Graph.finish_debug (t.resolve_sound 48 (.ofPackages [] false)).closed
  exact ⟨g, finished, (counters_agree t 48 (.ofPackages [] false)).2 .debug g finished⟩

end FileTree

end ProgramGraph
