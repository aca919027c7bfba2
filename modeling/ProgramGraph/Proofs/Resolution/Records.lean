import ProgramGraph.Proofs.Resolution.Moves

/-! Records are for the reader of a graph: no step reads them. With earlier records in front of those of a graph
    (`Graph.after`), every change of the graph and every decision of a resolution is the same, and the earlier
    records stay in front. Two runs whose starts differ in records only therefore differ in those records only. -/

namespace ProgramGraph
open Std

namespace Graph

/-- The graph with earlier records in front of its own. -/
def after (g : Graph) (records : Array Diagnostic) : Graph :=
  { g with diagnostics := records ++ g.diagnostics }

section
variable (g : Graph) (records : Array Diagnostic)

@[simp] theorem parents_after : (g.after records).parents = g.parents := rfl

@[simp] theorem node?_after (id : NodeId) : (g.after records).node? id = g.node? id := rfl

theorem record_after (d : Diagnostic) : (g.after records).record d = (g.record d).after records := by
  unfold record after
  simp only [Array.push_append]

theorem report_after (p : Problem) (path : Option String) (line : Option Nat) :
    (g.after records).report p path line = (g.report p path line).after records := by
  unfold report
  split
  · exact record_after ..
  · rfl

theorem reportAll_after (path : Option String) (ps : Array Problem) :
    ps.foldl (fun g p => g.report p path) (g.after records) = (ps.foldl (fun g p => g.report p path) g).after records :=
  Array.foldl_hom (·.after records) fun g p => report_after g records p path none

/-! ### Placing -/

theorem place?_after (n : Node) : (g.after records).place? n = (g.place? n).map (·.after records) := by
  unfold place?
  simp only [node?_after, parents_after]
  split
  · rfl
  · split
    · rfl
    · split
      · rfl
      · split
        · split <;> rfl
        · split <;> rfl

/-- The outcome of placing into a graph that has earlier records. -/
def Placement.after (p : Placement) : Placement :=
  { p with graph := p.graph.after records }

theorem Placement.step_after (p : Placement) (n : Node) : (p.after records).step n = (p.step n).after records := by
  have placed : (p.after records).graph.place? n = (p.graph.place? n).map (·.after records) := place?_after ..
  have rejected : (p.after records).rejected = p.rejected := rfl
  have stored (id : NodeId) : (p.after records).graph.contains id = p.graph.contains id := rfl
  unfold step
  simp only [placed, rejected, stored]
  split
  · rfl
  · cases p.graph.place? n <;> rfl

theorem placeAll_after (ns : List Node) : (g.after records).placeAll ns = (g.placeAll ns).after records := by
  have start : ({ graph := g.after records } : Placement) = ({ graph := g } : Placement).after records := rfl
  unfold placeAll
  rw [start]
  exact List.foldl_hom (Placement.after records) fun p n => p.step_after records n

end

end Graph

namespace Linking

/-- The state of a resolution whose graph has earlier records in front of its own. -/
def after (l : Linking) (records : Array Diagnostic) : Linking :=
  { l with graph := l.graph.after records }

section
variable (w : World) (l : Linking) (records : Array Diagnostic)

theorem link_after (e : Edge) : (l.after records).link e = (l.link e).after records := by
  unfold link
  split <;> rfl

theorem linkCounted_after (e : Edge) (count : LinkCounts → LinkCounts) :
    (l.after records).linkCounted e count = (l.linkCounted e count).after records := by
  have new : (l.after records).isNew e = l.isNew e := rfl
  unfold linkCounted
  simp only [new, link_after]
  split <;> rfl

theorem addExternal_after (module : String) (origin : Origin) :
    (l.after records).addExternal module origin = (l.addExternal module origin).after records := rfl

theorem openClass_after (qualname : String) :
    (l.after records).openClass qualname = (l.openClass qualname).after records := rfl

theorem report_after (p : Problem) (module : String) (line : Option Nat) :
    report w (l.after records) p module line = (report w l p module line).after records :=
  congrArg (fun graph => { l with graph }) (l.graph.report_after records p _ line)

/-! ### Imports -/

theorem linkImport_after (i : ImportLink) : linkImport w (l.after records) i = (linkImport w l i).after records := by
  have symbols : (l.after records).symbols = l.symbols := rfl
  unfold linkImport
  rw [symbols]
  split
  · rfl
  · split
    · exact linkCounted_after ..
    · exact linkCounted_after ..
    · exact linkCounted_after ..
    · split
      · exact linkCounted_after ..
      · rfl
    · rw [addExternal_after, report_after]
    · rw [addExternal_after]
      exact linkCounted_after ..
    · rfl

theorem linkImports_after : linkImports w (l.after records) = (linkImports w l).after records := by
  have symbols : (l.after records).symbols = l.symbols := rfl
  unfold linkImports
  rw [symbols]
  exact List.foldl_hom (after · records) fun l i => linkImport_after w l records i

/-! ### Inheritance -/

theorem reportBase_after (module : String) (cls : ClassDecl) (base reason : String) :
    reportBase w (l.after records) module cls base reason = (reportBase w l module cls base reason).after records :=
  report_after ..

/-- A state with something gathered beside it, with earlier records. -/
def afterFst {α : Type} (state : Linking × α) (records : Array Diagnostic) : Linking × α :=
  (state.1.after records, state.2)

theorem linkBase_after (module : String) (cls : ClassDecl) (state : Linking × List String) (base : String) :
    linkBase w module cls (afterFst state records) base = afterFst (linkBase w module cls state base) records := by
  obtain ⟨l, found⟩ := state
  have symbols : (l.after records).symbols = l.symbols := rfl
  unfold linkBase afterFst
  simp only [symbols]
  split
  · exact congrArg (·, _) (linkCounted_after ..)
  · rw [addExternal_after, openClass_after, reportBase_after]
  · rw [addExternal_after, linkBaseEdge, linkCounted_after, openClass_after]
    rfl
  · split
    · split <;> rfl
    · rw [openClass_after, reportBase_after]
  all_goals rw [openClass_after, reportBase_after]

theorem linkClass_after (module : String) (state : Linking × Hierarchy) (cls : ClassDecl) :
    linkClass w module (afterFst state records) cls = afterFst (linkClass w module state cls) records := by
  obtain ⟨l, h⟩ := state
  have symbols : (l.after records).symbols = l.symbols := rfl
  have linked : cls.bases.foldl (linkBase w module cls) (afterFst (l, []) records) =
      afterFst (cls.bases.foldl (linkBase w module cls) (l, [])) records :=
    List.foldl_hom (afterFst · records) fun state base => linkBase_after w records module cls state base
  unfold afterFst at linked
  unfold linkClass afterFst
  simp only [symbols, linked]
  split <;> rfl

theorem linkInheritance_after (outlines : List Outline) :
    linkInheritance w (l.after records) outlines = afterFst (linkInheritance w l outlines) records := by
  have classes (o : Outline) (state : Linking × Hierarchy) :
      o.classes.foldl (linkClass w o.module) (afterFst state records) =
        afterFst (o.classes.foldl (linkClass w o.module) state) records :=
    List.foldl_hom (afterFst · records) fun state cls => linkClass_after w records o.module state cls
  have linked : outlines.foldl (fun state o => o.classes.foldl (linkClass w o.module) state) (afterFst (l, ∅) records) =
      afterFst (outlines.foldl (fun state o => o.classes.foldl (linkClass w o.module) state) (l, ∅)) records :=
    List.foldl_hom (afterFst · records) fun state o => classes o state
  unfold afterFst at linked
  unfold linkInheritance afterFst
  simp only [linked]
  rfl

/-! ### Calls -/

theorem decideCall_after (module : String) (site : CallSite) :
    decideCall w (l.after records) module site = decideCall w l module site := rfl

theorem reportCall_after (module : String) (site : CallSite) (p : Problem) :
    reportCall w module site (l.after records) p = (reportCall w module site l p).after records :=
  report_after ..

theorem keepCall_after (module : String) (site : CallSite) :
    keepCall w module (l.after records) site = afterFst (keepCall w module l site) records := by
  have placed : (l.after records).graph.placeAll (site.fallback :: site.fragment) =
      (l.graph.placeAll (site.fallback :: site.fragment)).after records := l.graph.placeAll_after records _
  have reported (ps : Array Problem) (l : Linking) :
      ps.foldl (reportCall w module site) (l.after records) = (ps.foldl (reportCall w module site) l).after records :=
    Array.foldl_hom (after · records) fun l p => reportCall_after w l records module site p
  unfold keepCall afterFst
  simp only [placed]
  exact Prod.ext (reported _ { l with graph := _ }) rfl

theorem linkCall_after (module : String) (state : Linking × Array Bool) (site : CallSite) :
    linkCall w module (afterFst state records) site = afterFst (linkCall w module state site) records := by
  obtain ⟨l, kept⟩ := state
  unfold linkCall afterFst
  simp only [decideCall_after]
  split
  · rw [link_after]
    rfl
  · rename_i problem _
    have counted : { l.after records with counts.callsUnresolved := (l.after records).counts.callsUnresolved + 1 } =
        after { l with counts.callsUnresolved := l.counts.callsUnresolved + 1 } records := rfl
    have placed (reachable : Bool) (l : Linking) :
        (if reachable = true then keepCall w module (l.after records) site else (l.after records, false)) =
          afterFst (if reachable = true then keepCall w module l site else (l, false)) records := by
      split
      · exact keepCall_after ..
      · rfl
    rw [counted, placed]
    cases problem with
    | none => rfl
    | some p => exact Prod.ext (reportCall_after ..) rfl

theorem linkCalls_after (o : Outline) : linkCalls w (l.after records) o = (linkCalls w l o).after records := by
  have start : ((l.after records, #[]) : Linking × Array Bool) = afterFst (l, #[]) records := rfl
  unfold linkCalls
  rw [start, List.foldl_hom (afterFst · records) fun state site => linkCall_after w records o.module state site]
  rfl

/-! ### The whole run -/

theorem prepare_after (outlines : List Outline) :
    prepare w (l.after records) outlines = (prepare w l outlines).after records := by
  unfold prepare
  rw [linkImports_after, linkInheritance_after]
  rfl

theorem run_after (outlines : List Outline) : run w (l.after records) outlines = (run w l outlines).after records := by
  rw [run_eq, run_eq, prepare_after]
  exact List.foldl_hom (after · records) fun l o => linkCalls_after w l records o

end

end Linking

/-- The records that a resolution starts with stay in front and change nothing else. -/
theorem resolveOutlines_after (c : Classifier) (g : Graph) (records : Array Diagnostic) (s : Symbols)
    (outlines : List Outline) :
    resolveOutlines c (g.after records) s outlines = (resolveOutlines c g s outlines).after records :=
  Linking.run_after (.ofOutlines c outlines) { graph := g, symbols := s } records outlines

end ProgramGraph
