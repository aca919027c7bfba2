import ProgramGraph.Proofs.Resolution.Calls
import ProgramGraph.Proofs.Symbols

/-! What a resolution keeps. It loses nothing of the graph that it starts from, and every edge that it adds
    joins stored nodes: all names stand for stored nodes, and what is linked is either named or has just
    been added (`Linking.Sound`). Each kind of link has its step lemma; `run_sound` assembles them. -/

namespace ProgramGraph
open Std

namespace Linking

/-- A state of a resolution that started from `g`. -/
structure Sound (g : Graph) (l : Linking) : Prop where
  grows : g.Grows l.graph
  graph : l.graph.Sound
  names : l.symbols.All (· ∈ l.graph.nodes)

namespace Sound
variable {g : Graph} {l : Linking}

theorem start {s : Symbols} (h : g.Sound) (hs : s.All (· ∈ g.nodes)) : Sound g { graph := g, symbols := s } :=
  ⟨.refl g, h, hs⟩

theorem trans {l' : Linking} (h : l.Sound g) (h' : l'.Sound l.graph) : l'.Sound g :=
  ⟨h.grows.trans h'.grows, h'.graph, h'.names⟩

theorem rebase (h : l.Sound g) : l.Sound l.graph :=
  ⟨.refl _, h.graph, h.names⟩

theorem of_eq {l' : Linking} (h : l.Sound g) (hg : l'.graph = l.graph) (hs : l'.symbols = l.symbols) : l'.Sound g := by
  refine ⟨?_, ?_, ?_⟩
  · rw [hg]
    exact h.grows
  · rw [hg]
    exact h.graph
  · rw [hg, hs]
    exact h.names

theorem grow (h : l.Sound g) {g' : Graph} (hg : l.graph.Grows g') (hs : g'.Sound) : Sound g { l with graph := g' } :=
  ⟨h.grows.trans hg, hs, h.names.mono fun _ => hg.mem⟩

theorem openClass (h : l.Sound g) (qualname : String) : (l.openClass qualname).Sound g :=
  h.of_eq rfl rfl

theorem report (h : l.Sound g) (w : World) (p : Problem) (module : String) (line : Option Nat) :
    (Linking.report w l p module line).Sound g :=
  h.grow (.report ..) (h.graph.report ..)

theorem addExternal (h : l.Sound g) (module : String) (origin : Origin) : (l.addExternal module origin).Sound g :=
  h.grow (.addNode ..) (h.graph.addNode _)

theorem link (h : l.Sound g) {e : Edge} (hs : e.source ∈ l.graph.nodes) (ht : e.target ∈ l.graph.nodes)
    (hk : e.kind ≠ .orphan) : (l.link e).Sound g := by
  unfold Linking.link
  split
  · exact h.grow (.addEdge ..) (h.graph.addEdge hs ht hk)
  · exact h

theorem linkCounted (h : l.Sound g) {e : Edge} (count : LinkCounts → LinkCounts) (hs : e.source ∈ l.graph.nodes)
    (ht : e.target ∈ l.graph.nodes) (hk : e.kind ≠ .orphan) : (l.linkCounted e count).Sound g := by
  have linked := h.link hs ht hk
  unfold Linking.linkCounted
  simp only
  split
  · exact linked.of_eq rfl rfl
  · exact linked

/-! ### Imports -/

theorem linkImport (h : l.Sound g) (w : World) (i : ImportLink) : (Linking.linkImport w l i).Sound g := by
  rcases linkImport_cases w l i with
    next | ⟨source, known, ⟨target, named, next⟩ | ⟨module, origin, -, ⟨-, next⟩ | ⟨-, next⟩⟩⟩ <;> rw [next]
  · exact h
  · exact h.linkCounted _ (h.names.modules known) (h.names.named named) nofun
  · exact (h.addExternal ..).report ..
  · exact (h.addExternal module origin).linkCounted _ (Graph.mem_nodes_addNode.mpr (Or.inr (h.names.modules known)))
      (mem_addExternal l module origin) nofun

theorem linkImports (h : l.Sound g) (w : World) : (Linking.linkImports w l).Sound g := by
  unfold Linking.linkImports
  exact List.foldlRecOn l.symbols.importLinks _ (motive := Sound g) h fun l hl i _ => hl.linkImport w i

/-! ### Inheritance -/

theorem linkBase (h : l.Sound g) (w : World) (module : String) {cls : ClassDecl} (hcls : cls.id ∈ g.nodes)
    (found : List String) (base : String) : (Linking.linkBase w module cls (l, found) base).1.Sound g := by
  rcases linkBase_cases w module cls l found base with
    ⟨_, _, held, next⟩ | ⟨name, origin, -, ⟨-, next⟩ | ⟨-, next⟩⟩ | next | next | ⟨reason, next⟩ <;> rw [next]
  · exact h.linkCounted _ (h.grows.mem hcls) (h.names.classes held) nofun
  · exact ((h.addExternal ..).openClass _).report ..
  · have added := h.addExternal name origin
    have linked : ((l.addExternal name origin).linkBaseEdge cls.id (Node.external name origin).id).Sound g :=
      added.linkCounted _ (added.grows.mem hcls) (mem_addExternal l name origin) nofun
    exact linked.openClass _
  · exact h
  · exact h.openClass _
  · exact (h.openClass _).report ..

/-- A declaration that still has its name is stored, so its bases can be linked to it. -/
theorem linkClass (h : l.Sound g) (w : World) (module : String) (hierarchy : Hierarchy) (cls : ClassDecl) :
    (Linking.linkClass w module (l, hierarchy) cls).1.Sound g := by
  unfold Linking.linkClass
  split
  · rename_i hcls
    refine h.trans (List.foldlRecOn cls.bases _ (motive := fun state : Linking × List String => state.1.Sound l.graph)
      h.rebase ?_)
    rintro ⟨l', found⟩ hl base -
    exact hl.linkBase w module (h.names.classes hcls) found base
  · exact h

theorem linkInheritance (h : l.Sound g) (w : World) (outlines : List Outline) :
    (Linking.linkInheritance w l outlines).1.Sound g := by
  have linked : (outlines.foldl (fun state o => o.classes.foldl (Linking.linkClass w o.module) state)
      ((l, ∅) : Linking × Hierarchy)).1.Sound g := by
    refine List.foldlRecOn outlines _ (motive := fun state : Linking × Hierarchy => state.1.Sound g) h ?_
    intro state hstate o _
    refine List.foldlRecOn o.classes _ (motive := fun state : Linking × Hierarchy => state.1.Sound g) hstate ?_
    rintro ⟨l', hierarchy⟩ hl cls -
    exact hl.linkClass w o.module hierarchy cls
  exact linked.of_eq rfl rfl

/-! ### Calls -/

/-- The target of a call is an id in the tables of names. -/
theorem callable (h : l.Sound g) {id : NodeId} (callable : l.Callable id) : id ∈ l.graph.nodes :=
  h.names.named (Or.inr callable)

theorem reportCalls (w : World) (module : String) (site : CallSite) (ps : Array Problem) (h : l.Sound g) :
    (ps.foldl (reportCall w module site) l).Sound g := by
  rw [← Array.foldl_toList]
  exact List.foldlRecOn ps.toList _ (motive := Sound g) h fun l hl p _ => hl.report ..

theorem keepCall (h : l.Sound g) (w : World) (module : String) (site : CallSite) :
    (Linking.keepCall w module l site).1.Sound g := by
  unfold Linking.keepCall
  have leads := Graph.Placement.foldl_leads (site.fallback :: site.fragment) { graph := l.graph }
  have sound := Graph.Placement.foldl_sound (p := { graph := l.graph }) (site.fallback :: site.fragment) h.graph
  exact reportCalls w module site _ (h.grow leads.grows sound)

theorem reportProblem (h : l.Sound g) (w : World) (module : String) (site : CallSite) (problem : Option Problem) :
    (problem.elim l (reportCall w module site l)).Sound g := by
  cases problem with
  | none => exact h
  | some p => exact h.report ..

theorem linkCall (h : l.Sound g) (w : World) (module : String) (kept : Array Bool) {site : CallSite}
    (hscope : site.scope ∈ g.nodes) : (Linking.linkCall w module (l, kept) site).1.Sound g := by
  have counted : l.countUnresolved.Sound g := h.of_eq rfl rfl
  rcases linkCall_cases w module l kept site with
    ⟨id, decided, next⟩ | ⟨problem, -, ⟨-, next⟩ | ⟨-, next⟩⟩ <;> rw [next]
  · have linked := h.link (e := ⟨site.scope, id, .calls⟩) (h.grows.mem hscope) (h.callable (decideCall_callable decided)) nofun
    exact linked.of_eq rfl rfl
  · exact (counted.keepCall w module site).reportProblem ..
  · exact counted.reportProblem ..

theorem linkCalls (h : l.Sound g) (w : World) {o : Outline} (hscopes : ∀ site ∈ o.callSites, site.scope ∈ g.nodes) :
    (Linking.linkCalls w l o).Sound g := by
  unfold Linking.linkCalls
  refine List.foldlRecOn o.callSites _ (motive := fun state : Linking × Array Bool => state.1.Sound g) h ?_
  rintro ⟨l', kept⟩ hl site hsite
  exact hl.linkCall w o.module kept (hscopes site hsite)

/-! ### The whole run -/

theorem prepare (h : l.Sound g) (w : World) (outlines : List Outline) : (Linking.prepare w l outlines).Sound g :=
  have linked := (h.linkImports w).linkInheritance w outlines
  ⟨linked.grows, linked.graph, Hierarchy.mergeInherited_all linked.names _⟩

/-- A run keeps the graph sound and loses nothing of it, if the declarations that make calls are
    stored. -/
theorem run (h : l.Sound g) (w : World) {outlines : List Outline}
    (hscopes : ∀ o ∈ outlines, ∀ site ∈ o.callSites, site.scope ∈ g.nodes) : (Linking.run w l outlines).Sound g := by
  rw [run_eq]
  exact List.foldlRecOn outlines _ (motive := Sound g) (h.prepare w outlines)
    fun l hl o ho => hl.linkCalls w (hscopes o ho)

end Sound

end Linking

end ProgramGraph
