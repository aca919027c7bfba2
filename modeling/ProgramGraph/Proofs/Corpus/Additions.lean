import ProgramGraph.Proofs.Corpus.Entries
import ProgramGraph.Proofs.Resolution.Inheritance

/-! What a resolution adds. The graph keeps all that it has; it gains modules from outside of the project, nodes of
    call sites, links, and the containment of the new nodes. The names of modules, classes and imports stay as they
    are, and a class gains a method only under a name for which it has none (`Linking.OnlyAdds`). Every change of a
    phase adds such things only; the methods come with the merge, between two phases. -/

namespace ProgramGraph
open Std Relation

namespace Linking

/-- Nothing of `l` is lost in `l'`, and what `l'` has besides is of the kinds that a resolution of `outlines` adds. -/
structure OnlyAdds (outlines : List Outline) (l l' : Linking) : Prop where
  grows : l.graph.Grows l'.graph
  nodes : ∀ {id n}, l'.graph.node? id = some n → l.graph.node? id = some n ∨ (∃ name origin, n = .external name origin) ∨
    ∃ o ∈ outlines, ∃ site ∈ o.callSites, n ∈ site.fallback :: site.fragment
  edges : ∀ {e}, e ∈ l'.graph.edges → e ∈ l.graph.edges ∨ (e.kind = .importing ∧ e.source ≠ e.target) ∨
    (e.kind = .inherits ∧ e.source ≠ e.target) ∨ e.kind = .calls ∨ l.graph.Hangs l'.graph e
  modules : l'.symbols.modules = l.symbols.modules
  classes : l'.symbols.classes = l.symbols.classes
  imports : l'.symbols.imports = l.symbols.imports
  wildcards : l'.symbols.wildcards = l.symbols.wildcards
  functions : ∀ {owner name id}, l.symbols.function? owner name = some id → l'.symbols.function? owner name = some id
  methods : ∀ {owner name id}, l'.symbols.function? owner name = some id → l.symbols.function? owner name = some id ∨
    (l.symbols.function? owner name = none ∧ ∃ cls, l.symbols.class? owner = some cls)

variable {w : World} {outlines : List Outline}

/-- An edge that may be made and links is no edge from a node to itself, calls apart. -/
theorem link_cases {e : Edge} (links : e.kind.isLink = true) (may : mayLink e = true) :
    (e.kind = .importing ∧ e.source ≠ e.target) ∨ (e.kind = .inherits ∧ e.source ≠ e.target) ∨ e.kind = .calls := by
  have apart : e.source ≠ e.target ∨ e.kind = .calls := by simpa [mayLink] using may
  rcases apart with apart | calls
  · cases kind : e.kind with
    | importing => exact Or.inl ⟨rfl, apart⟩
    | inherits => exact Or.inr (Or.inl ⟨rfl, apart⟩)
    | calls => exact Or.inr (Or.inr rfl)
    | containment | orphan => simp [kind, EdgeKind.isLink] at links
  · exact Or.inr (Or.inr calls)

/-- A method that the merge enters is entered for a class, under a name for which the class had none. -/
theorem function?_run {l : Linking} {owner name : String} {id : NodeId}
    (found : (run w l outlines).symbols.function? owner name = some id) : l.symbols.function? owner name = some id ∨
      (l.symbols.function? owner name = none ∧ ∃ cls, l.symbols.class? owner = some cls) := by
  rw [symbols_run] at found
  cases had : l.symbols.function? owner name with
  | some kept =>
    rw [Hierarchy.function?_mergeInherited had] at found
    exact Or.inl found
  | none =>
    obtain ⟨q, way, declared⟩ := Hierarchy.mergeInherited_from found
    refine Or.inr ⟨rfl, ?_⟩
    -- Another class declares the function, so `owner` has a base, and only classes do.
    rcases way.cases_head with rfl | ⟨base, has, -⟩
    · rw [had] at declared
      cases declared
    · obtain ⟨cls, _, here, -⟩ := link_of_hasBase has
      exact ⟨cls, here⟩

/-- What a graph that a run reaches from `g₀` has besides. -/
structure Gained (w : World) (sites : CallSite → Prop) (g₀ g : Graph) : Prop where
  grows : g₀.Grows g
  nodes : ∀ {id n}, g.node? id = some n → g₀.node? id = some n ∨
    (∃ module, n = .external module (w.classifier.origin (Dotted.head module))) ∨
      ∃ site, sites site ∧ n ∈ site.fallback :: site.fragment
  edges : ∀ {e}, e ∈ g.edges → e ∈ g₀.edges ∨ (e.kind.isLink = true ∧ mayLink e = true) ∨ g₀.Hangs g e

namespace Gained
variable {sites : CallSite → Prop} {kind : EdgeKind} {g₀ g g' : Graph}

theorem refl (g : Graph) : Gained w sites g g := ⟨.refl g, Or.inl, Or.inl⟩

theorem change (gained : Gained w sites g₀ g) (links : kind.isLink = true) (change : Change w kind sites g g') :
    Gained w sites g₀ g' where
  grows := gained.grows.trans change.grows
  nodes stored := (change.node_added stored).elim gained.nodes Or.inr
  edges {e} member := by
    rcases change.edge_added member with member | ⟨same, may⟩ | hangs
    · rcases gained.edges member with old | link | hangs
      · exact Or.inl old
      · exact Or.inr (Or.inl link)
      · exact Or.inr (Or.inr (hangs.mono (.refl _) change.grows))
    · exact Or.inr (Or.inl ⟨same ▸ links, may⟩)
    · exact Or.inr (Or.inr (hangs.mono gained.grows (.refl _)))

end Gained

theorem run_onlyAdds (w : World) (l : Linking) (outlines : List Outline) : OnlyAdds outlines l (run w l outlines) := by
  have gained : Gained w (fun site => ∃ o ∈ outlines, site ∈ o.callSites) l.graph (run w l outlines).graph :=
    run_keeps w l outlines (.refl _) fun _ links _ _ change before => before.change links change
  -- Calls change no names, and the merge changes functions and ambiguous names only.
  have names {α : Type} (view : Symbols → α)
      (setFunction : ∀ s owner name id, view (Symbols.setFunction s owner name id) = view s)
      (markAmbiguous : ∀ s cls name, view (Symbols.markAmbiguous s cls name) = view s) :
      view (run w l outlines).symbols = view l.symbols := by
    rw [symbols_run]
    exact Hierarchy.view_mergeInherited view setFunction markAmbiguous _ _
  exact {
    grows := gained.grows
    nodes := fun stored => by
      rcases gained.nodes stored with old | ⟨module, external⟩ | ⟨site, ⟨o, member, here⟩, emitted⟩
      · exact Or.inl old
      · exact Or.inr (Or.inl ⟨module, _, external⟩)
      · exact Or.inr (Or.inr ⟨o, member, site, here, emitted⟩)
    edges := fun member => by
      rcases gained.edges member with old | ⟨links, may⟩ | hangs
      · exact Or.inl old
      · rcases link_cases links may with importing | inherits | calls
        · exact Or.inr (Or.inl importing)
        · exact Or.inr (Or.inr (Or.inl inherits))
        · exact Or.inr (Or.inr (Or.inr (Or.inl calls)))
      · exact Or.inr (Or.inr (Or.inr (Or.inr hangs)))
    modules := names (·.modules) (fun _ _ _ _ => rfl) fun _ _ _ => rfl
    classes := names (·.classes) (fun _ _ _ _ => rfl) fun _ _ _ => rfl
    imports := names (·.imports) (fun _ _ _ _ => rfl) fun _ _ _ => rfl
    wildcards := names (·.wildcards) (fun _ _ _ _ => rfl) fun _ _ _ => rfl
    functions := fun found => by
      rw [symbols_run]
      exact Hierarchy.function?_mergeInherited found
    methods := function?_run }

end Linking

namespace FileTree

/-- The resolution of a tree only adds to the graph and to the names that entering its files leaves. -/
theorem resolution_only_adds (t : FileTree) (labelLimit : Nat) (c : Classifier) :
    Linking.OnlyAdds (t.intake labelLimit).outlines.toList (t.unresolved labelLimit) (t.linking labelLimit c) :=
  Linking.run_onlyAdds (t.world labelLimit c) (t.unresolved labelLimit) _

end FileTree

end ProgramGraph
