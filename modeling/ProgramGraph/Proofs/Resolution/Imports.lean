import ProgramGraph.Proofs.Resolution.Moves

/-! What imports leave behind. Every import is linked in a state that has the names of the start, and what it adds
    stays (`Linking.linkImports_at`). An import that leads outside of the project adds the node of the module it
    names, unless the id is taken; then an edge to that id if the origin is known, and a record if it is not
    (`Linking.linkImport_lacks`). -/

namespace ProgramGraph
open Std

theorem values_eq_map {α : Type} (table : TreeMap String α) : table.values = table.toList.map (·.2) := by
  have folded : table.values = table.foldr (fun _ a as => a :: as) [] := rfl
  rw [folded, TreeMap.foldr_eq_foldr_toList, List.map_eq_foldr]

/-! ### Nodes from outside -/

namespace Node
variable {module other : String} {origin origin' : Origin}

/-- Nodes from outside with one id belong to one module and stand for one. -/
theorem external_id_inj (same : (external module origin).id = (external other origin').id) :
    externalModule origin = externalModule origin' ∧ module = other := by
  have letters := congrArg String.toList same
  cases origin <;> cases origin' <;>
    simp [id, external, externalModule, Dotted.qualify, String.toList_inj] at letters <;> exact ⟨rfl, letters⟩

theorem externalModule_ne_unresolved (known : origin ≠ .unresolved) :
    externalModule origin ≠ externalModule .unresolved := by
  cases origin with
  | unresolved => exact absurd rfl known
  | standardLibrary | thirdParty => simp [externalModule]

theorem head_externalModule (origin : Origin) : Dotted.head (externalModule origin) = externalModule origin := by
  cases origin <;> decide +kernel

end Node

/-! ### Registered imports -/

namespace Symbols

/-- A module imports a path, by a statement that names the module `imported`. -/
def Imports (s : Symbols) (module target imported : String) : Prop :=
  (∃ localName b, s.binding? module localName = some b ∧ b.target = target ∧ b.module = imported) ∨
    target ∈ s.wildcardsOf module ∧ imported = target

variable {s : Symbols} {module target imported : String}

/-- All that a module imports is linked. -/
theorem exists_importLink (imports : s.Imports module target imported) :
    ∃ line, ⟨module, target, imported, line⟩ ∈ s.importLinks := by
  rcases imports with ⟨localName, b, bound, rfl, rfl⟩ | ⟨starred, same⟩
  · refine ⟨some b.line, List.mem_append_left _ (List.mem_flatMap.mpr ⟨(module, s.importsOf module), ?_, ?_⟩)⟩
    · rw [TreeMap.mem_toList_iff_getElem?_eq_some]
      unfold binding? importsOf at bound
      unfold importsOf
      cases known : s.imports[module]? with
      | none => simp [TreeMap.getD_eq_getD_getElem?, known] at bound
      | some bindings => simp [TreeMap.getD_eq_getD_getElem?, known]
    · refine List.mem_map.mpr ⟨b, ?_, rfl⟩
      rw [values_eq_map]
      exact List.mem_map.mpr ⟨(localName, b), TreeMap.mem_toList_iff_getElem?_eq_some.mpr bound, rfl⟩
  · refine ⟨none, List.mem_append_right _ (List.mem_flatMap.mpr ⟨(module, s.wildcardsOf module), ?_, ?_⟩)⟩
    · rw [TreeMap.mem_toList_iff_getElem?_eq_some]
      unfold wildcardsOf at starred ⊢
      cases known : s.wildcards[module]? with
      | none => simp [TreeMap.getD_eq_getD_getElem?, known] at starred
      | some targets => simp [TreeMap.getD_eq_getD_getElem?, known]
    · rw [same]
      exact List.mem_map.mpr ⟨target, TreeSet.mem_toList.mpr starred, rfl⟩

/-- An outline registers imports of its own module only. -/
theorem imports_register {o : Outline} (other : o.module ≠ module)
    (imports : (s.register o).1.Imports module target imported) : s.Imports module target imported := by
  have same : ((s.register o).1.importsOf module, (s.register o).1.wildcardsOf module) =
      (s.importsOf module, s.wildcardsOf module) := by
    refine view_foldl_attempt (fun s => (s.importsOf module, s.wildcardsOf module)) (fun add member s s' added => ?_)
      (s, #[])
    rcases declaration_cases member added with
      rfl | rfl | ⟨localName, b, rfl⟩ | ⟨target, rfl⟩ | ⟨c, -, rfl⟩ | ⟨d, -, rfl⟩
    · rfl
    · rfl
    · simp [importsOf, wildcardsOf, TreeMap.getD_insert, other]
    · simp [addWildcard, importsOf, wildcardsOf, TreeMap.getD_insert, other]
    · rfl
    · rfl
  obtain ⟨bound, starred⟩ := Prod.mk.inj same
  unfold Imports binding? at imports ⊢
  rwa [bound, starred] at imports

end Symbols

/-! ### Linking an import -/

/-- The graph has a record that a module imports a path that nothing accounts for. -/
def Graph.RecordsImport (g : Graph) (module target : String) : Prop :=
  ∃ d ∈ g.diagnostics, d.kind = .unresolvedReference ∧ d.module = some module ∧
    d.message = (Problem.unresolvedReference module target Linking.unaccountedImport).message

theorem Graph.Grows.recordsImport {g g' : Graph} (grows : g.Grows g') {module target : String}
    (records : g.RecordsImport module target) : g'.RecordsImport module target := by
  obtain ⟨d, member, is⟩ := records
  exact ⟨d, grows.diagnostic member, is⟩

/-- The graph has a record of an import that it reports. -/
theorem Graph.recordsImport_report (g : Graph) (module target : String) (path : Option String) (line : Option Nat) :
    (g.report (.unresolvedReference module target Linking.unaccountedImport) path line).RecordsImport module target := by
  unfold RecordsImport
  rw [diagnostics_report]
  exact ⟨_, Array.mem_append_right _ (Array.mem_singleton.mpr rfl), rfl, rfl, rfl⟩

namespace Linking
variable {w : World} {l : Linking} {i : ImportLink} {source : NodeId}

/-- An import that leads outside of the project, of a module that comes from `origin`: what stands for that module is
    stored; the importing module has an edge to it if the origin is known, and a record if it is not. -/
structure LinksOutside (g : Graph) (i : ImportLink) (source : NodeId) (origin : Origin) : Prop where
  stored : (Node.external i.imported origin).id ∈ g.nodes
  linked : origin ≠ .unresolved → source ≠ (Node.external i.imported origin).id →
    ⟨source, (Node.external i.imported origin).id, .importing⟩ ∈ g.edges
  recorded : origin = .unresolved → g.RecordsImport i.module i.target

theorem LinksOutside.grows {g g' : Graph} {origin : Origin} (links : LinksOutside g i source origin) (grows : g.Grows g') :
    LinksOutside g' i source origin where
  stored := grows.mem links.stored
  linked known apart := grows.edge (links.linked known apart)
  recorded nowhere := grows.recordsImport (links.recorded nowhere)

theorem mem_edges_linkImportEdge (l : Linking) {source target : NodeId} (apart : source ≠ target) :
    ⟨source, target, .importing⟩ ∈ (l.linkImportEdge source target).graph.edges := by
  have may : mayLink ⟨source, target, .importing⟩ = true := by simp [mayLink, apart]
  have linked : ⟨source, target, .importing⟩ ∈ (l.link ⟨source, target, .importing⟩).graph.edges := by
    unfold link
    rw [if_pos may]
    exact Graph.mem_edges_addEdge.mpr (Or.inl rfl)
  unfold linkImportEdge linkCounted
  simp only
  split <;> exact linked

/-- An import that leads outside of the project is linked as such. -/
theorem linkImport_lacks (known : l.symbols.module? i.module = some source) (lacks : l.symbols.Lacks i.target) :
    LinksOutside (linkImport w l i).graph i source (w.classifier.origin (Dotted.head i.imported)) := by
  unfold linkImport
  simp only [known, l.symbols.lookup_of_lacks w.classifier lacks]
  generalize w.classifier.origin (Dotted.head i.imported) = origin
  have added := mem_addExternal l i.imported origin
  have moves : Moves w .importing (fun _ => False) (l.addExternal i.imported origin)
      ((l.addExternal i.imported origin).linkImportEdge source (Node.external i.imported origin).id) :=
    linkImportEdge_moves ..
  cases origin with
  | unresolved => exact
    { stored := (Graph.Grows.report ..).mem added
      linked := fun known => absurd rfl known
      recorded := fun _ => Graph.recordsImport_report .. }
  | standardLibrary | thirdParty => exact
    { stored := moves.grows.mem added
      linked := fun _ apart => mem_edges_linkImportEdge _ apart
      recorded := nofun }

/-- Every import is linked in a state with the names of the start, and what it adds stays. -/
theorem linkImports_at (w : World) (l : Linking) (member : i ∈ l.symbols.importLinks) :
    ∃ l', l'.symbols = l.symbols ∧ (linkImport w l' i).graph.Grows (linkImports w l).graph := by
  obtain ⟨before, after, split⟩ := List.append_of_mem member
  have first : Moves w .importing (fun _ => False) l (before.foldl (linkImport w) l) :=
    .foldl id before l fun l i _ => linkImport_moves w l i
  have rest (l : Linking) : Moves w .importing (fun _ => False) l (after.foldl (linkImport w) l) :=
    .foldl id after l fun l i _ => linkImport_moves w l i
  refine ⟨before.foldl (linkImport w) l, first.symbols, ?_⟩
  unfold linkImports
  rw [split, List.foldl_append, List.foldl_cons]
  exact (rest _).grows

/-- What linking the imports leaves is still there after the whole run. -/
theorem grows_linkImports (w : World) (l : Linking) (outlines : List Outline) :
    (linkImports w l).graph.Grows (run w l outlines).graph := by
  have bases : Moves w .inherits (fun _ => False) (linkImports w l) _ := linkInheritance_moves w (linkImports w l) outlines
  exact bases.grows.trans (linkAllCalls_moves w (prepare w l outlines) outlines).grows

end Linking

end ProgramGraph
