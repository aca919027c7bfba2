import ProgramGraph.Proofs.Resolution.Inheritance

/-! The order of the outlines does not matter. Every outline leaves the same marks wherever it stands, so outlines in
    another order leave the same marks in another order; and the classes of different outlines are different nodes,
    so no outline overwrites in the hierarchy what another one has entered. -/

namespace ProgramGraph
open Std Relation ProgramGraph.Graph

/-- Where at most one element contributes, the order of the elements does not matter. -/
theorem flatMap_eq_of_perm {α β : Type} {f : α → List β} {as bs : List α} (perm : as.Perm bs)
    (one : ∀ a ∈ as, ∀ b ∈ as, f a ≠ [] → f b ≠ [] → a = b) : as.flatMap f = bs.flatMap f := by
  rw [List.flatMap_eq_foldl, List.flatMap_eq_foldl]
  refine perm.foldl_eq' (fun a here b there done => ?_) []
  by_cases first : f a = []
  · simp [first]
  · by_cases second : f b = []
    · simp [second]
    · rw [one a here b there first second]

/-! ### Worlds -/

/-- Worlds that give the same answers. -/
structure World.Alike (w w' : World) : Prop where
  classifier : w'.classifier = w.classifier
  paths : ∀ module : String, w'.paths[module]? = w.paths[module]?

/-- Outlines of different modules give every module its file, in any order. -/
theorem World.alike_of_perm (c : Classifier) {outlines outlines' : List Outline} (perm : outlines.Perm outlines')
    (apart : (outlines.map fun o => o.module).Nodup) : (ofOutlines c outlines).Alike (ofOutlines c outlines') := by
  have found {outlines : List Outline} (apart : (outlines.map fun o => o.module).Nodup) {o : Outline}
      (member : o ∈ outlines) : (ofOutlines c outlines).paths[o.module]? = some o.path := by
    refine TreeMap.getElem?_ofList_of_mem ReflCmp.compare_self ?_ (List.mem_map.mpr ⟨o, member, rfl⟩)
    rw [List.pairwise_map]
    exact (List.pairwise_map.mp apart).imp fun other same => other (Std.compare_eq_iff_eq.mp same)
  have missing {outlines : List Outline} {module : String} (none : module ∉ outlines.map fun o => o.module) :
      (ofOutlines c outlines).paths[module]? = Option.none := by
    refine TreeMap.getElem?_ofList_of_contains_eq_false ?_
    simpa using none
  have modules := perm.map fun o : Outline => o.module
  refine ⟨rfl, fun module => ?_⟩
  by_cases known : module ∈ outlines.map fun o => o.module
  · obtain ⟨o, member, rfl⟩ := List.mem_map.mp known
    rw [found apart member, found (modules.nodup_iff.mp apart) (perm.mem_iff.mp member)]
  · rw [missing known, missing (mt modules.mem_iff.mpr known)]

namespace Linking

section
variable {w w' : World}

theorem report_alike (alike : w.Alike w') : report w' = report w := by
  funext l p module line
  unfold report
  rw [alike.paths]

theorem linkImports_alike (alike : w.Alike w') : linkImports w' = linkImports w := by
  have step : linkImport w' = linkImport w := by
    funext l i
    unfold linkImport
    rw [alike.classifier, report_alike alike]
  funext l
  unfold linkImports
  rw [step]

theorem linkInheritance_alike (alike : w.Alike w') : linkInheritance w' = linkInheritance w := by
  have base : linkBase w' = linkBase w := by
    funext module cls state base
    unfold linkBase reportBase
    rw [alike.classifier, report_alike alike]
  have step : linkClass w' = linkClass w := by
    funext module state cls
    unfold linkClass
    rw [base]
  funext l outlines
  unfold linkInheritance
  rw [step]

theorem linkCalls_alike (alike : w.Alike w') : linkCalls w' = linkCalls w := by
  have decide : decideCall w' = decideCall w := by
    funext l module site
    unfold decideCall nameCall
    rw [alike.classifier]
  have record : reportCall w' = reportCall w := by
    funext module site l p
    unfold reportCall
    rw [report_alike alike]
  have step : linkCall w' = linkCall w := by
    funext module state site
    unfold linkCall keepCall
    rw [decide, record]
  funext l o
  unfold linkCalls
  rw [step]

theorem run_alike (alike : w.Alike w') : run w' = run w := by
  funext l outlines
  unfold run
  rw [linkImports_alike alike, linkInheritance_alike alike, linkCalls_alike alike]

end

end Linking

/-! ### Hierarchies -/

namespace Hierarchy

theorem methodTable_equiv {h h' : Hierarchy} (same : TreeMap.Equiv h h') (s : Symbols) (depth : Nat) :
    methodTable s h depth = methodTable s h' depth := by
  have bases (cls : String) : h.bases cls = h'.bases cls := same.getD_eq
  induction depth with
  | zero => rfl
  | succ depth ih =>
    funext cls state
    unfold methodTable
    rw [bases, ih]

theorem mergeInherited_equiv {h h' : Hierarchy} (same : TreeMap.Equiv h h') (s : Symbols) :
    h.mergeInherited s = h'.mergeInherited s := by
  unfold mergeInherited methodTables
  rw [same.keys_eq, same.size_eq, methodTable_equiv same]

end Hierarchy

namespace Linking

/-- The classes of different outlines are different nodes. -/
def DisjointClasses (outlines : List Outline) : Prop :=
  ∀ o ∈ outlines, ∀ o' ∈ outlines, ∀ c ∈ o.classes, ∀ c' ∈ o'.classes, c.id = c'.id → o = o'

section
variable {w : World} {s : Symbols} {l : Linking} {outlines outlines' : List Outline}

theorem classesOf_perm (perm : outlines.Perm outlines') : (classesOf outlines).Perm (classesOf outlines') :=
  perm.flatMap_right _

/-- The classes with one name that are entered are all of one outline. -/
theorem entries_perm (disjoint : DisjointClasses outlines) (perm : outlines.Perm outlines') (cls : String) :
    ((classesOf outlines).flatMap (classEntries w s)).filter (fun entry => entry.1 == cls) =
      ((classesOf outlines').flatMap (classEntries w s)).filter (fun entry => entry.1 == cls) := by
  let part (o : Outline) := (o.classes.flatMap fun c => classEntries w s (o.module, c)).filter fun entry => entry.1 == cls
  have whole (outlines : List Outline) : ((classesOf outlines).flatMap (classEntries w s)).filter
      (fun entry => entry.1 == cls) = outlines.flatMap part := by
    simp only [classesOf, List.flatMap_assoc, List.flatMap_map, List.filter_flatMap, part]
  have found {o : Outline} (enters : part o ≠ []) : ∃ c ∈ o.classes, s.class? cls = some c.id := by
    obtain ⟨entry, member⟩ := List.exists_mem_of_ne_nil _ enters
    obtain ⟨entered, name⟩ := List.mem_filter.mp member
    obtain ⟨c, stated, entered⟩ := List.mem_flatMap.mp entered
    obtain ⟨held, rfl⟩ := mem_classEntries entered
    exact ⟨c, stated, beq_iff_eq.mp name ▸ held⟩
  rw [whole, whole]
  -- The name stands for one node, and a node is a class of one outline only.
  refine flatMap_eq_of_perm perm fun o here o' there enters enters' => ?_
  obtain ⟨c, stated, held⟩ := found enters
  obtain ⟨c', stated', held'⟩ := found enters'
  rw [held] at held'
  exact disjoint o here o' there c stated c' stated' (Option.some.inj held')

theorem hierarchy_perm (disjoint : DisjointClasses outlines) (perm : outlines.Perm outlines') :
    TreeMap.Equiv (hierarchy w l outlines) (hierarchy w l outlines') := by
  refine TreeMap.Equiv.of_forall_constGet?_eq fun cls => ?_
  rw [(linkBases_leaves w l outlines).2, (linkBases_leaves w l outlines').2, getElem?_enterBases, getElem?_enterBases,
    entries_perm disjoint perm]

end

/-! ### Agreement -/

/-- States that differ in nodes, in containment and in the order of records at most. -/
structure Agrees (l l' : Linking) : Prop where
  links : ∀ e : Edge, e.kind.isLink = true → (e ∈ l'.graph.edges ↔ e ∈ l.graph.edges)
  symbols : l'.symbols = l.symbols
  opened : ∀ q, q ∈ l'.openClasses ↔ q ∈ l.openClasses
  counts : l'.counts = l.counts
  records : (l'.graph.recordsOf .unresolvedReference).Perm (l.graph.recordsOf .unresolvedReference)

theorem Agrees.refl (l : Linking) : Agrees l l :=
  ⟨fun _ _ => Iff.rfl, rfl, fun _ => Iff.rfl, rfl, .refl _⟩

/-- The same marks, in some order, lead from states that agree to states that agree. -/
theorem Agrees.leaves {l₁ l₁' l₂ l₂' : Linking} {marks marks' : List Mark} (agrees : Agrees l₁ l₁')
    (first : Leaves l₁ marks l₂) (second : Leaves l₁' marks' l₂') (perm : marks'.Perm marks) (tallied : l₂.Tallied)
    (tallied' : l₂'.Tallied) : Agrees l₂ l₂' := by
  have links (e : Edge) (is : e.kind.isLink = true) : e ∈ l₂'.graph.edges ↔ e ∈ l₂.graph.edges := by
    rw [second.links e is, first.links e is, agrees.links e is, perm.mem_iff]
  -- Imports and bases are counted when an edge is new, so their numbers are read off the edges, not off the marks.
  have as_many (kind : EdgeKind) (is : kind.isLink = true) :
      (l₂'.graph.edgesOfKind kind).length = (l₂.graph.edgesOfKind kind).length :=
    length_edgesOfKind_congr fun e same => links e (same ▸ is)
  have imports : l₂'.counts.imports = l₂.counts.imports := by
    rw [tallied'.imports, tallied.imports, as_many .importing rfl]
  have bases : l₂'.counts.bases = l₂.counts.bases := by
    rw [tallied'.bases, tallied.bases, as_many .inherits rfl]
  have resolved : l₂'.counts.callsResolved = l₂.counts.callsResolved := by
    rw [second.resolved, first.resolved, agrees.counts, perm.count_eq]
  have unresolved : l₂'.counts.callsUnresolved = l₂.counts.callsUnresolved := by
    rw [second.unresolved, first.unresolved, agrees.counts, perm.count_eq]
  have fields (c : LinkCounts) : c = ⟨c.imports, c.bases, c.callsResolved, c.callsUnresolved⟩ := rfl
  exact {
    links
    symbols := by rw [second.symbols, first.symbols, agrees.symbols]
    opened := fun q => by rw [second.opened, first.opened, agrees.opened, perm.mem_iff]
    counts := by rw [fields l₂'.counts, fields l₂.counts, imports, bases, resolved, unresolved]
    records := by
      rw [second.records, first.records]
      exact agrees.records.append (perm.filterMap _) }

section
variable {w : World} {l : Linking} {outlines outlines' : List Outline}

theorem linkBases_tallied (tallied : l.Tallied) : (linkBases w l outlines).1.Tallied := by
  have imports : Moves w .importing (fun _ => False) l (linkImports w l) := linkImports_moves w l
  have bases : Moves w .inherits (fun _ => False) (linkImports w l) _ := linkClasses_moves w outlines (linkImports w l, ∅)
  unfold linkBases
  rw [← linkClasses_eq]
  exact bases.tallied (imports.tallied tallied)

theorem prepare_tallied (tallied : l.Tallied) : (prepare w l outlines).Tallied := by
  have before : (linkBases w l outlines).1.Tallied := linkBases_tallied tallied
  rw [prepare_eq]
  exact ⟨before.imports, before.bases⟩

theorem run_tallied (tallied : l.Tallied) : (run w l outlines).Tallied :=
  (linkAllCalls_moves w (prepare w l outlines) outlines).tallied (prepare_tallied tallied)

theorem prepare_agrees (disjoint : DisjointClasses outlines) (perm : outlines.Perm outlines') (tallied : l.Tallied) :
    Agrees (prepare w l outlines) (prepare w l outlines') := by
  have same : TreeMap.Equiv (hierarchy w l outlines) (hierarchy w l outlines') := hierarchy_perm disjoint perm
  have bases : Agrees (linkBases w l outlines).1 (linkBases w l outlines').1 :=
    (Agrees.refl (linkImports w l)).leaves (linkBases_leaves w l outlines).1 (linkBases_leaves w l outlines').1
      ((classesOf_perm perm).flatMap_right _).symm (linkBases_tallied tallied) (linkBases_tallied tallied)
  -- Equal hierarchies may be stored in different ways, so openness is told by its bases.
  have hasBase : (hierarchy w l outlines').HasBase = (hierarchy w l outlines).HasBase := by
    funext cls base
    unfold Hierarchy.HasBase Hierarchy.bases
    rw [same.getD_eq]
  rw [prepare_eq, prepare_eq]
  exact {
    links := bases.links
    symbols := (Hierarchy.mergeInherited_equiv same l.symbols).symm
    opened := fun q => by
      rw [mem_spreadOpen_iff, mem_spreadOpen_iff, hasBase]
      simp only [bases.opened]
    counts := bases.counts
    records := bases.records }

/-- What calls leave depends on the names and the open classes only. -/
theorem outlineMarks_congr {p p' : Linking} (symbols : p'.symbols = p.symbols)
    (opened : ∀ q, q ∈ p'.openClasses ↔ q ∈ p.openClasses) : outlineMarks w p' = outlineMarks w p := by
  funext o
  unfold outlineMarks
  refine congrArg (List.flatMap · o.callSites) (funext fun site => ?_)
  unfold callMarks
  rw [decideCall_congr_mem symbols opened]

/-- A run over outlines in another order ends in a state that agrees. -/
theorem run_agrees (disjoint : DisjointClasses outlines) (perm : outlines.Perm outlines') (tallied : l.Tallied) :
    Agrees (run w l outlines) (run w l outlines') := by
  have before : Agrees (prepare w l outlines) (prepare w l outlines') := prepare_agrees disjoint perm tallied
  have marks := outlineMarks_congr (w := w) before.symbols before.opened
  refine before.leaves (linkAllCalls_leaves w _ outlines) (linkAllCalls_leaves w _ outlines') ?_ (run_tallied tallied)
    (run_tallied tallied)
  rw [marks]
  exact (perm.flatMap_right _).symm

end

end Linking

end ProgramGraph
