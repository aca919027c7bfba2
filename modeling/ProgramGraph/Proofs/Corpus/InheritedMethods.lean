import ProgramGraph.Proofs.Corpus.Entries
import ProgramGraph.Proofs.Resolution.Coverage

/-! Inheritance edges and method tables. The edges are linked statement by statement, but of a class that is stated
    again only the last statement stays in the hierarchy, which methods are inherited by. For the bases that it
    names the edges and the tables agree: a class knows every method name that such a base knows, and it is open if
    the base is. -/

namespace ProgramGraph
open Std Relation

namespace Linking

/-! ### The last statement of a class -/

/-- Of the statements of a class that the names of the project hold, the last one names this class as a base. -/
def LastStates (w : World) (s : Symbols) (outlines : List Outline) (cls base : String) : Prop :=
  ∃ before entry after, classesOf outlines = before ++ entry :: after ∧
    entry.2.qualname = cls ∧ s.class? cls = some entry.2.id ∧
    (∀ later ∈ after, later.2.qualname = cls → s.class? cls ≠ some later.2.id) ∧
    ∃ written ∈ entry.2.bases, ∃ id, s.resolve w.classifier entry.1 written = .class base id

section
variable {w : World} {l : Linking} {outlines : List Outline} {cls base : String}

/-- What the last statement of a class names stays in the hierarchy. -/
theorem hasBase_of_lastStates (last : LastStates w l.symbols outlines cls base) :
    (hierarchy w l outlines).HasBase cls base := by
  obtain ⟨before, entry, after, split, rfl, held, final, written, member, id, referent⟩ := last
  have found := getElem?_hierarchy (w := w) split held fun later here name held' => final later here name (name ▸ held')
  have named : base ∈ baseNames w l.symbols entry.1 written := mem_baseNames.mpr ⟨id, referent⟩
  exact hasBase_of_getElem? found (List.mem_flatMap.mpr ⟨written, member, named⟩)

theorem mem_openClasses_of_base (has : (hierarchy w l outlines).HasBase cls base)
    (opened : base ∈ (prepare w l outlines).openClasses) : cls ∈ (prepare w l outlines).openClasses := by
  rw [prepare_eq] at opened ⊢
  exact (spreadOpen_closed ..).2 has opened

/-- A base on another node does not lead back to its class where inheritance edges form no cycle. -/
theorem apart_of_acyclic (acyclic : ∀ id, ¬TransGen (prepare w l outlines).graph.Inherits id id)
    (has : (hierarchy w l outlines).HasBase cls base) (other : l.symbols.class? cls ≠ l.symbols.class? base) :
    ¬ReflTransGen (hierarchy w l outlines).HasBase base cls := by
  intro way
  obtain ⟨a, b, here, there, linked⟩ := link_of_hasBase has
  obtain ⟨a', here', back⟩ := inherits_of_hasBase way there
  rw [here] at here'
  cases here'
  rcases linked with rfl | linked
  · exact other (here.trans there.symm)
  · have edge : (prepare w l outlines).graph.Inherits a b := by
      rw [prepare_eq]
      exact linked
    exact acyclic a (TransGen.head' edge back)

end

end Linking

namespace FileTree
variable (t : FileTree) (labelLimit : Nat) (c : Classifier)

/-- Of the statements of a class in the tree that its name stands for, the last one names this class as a base. -/
def LastStates (cls base : String) : Prop :=
  Linking.LastStates (t.world labelLimit c) (t.intake labelLimit).symbols (t.intake labelLimit).outlines.toList cls base

theorem intake_unmarked (cls name : String) : (t.intake labelLimit).symbols.isAmbiguous cls name = false :=
  t.intake_of_steps labelLimit (P := fun i => i.symbols.isAmbiguous cls name = false) (by simp [Symbols.isAmbiguous])
    (fun _ _ unmarked => unmarked)
    fun {i _ _} _ _ unmarked => (Symbols.isAmbiguous_register i.symbols _ cls name).trans unmarked

/-- Calls change no name and open no class. -/
theorem linking_moves :
    Linking.Moves (t.world labelLimit c) .calls (fun _ => True) (t.prepared labelLimit c) (t.linking labelLimit c) :=
  (Linking.linkAllCalls_moves (t.world labelLimit c) (t.prepared labelLimit c) _).mono fun _ _ => trivial

/-- Where inheritance edges form no cycle, an edge to a base that the last statement of a class names agrees with the
    methods: every name that the base has as a function or as an ambiguous name the class has too, and the class
    is open if the base is. -/
theorem inherited_names_agree (acyclic : ∀ id, ¬TransGen (t.resolve labelLimit c).Inherits id id) {cls base : String}
    {a b : NodeId} (child : (t.linking labelLimit c).symbols.class? cls = some a)
    (parent : (t.linking labelLimit c).symbols.class? base = some b) (edge : (t.resolve labelLimit c).Inherits a b)
    (last : t.LastStates labelLimit c cls base) :
    (∀ name, (t.linking labelLimit c).symbols.Knows base name → (t.linking labelLimit c).symbols.Knows cls name) ∧
      (base ∈ (t.linking labelLimit c).openClasses → cls ∈ (t.linking labelLimit c).openClasses) := by
  have moves := t.linking_moves labelLimit c
  have has := Linking.hasBase_of_lastStates (l := t.unresolved labelLimit) last
  have lift : ∀ a b, (t.prepared labelLimit c).graph.Inherits a b → (t.resolve labelLimit c).Inherits a b :=
    fun _ _ linked => Linking.inherits_run_iff.mpr linked
  -- Calls add no inheritance edges, so there is no cycle before the calls either.
  have before : ∀ id, ¬TransGen (t.prepared labelLimit c).graph.Inherits id id :=
    fun id cycle => acyclic id (TransGen.mono lift id id cycle)
  rw [moves.symbols] at child parent ⊢
  rw [moves.opened nofun]
  refine ⟨fun name knows => ?_, Linking.mem_openClasses_of_base has⟩
  have classes (q : String) : (t.prepared labelLimit c).symbols.class? q = (t.unresolved labelLimit).symbols.class? q :=
    Linking.class?_prepare q
  -- If both names were of one node, the edge would close a cycle.
  have other : (t.unresolved labelLimit).symbols.class? cls ≠ (t.unresolved labelLimit).symbols.class? base := by
    rw [← classes, ← classes, child, parent]
    rintro same
    cases same
    exact acyclic a (.single edge)
  have merged : (t.prepared labelLimit c).symbols = Hierarchy.mergeInherited (Linking.hierarchy (t.world labelLimit c)
      (t.unresolved labelLimit) (t.intake labelLimit).outlines.toList) (t.intake labelLimit).symbols :=
    congrArg Linking.symbols Linking.prepare_eq
  rw [merged] at knows ⊢
  exact Hierarchy.knows_mergeInherited (t.intake_unmarked labelLimit)
    (fun cls base => (t.unresolved labelLimit).symbols.class? cls ≠ (t.unresolved labelLimit).symbols.class? base)
    (fun has other => Linking.apart_of_acyclic before has other) has other knows

set_option maxRecDepth 100000 in
/-- Of two classes with a base that has a method, one is stated again without it. -/
theorem stated_again :
    let t := FileTree.ofFiles [("m.py", "class B:\n def m(): 0\nclass C(B): 0\nclass C: 0\nclass D(B): 0\n")]
    let c := Classifier.ofPackages [] false
    let s := (t.linking 48 c).symbols
    (∀ id, ¬TransGen (t.resolve 48 c).Inherits id id) ∧
      (s.class? "m.B" = some "m.B" ∧ s.class? "m.C" = some "m.C" ∧ s.class? "m.D" = some "m.D") ∧
      ((t.resolve 48 c).Inherits "m.C" "m.B" ∧ (t.resolve 48 c).Inherits "m.D" "m.B") ∧
      t.LastStates 48 c "m.D" "m.B" ∧ s.Knows "m.B" "m" ∧ ¬s.Knows "m.C" "m" := by
  intro t c s
  have unit : t.units = [⟨"m.py", "m", "class B:\n def m(): 0\nclass C(B): 0\nclass C: 0\nclass D(B): 0\n"⟩] :=
    units_of_sorted (by decide +kernel) (by decide +kernel)
  have checked : (Syntax.parse "class B:\n def m(): 0\nclass C(B): 0\nclass C: 0\nclass D(B): 0\n").toOption.any
      (fun statements =>
        let i := Intake.ofFiles [("m.py", .ok (.ofStatements 48 "m" "m.py" statements))]
        let l := resolveOutlines (.ofPackages [] false) i.graph i.symbols i.outlines.toList
        decide (∀ e ∈ l.graph.edgeList, e.kind = .inherits →
          (if e.target = "m.B" then 0 else 1) < (if e.source = "m.B" then 0 else 1)) &&
        decide (l.symbols.class? "m.B" = some "m.B" ∧ l.symbols.class? "m.C" = some "m.C" ∧
          l.symbols.class? "m.D" = some "m.D") &&
        (l.graph.edges.contains ⟨"m.C", "m.B", .inherits⟩ && l.graph.edges.contains ⟨"m.D", "m.B", .inherits⟩) &&
        decide (l.symbols.Knows "m.B" "m" ∧ ¬l.symbols.Knows "m.C" "m") &&
        (Linking.classesOf i.outlines.toList).getLast?.any fun entry =>
          decide (entry.2.qualname = "m.D") && decide (i.symbols.class? "m.D" = some entry.2.id) &&
          entry.2.bases.any fun written =>
            decide (i.symbols.resolve (.ofPackages [] false) entry.1 written = .class "m.B" "m.B")) = true := by
    decide +kernel
  obtain ⟨statements, read, checked⟩ := Syntax.exists_parse checked
  have entered := intake_of_unit 48 unit read
  simp only [← entered, resolveOutlines_intake, TreeSet.contains_iff_mem, Bool.and_eq_true, decide_eq_true_eq] at checked
  obtain ⟨⟨⟨⟨lower, classes⟩, edges⟩, known⟩, stated⟩ := checked
  rw [edgeList_linking] at lower
  rw [edges_linking] at edges
  have acyclic := not_transGen_self (r := (t.resolve 48 (.ofPackages [] false)).Inherits)
    (fun id => if id = "m.B" then 0 else 1) fun _ _ edge => lower _ (Graph.mem_edgeList.mpr edge) rfl
  refine ⟨acyclic, classes, edges, ?_, known⟩
  obtain ⟨entry, final, stated⟩ := (Option.any_eq_true ..).mp stated
  obtain ⟨before, listed⟩ := List.getLast?_eq_some_iff.mp final
  simp only [Bool.and_eq_true, decide_eq_true_eq, List.any_eq_true] at stated
  obtain ⟨⟨name, held⟩, written, member, referent⟩ := stated
  exact ⟨before, entry, [], listed, name, held, List.forall_mem_nil _, written, member, _, referent⟩

/-- The theorem for a class with a base that has a method. -/
theorem inherited_names_agree_single :
    let t := FileTree.ofFiles [("m.py", "class B:\n def m(): 0\nclass C(B): 0\nclass C: 0\nclass D(B): 0\n")]
    let c := Classifier.ofPackages [] false
    (∀ id, ¬TransGen (t.resolve 48 c).Inherits id id) ∧ (t.linking 48 c).symbols.class? "m.D" = some "m.D" ∧
      (t.linking 48 c).symbols.class? "m.B" = some "m.B" ∧ (t.resolve 48 c).Inherits "m.D" "m.B" ∧
      t.LastStates 48 c "m.D" "m.B" ∧ (t.linking 48 c).symbols.Knows "m.D" "m" ∧
      ("m.B" ∈ (t.linking 48 c).openClasses → "m.D" ∈ (t.linking 48 c).openClasses) := by
  intro t c
  obtain ⟨acyclic, ⟨parent, -, child⟩, ⟨-, edge⟩, last, knows, -⟩ := stated_again
  obtain ⟨names, opened⟩ := inherited_names_agree t 48 c acyclic child parent edge last
  exact ⟨acyclic, child, parent, edge, last, names "m" knows, opened⟩

/-- A class that is stated again without its base keeps the edge to the base, but not its methods. -/
theorem edge_without_methods :
    let t := FileTree.ofFiles [("m.py", "class B:\n def m(): 0\nclass C(B): 0\nclass C: 0\nclass D(B): 0\n")]
    let c := Classifier.ofPackages [] false
    (∀ id, ¬TransGen (t.resolve 48 c).Inherits id id) ∧ (t.linking 48 c).symbols.class? "m.C" = some "m.C" ∧
      (t.linking 48 c).symbols.class? "m.B" = some "m.B" ∧ (t.resolve 48 c).Inherits "m.C" "m.B" ∧
      (t.linking 48 c).symbols.Knows "m.B" "m" ∧ ¬(t.linking 48 c).symbols.Knows "m.C" "m" := by
  intro t c
  obtain ⟨acyclic, ⟨parent, child, -⟩, ⟨edge, -⟩, -, knows, lacks⟩ := stated_again
  exact ⟨acyclic, child, parent, edge, knows, lacks⟩

end FileTree

end ProgramGraph
