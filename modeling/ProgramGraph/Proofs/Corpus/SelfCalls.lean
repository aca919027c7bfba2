import ProgramGraph.Proofs.Corpus.Containment
import ProgramGraph.Proofs.Corpus.Entries
import ProgramGraph.Proofs.Outline.Declarations
import ProgramGraph.Proofs.Resolution.Calls
import ProgramGraph.Proofs.Resolution.Inheritance

/-! Calls on the object at hand. Such a call is answered by the name of the class around it, which classes,
    modules and functions share; so it leads into the class or one of its ancestors wherever the names of
    classes are names of nothing else (`FileTree.ClassesApart`), and elsewhere it may leave them. -/

namespace ProgramGraph
open Std Relation Syntax ProgramGraph.Graph

/-! ### Names -/

/-- The last word of a name tells where the owner ends. -/
theorem Dotted.qualify_owner_inj {a b x y : String} (wordX : '.' ∉ x.toList) (wordY : '.' ∉ y.toList)
    (same : qualify a x = qualify b y) : a = b := by
  have letters : a.toList ++ '.' :: x.toList = b.toList ++ '.' :: y.toList := by
    have both := congrArg String.toList same
    unfold qualify at both
    simpa [String.toList_append] using both
  -- If one owner were longer, the dot that ends it would stand in the last word of the other name.
  have nothing {c z w : List Char} (word : '.' ∉ z) (rest : '.' :: z = c ++ '.' :: w) : c = [] := by
    cases c with
    | nil => rfl
    | cons d c =>
      obtain ⟨-, rest⟩ := List.cons.inj rest
      refine absurd ?_ word
      rw [rest]
      exact List.mem_append_right _ List.mem_cons_self
  rcases List.append_eq_append_iff.mp letters with ⟨c, owner, rest⟩ | ⟨c, owner, rest⟩
  · rw [nothing wordX rest, List.append_nil] at owner
    exact String.toList_inj.mp owner.symm
  · rw [nothing wordY rest, List.append_nil] at owner
    exact String.toList_inj.mp owner

theorem Label.Plain.no_dot {name : String} (plain : Label.Plain name) : '.' ∉ name.toList :=
  fun member => plain.2 '.' member (Or.inl rfl)

namespace Outline

/-- Classes of one name are one node, and no module and no function is called like a class. -/
structure ClassesApart (outlines : List Outline) : Prop where
  node : ∀ a ∈ outlines.flatMap classes, ∀ b ∈ outlines.flatMap classes, a.qualname = b.qualname → a.id = b.id
  module : ∀ cls ∈ outlines.flatMap classes, ∀ o ∈ outlines, o.module ≠ cls.qualname
  function : ∀ cls ∈ outlines.flatMap classes, ∀ d ∈ outlines.flatMap functions,
    Dotted.qualify d.owner d.name ≠ cls.qualname

instance (outlines : List Outline) : Decidable (ClassesApart outlines) :=
  decidable_of_iff
    ((∀ a ∈ outlines.flatMap classes, ∀ b ∈ outlines.flatMap classes, a.qualname = b.qualname → a.id = b.id) ∧
      (∀ cls ∈ outlines.flatMap classes, ∀ o ∈ outlines, o.module ≠ cls.qualname) ∧
      ∀ cls ∈ outlines.flatMap classes, ∀ d ∈ outlines.flatMap functions, Dotted.qualify d.owner d.name ≠ cls.qualname)
    ⟨fun ⟨node, module, function⟩ => ⟨node, module, function⟩, fun apart => ⟨apart.node, apart.module, apart.function⟩⟩

/-- What is called like a class is that class. -/
theorem ClassesApart.names {outlines : List Outline} (apart : ClassesApart outlines) {o : Outline}
    (listed : o ∈ outlines) {cls : ClassDecl} (stated : cls ∈ outlines.flatMap classes) {p : NodeId}
    (names : o.Names p cls.qualname) : p = cls.id := by
  rcases names with ⟨-, same⟩ | ⟨other, member, rfl, same⟩ | ⟨d, member, -, same⟩
  · exact absurd same.symm (apart.module cls stated o listed)
  · exact apart.node other (List.mem_flatMap.mpr ⟨o, listed, member⟩) cls stated same
  · exact absurd same (apart.function cls stated d (List.mem_flatMap.mpr ⟨o, listed, member⟩))

end Outline

namespace FileTree
variable (t : FileTree) (labelLimit : Nat)

/-- The outlines of the source files that parse. -/
def parsed : List Outline :=
  (t.outlines labelLimit).filterMap fun file => file.2.toOption

/-- The class statements of all source files. -/
def classes : List ClassDecl :=
  (t.parsed labelLimit).flatMap Outline.classes

/-- Declared names are plain words. -/
def NamesPlain : Prop :=
  ∀ u ∈ t.units, ∀ statements ∈ (Syntax.parse u.text).toOption, Stmt.plainNamesAll statements = true

section
variable {t labelLimit}

theorem mem_parsed {path : String} {o : Outline} (member : (path, .ok o) ∈ t.outlines labelLimit) :
    o ∈ t.parsed labelLimit :=
  List.mem_filterMap.mpr ⟨_, member, rfl⟩

theorem outlines_owned (named : t.NamesPlain) {path : String} {o : Outline}
    (member : (path, .ok o) ∈ t.outlines labelLimit) : o.Owned := by
  obtain ⟨u, here, statements, -, parsed, rfl⟩ := t.outlines_cases labelLimit member
  exact Outline.ofStatements_owned labelLimit u.module u.path statements (named u here statements (by rw [parsed]; rfl))

/-! ### Where declarations stand -/

/-- The class under a name in the tables of names is stated in a file. -/
theorem exists_mem_classes_of_class? {qualname : String} {id : NodeId}
    (found : (t.intake labelLimit).symbols.class? qualname = some id) :
    ∃ cls ∈ t.classes labelLimit, cls.qualname = qualname ∧ cls.id = id := by
  have entered := t.intake_entered labelLimit
  obtain ⟨kept, member, cls, here, name, node⟩ := entered.classes found
  obtain ⟨path, o, listed, rejected, rfl, -⟩ := entered.outlines kept member
  exact ⟨cls, List.mem_flatMap.mpr ⟨o, mem_parsed listed, (Outline.mem_classes_forget here).1⟩, name, node⟩

/-- A node that stays in the graph is contained in its owner. -/
theorem exists_parent_of_ownedBy (c : Classifier) {o : Outline} {rejected : TreeSet NodeId}
    (held : ∀ n ∈ o.nodes, n.parent.isSome → n.id ∈ rejected ∨ (t.intake labelLimit).graph.Holds n)
    {id : NodeId} {owner : String} (owned : o.OwnedBy id owner) (stays : id ∉ rejected) :
    ∃ p, (t.resolve labelLimit c).parents[id]? = some p ∧ o.Names p owner := by
  obtain ⟨n, member, rfl, p, asks, names⟩ := owned
  have holds := (held n member (by rw [asks]; rfl)).resolve_left stays
  obtain ⟨m, stored, -, same⟩ := (t.grows_resolve labelLimit c).holds holds
  refine ⟨p, ?_, names⟩
  rw [(t.resolve_forest labelLimit c).recorded stored, same, asks]

/-- A function in the tables of names is contained in what is called like its owner. -/
theorem exists_parent_of_function? (c : Classifier) (named : t.NamesPlain) {owner name : String} {id : NodeId}
    (found : (t.intake labelLimit).symbols.function? owner name = some id) :
    ∃ o ∈ t.parsed labelLimit, ∃ p, (t.resolve labelLimit c).parents[id]? = some p ∧ o.Names p owner := by
  have entered := t.intake_entered labelLimit
  obtain ⟨kept, member, d, here, rfl, rfl, rfl⟩ := entered.functions found
  obtain ⟨path, o, listed, rejected, rfl, held⟩ := entered.outlines kept member
  obtain ⟨declared, stays⟩ := Outline.mem_functions_forget here
  have owned := (outlines_owned named listed).functions d declared
  obtain ⟨p, recorded, names⟩ := exists_parent_of_ownedBy c held owned stays
  exact ⟨o, mem_parsed listed, p, recorded, names⟩

/-- A class in the tables of names is contained in what is called like its owner. -/
theorem exists_parent_of_class? (c : Classifier) (named : t.NamesPlain) {owner name : String} (word : '.' ∉ name.toList)
    {id : NodeId} (found : (t.intake labelLimit).symbols.class? (Dotted.qualify owner name) = some id) :
    ∃ o ∈ t.parsed labelLimit, ∃ p, (t.resolve labelLimit c).parents[id]? = some p ∧ o.Names p owner := by
  have entered := t.intake_entered labelLimit
  obtain ⟨kept, member, cls, here, spelled, rfl⟩ := entered.classes found
  obtain ⟨path, o, listed, rejected, rfl, held⟩ := entered.outlines kept member
  obtain ⟨declared, stays⟩ := Outline.mem_classes_forget here
  obtain ⟨owner', name', spelled', plain, owned⟩ := (outlines_owned named listed).classes cls declared
  cases Dotted.qualify_owner_inj word plain.no_dot (spelled.symm.trans spelled')
  obtain ⟨p, recorded, names⟩ := exists_parent_of_ownedBy c held owned stays
  exact ⟨o, mem_parsed listed, p, recorded, names⟩

/-! ### Ancestors -/

/-- What a class reaches in the hierarchy is a class that it reaches by inheritance edges. -/
theorem reaches (apart : Outline.ClassesApart (t.parsed labelLimit)) (c : Classifier) {cls : ClassDecl}
    (stated : cls ∈ t.classes labelLimit) {q : String}
    (way : ReflTransGen (Linking.hierarchy (t.world labelLimit c) (t.unresolved labelLimit)
      (t.intake labelLimit).outlines.toList).HasBase cls.qualname q) :
    ∃ ancestor ∈ t.classes labelLimit, ancestor.qualname = q ∧
      ReflTransGen (t.resolve labelLimit c).Inherits cls.id ancestor.id := by
  rcases ReflTransGen.cases_head way with rfl | ⟨base, has, -⟩
  · exact ⟨cls, stated, rfl, .refl⟩
  · -- The hierarchy goes by names; where classes of one name are one node, its steps are edges.
    obtain ⟨id, -, here, -, -⟩ := Linking.link_of_hasBase has
    obtain ⟨held, stated', name, rfl⟩ := exists_mem_classes_of_class? here
    obtain ⟨id', there, edges⟩ := Linking.inherits_of_hasBase way here
    obtain ⟨ancestor, above, name', rfl⟩ := exists_mem_classes_of_class? there
    refine ⟨ancestor, above, name', ?_⟩
    rw [← apart.node held stated' cls stated name]
    exact ReflTransGen.mono (fun a b linked => Linking.inherits_run_iff.mpr linked) _ _ edges

/-- A call on the object at hand that has a target leads to a function or a class that stands in the class around
    the call, or in one that this class reaches by inheritance edges. -/
theorem self_calls_lead_to_ancestors (t : FileTree) (labelLimit : Nat) (c : Classifier) (named : t.NamesPlain)
    (apart : Outline.ClassesApart (t.parsed labelLimit)) {o : Outline} (stays : o ∈ (t.intake labelLimit).outlines)
    {site : CallSite} (member : site ∈ o.callSites) {cls method : String} (self : Linking.IsSelfCall site cls method)
    (word : '.' ∉ method.toList) {target : NodeId}
    (decided : Linking.decideCall (t.world labelLimit c) (t.prepared labelLimit c) o.module site =
      .resolved target) :
    ⟨site.scope, target, .calls⟩ ∈ (t.resolve labelLimit c).edges ∧
      ∃ around ∈ t.classes labelLimit, around.qualname = cls ∧ ∃ ancestor ∈ t.classes labelLimit,
        ReflTransGen (t.resolve labelLimit c).Inherits around.id ancestor.id ∧
        (t.resolve labelLimit c).parents[target]? = some ancestor.id := by
  refine ⟨Linking.run_resolved (Array.mem_toList_iff.mpr stays) member decided, ?_⟩
  obtain ⟨path, before, listed, rejected, rfl, -⟩ := (t.intake_entered labelLimit).outlines o stays
  obtain ⟨⟨site, stated, _, rfl⟩, -⟩ := Outline.mem_callSites_forget member
  obtain ⟨u, -, statements, -, -, same⟩ := t.outlines_cases labelLimit listed
  rw [same] at stated
  obtain ⟨around, here, rfl⟩ := Outline.ofStatements_scoped labelLimit u.module u.path statements stated self.1
  have here : around ∈ t.classes labelLimit := List.mem_flatMap.mpr ⟨before, mem_parsed listed, same ▸ here⟩
  -- A function may be inherited, a class inside is not: the merge enters functions only.
  rcases self.resolved decided with function | inner
  · obtain ⟨q, way, declared⟩ := Linking.function?_prepare function
    obtain ⟨ancestor, above, rfl, edges⟩ := reaches apart c here way
    obtain ⟨_, listed', p, recorded, names⟩ := exists_parent_of_function? c named declared
    rw [apart.names listed' above names] at recorded
    exact ⟨around, here, rfl, ancestor, above, edges, recorded⟩
  · unfold prepared at inner
    rw [Linking.class?_prepare] at inner
    obtain ⟨_, listed', p, recorded, names⟩ := exists_parent_of_class? c named word inner
    rw [apart.names listed' here names] at recorded
    exact ⟨around, here, rfl, around, here, .refl, recorded⟩

end

set_option maxRecDepth 100000 in
/-- The theorem for a method of a base class. -/
theorem self_calls_lead_to_ancestors_inherited :
    let t := FileTree.ofFiles [("a.py", "class B:\n def m(self): 0\nclass A(B): self.m()\n")]
    let c := Classifier.ofPackages [] false
    t.NamesPlain ∧ Outline.ClassesApart (t.parsed 48) ∧ '.' ∉ "m".toList ∧
      ∃ o ∈ (t.intake 48).outlines, ∃ site ∈ o.callSites, Linking.IsSelfCall site "a.A" "m" ∧
        Linking.decideCall (t.world 48 c) (t.prepared 48 c) o.module site = .resolved "a.B.m" ∧
        ⟨site.scope, "a.B.m", .calls⟩ ∈ (t.resolve 48 c).edges ∧
        ∃ around ∈ t.classes 48, around.qualname = "a.A" ∧ ∃ ancestor ∈ t.classes 48,
          ReflTransGen (t.resolve 48 c).Inherits around.id ancestor.id ∧
          (t.resolve 48 c).parents["a.B.m"]? = some ancestor.id := by
  intro t c
  have unit : t.units = [⟨"a.py", "a", "class B:\n def m(self): 0\nclass A(B): self.m()\n"⟩] :=
    units_of_sorted (by decide +kernel) (by decide +kernel)
  -- All that is computed from the text, in one go.
  have checked : (Syntax.parse "class B:\n def m(self): 0\nclass A(B): self.m()\n").toOption.any
      (fun statements =>
        let outline := Outline.ofStatements 48 "a" "a.py" statements
        let i := Intake.ofFiles [("a.py", .ok outline)]
        let w := World.ofOutlines (.ofPackages [] false) i.outlines.toList
        let l := Linking.prepare w { graph := i.graph, symbols := i.symbols } i.outlines.toList
        Stmt.plainNamesAll statements && decide (Outline.ClassesApart [outline]) &&
          i.outlines.any fun o => o.callSites.any fun site =>
            decide (site.classScope = some "a.A") && decide (site.target = .attribute "self" "m") &&
              decide (Linking.decideCall w l o.module site = .resolved "a.B.m")) = true := by
    decide +kernel
  obtain ⟨statements, read, checked⟩ := Syntax.exists_parse checked
  simp only [Array.any_eq_true', List.any_eq_true, Bool.and_eq_true, decide_eq_true_eq] at checked
  obtain ⟨⟨plain, apart⟩, o, stays, site, member, ⟨scope, target⟩, decided⟩ := checked
  have named : t.NamesPlain := by
    unfold NamesPlain
    rw [unit]
    intro u here others same
    rw [List.mem_singleton.mp here, read] at same
    exact Option.some.inj same ▸ plain
  have listed := outlines_of_unit 48 unit read
  have entered := intake_of_unit 48 unit read
  have apart : Outline.ClassesApart (t.parsed 48) := by
    unfold parsed
    rw [listed]
    exact apart
  rw [← entered] at stays decided
  have word : '.' ∉ "m".toList := by decide
  have self : Linking.IsSelfCall site "a.A" "m" := ⟨scope, "self", target, Or.inl rfl⟩
  exact ⟨named, apart, word, o, stays, site, member, self, decided,
    self_calls_lead_to_ancestors t 48 c named apart stays member self word decided⟩

set_option maxRecDepth 100000 in
/-- A call on the object at hand leads to a function of a module that has the name of the class. -/
theorem self_call_leaves_its_class :
    let t := FileTree.ofFiles [("a/C.py", "def m(): 0\n"), ("a/__init__.py", "class C:\n def f(self): self.m()\n")]
    let r := t.resolve 48 (.ofPackages [] false)
    ((t.intake 48).outlines.any fun o => o.callSites.any fun site =>
        site.scope == "a.C.f" && site.classScope == some "a.C" && site.target == .attribute "self" "m") = true ∧
      r.edges.contains ⟨"a.C.f", "a.C.m", .calls⟩ = true ∧
      (r.parent? "a.C.m").map (fun n => n.kind) = some .module := by
  intro t r
  have unit : t.units = [⟨"a/C.py", "a.C", "def m(): 0\n"⟩,
      ⟨"a/__init__.py", "a", "class C:\n def f(self): self.m()\n"⟩] :=
    units_of_sorted (by decide +kernel) (by decide +kernel)
  have same : r = t.resolve 48 (.ofPackages [] false) := rfl
  rw [same, edges_resolve, parent?_resolve, intake_of_units 48 unit]
  decide +kernel

end FileTree

end ProgramGraph
