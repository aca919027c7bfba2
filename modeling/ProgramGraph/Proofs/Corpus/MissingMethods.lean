import Mathlib.Data.List.Pairwise
import ProgramGraph.Proofs.Corpus.Entries
import ProgramGraph.Proofs.Outline.Declarations
import ProgramGraph.Proofs.Resolution.Calls
import ProgramGraph.Proofs.Resolution.Inheritance

/-! Reports that a class lacks a method. They are meant for classes all of whose ancestors are known. Of the
    arguments of a class statement only the dotted names are looked up: where classes are stated once, each of them
    denotes a class of the project or `object` if such a report is made, but nothing is known of the others. -/

namespace ProgramGraph
open Std Relation Syntax ProgramGraph.Graph

/-! ### Classes that are stated once -/

section
variable {files : List (String × Except Problem Outline)} {i : Intake}

theorem Linking.mem_classesOf {outlines : List Outline} {o : Outline} (member : o ∈ outlines) {cls : ClassDecl}
    (declared : cls ∈ o.classes) : (o.module, cls) ∈ classesOf outlines :=
  List.mem_flatMap.mpr ⟨o, member, List.mem_map_of_mem declared⟩

/-- Two class statements that share a name or a node are one. -/
theorem Linking.StatedOnce.eq {outlines : List Outline} (once : StatedOnce outlines) {a b : String × ClassDecl}
    (hereA : a ∈ classesOf outlines) (hereB : b ∈ classesOf outlines)
    (same : a.2.qualname = b.2.qualname ∨ a.2.id = b.2.id) :
    a = b := by
  by_contra differ
  have : Std.Symm fun a b : String × ClassDecl => a.2.qualname ≠ b.2.qualname ∧ a.2.id ≠ b.2.id :=
    ⟨fun _ _ apart => ⟨apart.1.symm, apart.2.symm⟩⟩
  have apart := List.Pairwise.forall once hereA hereB differ
  exact same.elim apart.1 apart.2

/-- A class that is stated once is found under its name. -/
theorem Intake.Entered.held (entered : i.Entered files) (once : Linking.StatedOnce i.outlines.toList) {o : Outline}
    (member : o ∈ i.outlines) {cls : ClassDecl} (declared : cls ∈ o.classes) :
    i.symbols.class? cls.qualname = some cls.id := by
  obtain ⟨id, found⟩ := entered.named o member cls declared
  obtain ⟨o', member', cls', declared', name, rfl⟩ := entered.classes found
  have one := once.eq (Linking.mem_classesOf (Array.mem_toList_iff.mpr member') declared')
    (Linking.mem_classesOf (Array.mem_toList_iff.mpr member) declared) (Or.inl name)
  rw [found, congrArg (fun entry => entry.2.id) one]

/-- Classes that are stated once have nodes of their own. -/
theorem Intake.Entered.class?_injective (entered : i.Entered files) (once : Linking.StatedOnce i.outlines.toList)
    {q q' : String} {id : NodeId} (here : i.symbols.class? q = some id) (there : i.symbols.class? q' = some id) :
    q = q' := by
  obtain ⟨o, member, cls, declared, rfl, rfl⟩ := entered.classes here
  obtain ⟨o', member', cls', declared', rfl, same⟩ := entered.classes there
  have one := once.eq (Linking.mem_classesOf (Array.mem_toList_iff.mpr member) declared)
    (Linking.mem_classesOf (Array.mem_toList_iff.mpr member') declared') (Or.inr same.symm)
  exact congrArg (fun entry => entry.2.qualname) one

end

/-! ### Bases as they are written -/

namespace FileTree
variable (t : FileTree) (labelLimit : Nat) (c : Classifier)

/-- A source file of this module states the class with these arguments, and the class is in the graph. -/
def States (module : String) (cls : ClassDecl) (arguments : List Expr) : Prop :=
  ∃ u ∈ t.units, ∃ statements, Syntax.parse u.text = .ok statements ∧ u.module = module ∧
    (cls, arguments) ∈ Outline.headers labelLimit u.module u.path statements ∧
    ∃ o ∈ (t.intake labelLimit).outlines, o.module = module ∧ cls ∈ o.classes

/-- The statement of the class `cls`, or of a class that it reaches by inheritance edges, has this argument in this
    module. -/
def HasArgument (cls module : String) (e : Expr) : Prop :=
  ∃ home around own above arguments, t.States labelLimit home around own ∧ around.qualname = cls ∧
    ReflTransGen (t.resolve labelLimit c).Inherits around.id above.id ∧ t.States labelLimit module above arguments ∧
    e ∈ arguments

/-- An argument denotes a class of the project or `object`. -/
def Denotes (module : String) (e : Expr) : Prop :=
  ∃ base, Visit.dotted? e = some base ∧
    Linking.Denotes (t.world labelLimit c) (t.intake labelLimit).symbols module base

variable {t labelLimit c}

/-- Every class in the graph is stated. -/
theorem exists_states {o : Outline} (stays : o ∈ (t.intake labelLimit).outlines) {cls : ClassDecl}
    (declared : cls ∈ o.classes) : ∃ arguments, t.States labelLimit o.module cls arguments := by
  obtain ⟨path, before, listed, rejected, rfl, -⟩ := (t.intake_entered labelLimit).outlines o stays
  obtain ⟨u, here, statements, -, read, rfl⟩ := t.outlines_cases labelLimit listed
  have stated := (Outline.mem_classes_forget declared).1
  rw [Outline.classes_ofStatements] at stated
  obtain ⟨⟨cls, arguments⟩, header, rfl⟩ := List.mem_map.mp stated
  refine ⟨arguments, u, here, statements, read, ?_, header, _, stays, rfl, declared⟩
  rw [Outline.module_forget]
  rfl

/-- The dotted names among the arguments of a class that is not open, and of the classes that it reaches, denote
    classes of the project or `object`. -/
theorem denotes_of_closed (once : Linking.StatedOnce (t.intake labelLimit).outlines.toList) {cls : String}
    (closed : cls ∉ (t.prepared labelLimit c).openClasses) {module : String} {e : Expr}
    (argument : t.HasArgument labelLimit c cls module e) {base : String} (dotted : Visit.dotted? e = some base) :
    Linking.Denotes (t.world labelLimit c) (t.intake labelLimit).symbols module base := by
  have entered := t.intake_entered labelLimit
  obtain ⟨_, around, _, above, arguments, ⟨_, -, _, -, -, -, o, stays, -, declared⟩, rfl, way,
    ⟨u, -, statements, -, -, header, o', stays', rfl, declared'⟩, member⟩ := argument
  have bare : ∀ edge ∈ (t.intake labelLimit).graph.edges, edge.kind ≠ .inherits := by
    intro edge here
    rw [entered.edges edge here]
    exact nofun
  have edges : ReflTransGen (t.prepared labelLimit c).graph.Inherits around.id above.id :=
    ReflTransGen.mono (fun a b linked => Linking.inherits_run_iff.mp linked) _ _ way
  obtain ⟨q, there, reached⟩ := Linking.hasBase_of_inherits once bare (entered.class?_injective once)
    (entered.held once stays declared) closed edges
  cases entered.class?_injective once there (entered.held once stays' declared')
  have written : base ∈ above.bases := by
    rw [Outline.headers_bases labelLimit u.module u.path statements _ header]
    exact List.mem_filterMap.mpr ⟨e, member, dotted⟩
  by_contra strange
  have stated := Linking.mem_classesOf (Array.mem_toList_iff.mpr stays') declared'
  exact closed (Linking.mem_openClasses_prepare (w := t.world labelLimit c) (l := t.unresolved labelLimit) stated
    (entered.held once stays' declared') written strange reached)

/-- A report that a class lacks a method is in the graph. Every class there is stated with arguments, and an argument of
    the class that lacks the method or of one that it reaches denotes a class of the project or `object` exactly if it
    is a dotted name. -/
theorem missing_methods_reported (t : FileTree) (labelLimit : Nat) (c : Classifier)
    (once : Linking.StatedOnce (t.intake labelLimit).outlines.toList) {o : Outline}
    (stays : o ∈ (t.intake labelLimit).outlines) {site : CallSite} (member : site ∈ o.callSites)
    {cls method : String}
    (misses : Linking.Misses (t.world labelLimit c) (t.prepared labelLimit c) o.module site cls method) :
    (t.resolve labelLimit c).Lacks o.module cls method ∧
      (∀ home ∈ (t.intake labelLimit).outlines, ∀ around ∈ home.classes,
        ∃ own, t.States labelLimit home.module around own) ∧
      ∀ module e, t.HasArgument labelLimit c cls module e →
        (t.Denotes labelLimit c module e ↔ (Visit.dotted? e).isSome = true) := by
  refine ⟨misses.recorded (Array.mem_toList_iff.mpr stays) member, fun _ known _ declared => exists_states known declared,
    fun module e argument => ⟨?_, fun dotted => ?_⟩⟩
  · rintro ⟨base, dotted, -⟩
    rw [dotted]
    rfl
  · obtain ⟨base, dotted⟩ := Option.isSome_iff_exists.mp dotted
    exact ⟨base, dotted, denotes_of_closed once misses.closed argument dotted⟩

set_option maxRecDepth 100000 in
/-- The theorem for a class whose base has no method. -/
theorem missing_methods_reported_inherited :
    let t := FileTree.ofFiles [("m.py", "class B: 0\nclass A(B): self.m()\n")]
    let c := Classifier.ofPackages [] false
    Linking.StatedOnce (t.intake 48).outlines.toList ∧ ∃ o ∈ (t.intake 48).outlines, ∃ site ∈ o.callSites,
      Linking.Misses (t.world 48 c) (t.prepared 48 c) o.module site "m.A" "m" ∧
        (t.resolve 48 c).Lacks o.module "m.A" "m" ∧
        (∀ home ∈ (t.intake 48).outlines, ∀ around ∈ home.classes, ∃ own, t.States 48 home.module around own) ∧
        ∀ module e, t.HasArgument 48 c "m.A" module e →
          (t.Denotes 48 c module e ↔ (Visit.dotted? e).isSome = true) := by
  intro t c
  have unit : t.units = [⟨"m.py", "m", "class B: 0\nclass A(B): self.m()\n"⟩] :=
    units_of_sorted (by decide +kernel) (by decide +kernel)
  have checked : (Syntax.parse "class B: 0\nclass A(B): self.m()\n").toOption.any (fun statements =>
      let i := Intake.ofFiles [("m.py", .ok (.ofStatements 48 "m" "m.py" statements))]
      let w := World.ofOutlines (.ofPackages [] false) i.outlines.toList
      let l := Linking.prepare w { graph := i.graph, symbols := i.symbols } i.outlines.toList
      decide (Linking.StatedOnce i.outlines.toList) && i.outlines.any fun o => o.callSites.any fun site =>
        decide (site.classScope = some "m.A") && decide (site.target = .attribute "self" "m") &&
          decide (Linking.decideCall w l o.module site =
            .unresolved (some (Linking.lacks o.module "self" "m.A" "m")))) = true := by
    decide +kernel
  obtain ⟨statements, read, checked⟩ := Syntax.exists_parse checked
  have entered := intake_of_unit 48 unit read
  simp only [← entered, Array.any_eq_true', List.any_eq_true, Bool.and_eq_true, decide_eq_true_eq] at checked
  obtain ⟨once, o, stays, site, member, ⟨scope, target⟩, decided⟩ := checked
  have misses : Linking.Misses (t.world 48 c) (t.prepared 48 c) o.module site "m.A" "m" :=
    ⟨"self", target, Or.inl ⟨Or.inl rfl, scope⟩, decided⟩
  exact ⟨once, o, stays, site, member, misses, missing_methods_reported t 48 c once stays member misses⟩

set_option maxRecDepth 100000 in
/-- The report is made of a class with a base that is the value of a call. -/
theorem missing_method_of_a_computed_base :
    let t := FileTree.ofFiles [("m.py", "class C(f()):\n def g(self): self.m()\n")]
    let c := Classifier.ofPackages [] false
    (t.resolve 48 c).Lacks "m" "m.C" "m" ∧ ∃ start callee written arguments,
      t.HasArgument 48 c "m.C" "m" (.call start callee written arguments) ∧
        ¬t.Denotes 48 c "m" (.call start callee written arguments) := by
  intro t c
  have unit : t.units = [⟨"m.py", "m", "class C(f()):\n def g(self): self.m()\n"⟩] :=
    units_of_sorted (by decide +kernel) (by decide +kernel)
  have checked : (Syntax.parse "class C(f()):\n def g(self): self.m()\n").toOption.any (fun statements =>
      let i := Intake.ofFiles [("m.py", .ok (.ofStatements 48 "m" "m.py" statements))]
      let l := resolveOutlines (.ofPackages [] false) i.graph i.symbols i.outlines.toList
      (l.graph.diagnostics.any fun d => decide (d.kind = .unresolvedReference) &&
        decide (d.message = (Linking.lacks "m" "self" "m.C" "m").message)) &&
      (Outline.headers 48 "m" "m.py" statements).any fun header => decide (header.1.qualname = "m.C") &&
        (i.outlines.any fun o => decide (o.module = "m") && decide (header.1 ∈ o.classes)) &&
          header.2.any fun e => match e with | .call .. => true | _ => false) = true := by
    decide +kernel
  obtain ⟨statements, read, checked⟩ := Syntax.exists_parse checked
  have entered := intake_of_unit 48 unit read
  simp only [← entered, Array.any_eq_true', List.any_eq_true, Bool.and_eq_true, decide_eq_true_eq] at checked
  obtain ⟨⟨d, recorded, kind, message⟩, ⟨cls, arguments⟩, header, ⟨name, o, stays, module, declared⟩, e, member, call⟩ :=
    checked
  rw [← diagnostics_resolve] at recorded
  refine ⟨⟨d, recorded, kind, "self", message⟩, ?_⟩
  have stated : t.States 48 "m" cls arguments := by
    have here : (⟨"m.py", "m", "class C(f()):\n def g(self): self.m()\n"⟩ : SourceUnit) ∈ t.units := by
      rw [unit]
      exact List.mem_singleton_self _
    exact ⟨_, here, statements, read, rfl, header, o, stays, module, declared⟩
  split at call
  · rename_i start callee written others
    refine ⟨start, callee, written, others, ⟨_, cls, _, cls, _, stated, name, .refl, stated, member⟩, ?_⟩
    rintro ⟨base, dotted, -⟩
    cases dotted
  · cases call

end FileTree

end ProgramGraph
