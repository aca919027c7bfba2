import ProgramGraph.Proofs.Corpus.Modules
import ProgramGraph.Proofs.Resolution.Typing

/-! The kinds of the nodes that edges of a tree join. Names of the project are ids of nodes that files list under the
    kind of the name; so every link joins ids of nodes of the right kinds, and the stored nodes are of these kinds
    wherever an id is given to nodes of one kind only. A parameter and a function inside a function may share an id,
    and then the first of them is stored. -/

namespace ProgramGraph
open Std ProgramGraph.Graph

namespace FileTree
variable (t : FileTree) (labelLimit : Nat)

/-- A file of the tree lists this node. -/
def Lists (n : Node) : Prop :=
  ∃ path o, (path, .ok o) ∈ t.outlines labelLimit ∧ n ∈ o.nodes

theorem outlines_kinded {path : String} {o : Outline} (member : (path, .ok o) ∈ t.outlines labelLimit) : o.Kinded := by
  obtain ⟨u, -, statements, -, -, rfl⟩ := t.outlines_cases labelLimit member
  exact Outline.ofStatements_kinded ..

variable {t labelLimit}

/-- Every node that entering files stores is listed by a file. -/
theorem lists_of_stored {id : NodeId} {m : Node} (stored : (t.intake labelLimit).graph.node? id = some m) :
    t.Lists labelLimit m := by
  refine t.intake_of_steps labelLimit (P := fun i => ∀ id m, i.graph.node? id = some m → t.Lists labelLimit m)
    (fun id m stored => ?_) (fun path p listed id m stored => ?_) (fun {i path o} member _ listed id m stored => ?_)
    id m stored
  · have none : (Intake.graph {}).node? id = none := node?_eq_none_iff.mpr TreeMap.not_mem_emptyc
    rw [none] at stored
    cases stored
  · unfold Intake.skip at stored
    rw [node?_report] at stored
    exact listed id m stored
  · rw [Intake.graph_enter, node?_reportAll] at stored
    rcases Placement.foldl_stored o.nodes { graph := i.graph } stored with stored | here
    · exact listed id m stored
    · exact ⟨path, o, member, here⟩

theorem bears_of_lists {n : Node} (lists : t.Lists labelLimit n) (stored : n.id ∈ (t.intake labelLimit).graph.nodes) :
    (t.intake labelLimit).graph.Bears (t.Lists labelLimit) n.kind n.id := by
  obtain ⟨m, stored⟩ := mem_nodes_iff.mp stored
  exact ⟨n, m, Or.inl lists, rfl, rfl, stored, Or.inr (lists_of_stored stored)⟩

theorem exists_outline {kept : Outline} (stays : kept ∈ (t.intake labelLimit).outlines) :
    ∃ path o rejected, (path, .ok o) ∈ t.outlines labelLimit ∧ kept = o.forget rejected := by
  obtain ⟨path, o, listed, rejected, same, -⟩ := (t.intake_entered labelLimit).outlines kept stays
  exact ⟨path, o, rejected, listed, same⟩

/-- The names of the project are ids that files list under the kind of the name. -/
theorem intake_kinds :
    (t.intake labelLimit).symbols.Kinds ((t.intake labelLimit).graph.Bears (t.Lists labelLimit)) where
  modules {name id} found := by
    obtain ⟨kept, stays, -, rfl⟩ := (Intake.registered_ofFiles (t.outlines labelLimit)).modules found
    obtain ⟨path, o, rejected, listed, rfl⟩ := exists_outline stays
    have stored := (t.intake_sound labelLimit).names.modules found
    obtain ⟨n, here, same, kind⟩ := (t.outlines_kinded labelLimit listed).root
    rw [Outline.moduleId_forget, ← same] at stored ⊢
    exact kind ▸ bears_of_lists ⟨path, o, listed, here⟩ stored
  classes {qualname id} found := by
    obtain ⟨kept, stays, c, declared, -, rfl⟩ := (t.intake_entered labelLimit).classes found
    obtain ⟨path, o, rejected, listed, rfl⟩ := exists_outline stays
    have stored := (t.intake_sound labelLimit).names.classes found
    obtain ⟨n, here, same, kind⟩ :=
      (t.outlines_kinded labelLimit listed).classes c (Outline.mem_classes_forget declared).1
    rw [← same] at stored ⊢
    exact kind ▸ bears_of_lists ⟨path, o, listed, here⟩ stored
  functions {owner name id} found := by
    obtain ⟨kept, stays, d, declared, -, -, rfl⟩ := (t.intake_entered labelLimit).functions found
    obtain ⟨path, o, rejected, listed, rfl⟩ := exists_outline stays
    have stored := (t.intake_sound labelLimit).names.functions found
    obtain ⟨n, here, same, kind⟩ :=
      (t.outlines_kinded labelLimit listed).functions d (Outline.mem_functions_forget declared).1
    rw [← same] at stored ⊢
    exact kind ▸ bears_of_lists ⟨path, o, listed, here⟩ stored

theorem intake_callers : Linking.Typed.Callers (t.Lists labelLimit) (t.intake labelLimit).graph
    (t.intake labelLimit).outlines.toList := by
  intro kept stays site member
  have stays := Array.mem_toList_iff.mp stays
  have stored := (t.intake_sound labelLimit).scopes kept stays site member
  obtain ⟨path, o, rejected, listed, rfl⟩ := exists_outline stays
  obtain ⟨⟨old, here, _, rfl⟩, -⟩ := Outline.mem_callSites_forget member
  obtain ⟨n, there, same, declares⟩ := (t.outlines_kinded labelLimit listed).scopes old here
  rw [← same] at stored
  exact ⟨n.kind, declares, same ▸ bears_of_lists ⟨path, o, listed, there⟩ stored⟩

/-- A resolution links what may be joined, for any reading of what is listed under which all that is stored is listed,
    and what bears a kind by the lists of the files does too. -/
theorem linking_typed_of (c : Classifier) {listed : Node → Prop}
    (stored : ∀ id m, (t.intake labelLimit).graph.node? id = some m → listed m)
    (bears : ∀ kind id, (t.intake labelLimit).graph.Bears (t.Lists labelLimit) kind id →
      (t.intake labelLimit).graph.Bears listed kind id) : (t.linking labelLimit c).Typed listed := by
  -- Before the resolution all edges are of containment.
  have start : Linking.Typed listed (t.unresolved labelLimit) :=
    ⟨fun e member other => absurd ((t.intake_entered labelLimit).edges e member) other, intake_kinds.mono bears⟩
  refine start.run (fun id m here => Or.inl (stored id m here)) (t.world labelLimit c) fun o member site here => ?_
  obtain ⟨kind, declares, caller⟩ := intake_callers o member site here
  exact ⟨kind, declares, bears _ _ caller⟩

theorem linking_typed (c : Classifier) : (t.linking labelLimit c).Typed (t.Lists labelLimit) :=
  linking_typed_of c (fun _ _ => lists_of_stored) fun _ _ => id

end FileTree

/-- The nodes that are stored at the ends of an edge are of kinds that it may join. -/
def Graph.WellTyped (g : Graph) (e : Edge) : Prop :=
  ∃ source target, g.node? e.source = some source ∧ g.node? e.target = some target ∧
    e.kind.joins source.kind target.kind = true

namespace FileTree

/-- All nodes that files list with the id of this one are of its kind. -/
def OfOneKind (t : FileTree) (labelLimit : Nat) (n : Node) : Prop :=
  ∀ m, t.Lists labelLimit m → m.id = n.id → m.kind = n.kind

/-- What is stored under an id of one kind is of that kind. -/
theorem stored_of_bears {t : FileTree} {labelLimit : Nat} {c : Classifier} {kind : NodeKind} {id : NodeId}
    (bears : (t.linking labelLimit c).graph.Bears (t.Lists labelLimit) kind id) :
    ∃ n : Node, n.Given (t.Lists labelLimit) ∧ n.id = id ∧ n.kind = kind ∧
      (t.OfOneKind labelLimit n → ∃ m, (t.resolve labelLimit c).node? id = some m ∧ m.kind = kind) := by
  obtain ⟨n, m, given, same, rfl, stored, like⟩ := bears
  refine ⟨n, given, same, rfl, fun one => ⟨m, stored, ?_⟩⟩
  rcases like with kind | listed
  · exact kind
  · exact one m listed (((t.resolve_sound labelLimit c).placed.keyed stored).trans same.symm)

/-- Every link of a tree joins ids that nodes of the right kinds were given: an import leads from a module to a module,
    a class, a function or outside, inheritance from a class to a class or outside, a call from a module, a class
    or a function to a class or a function. Where files list nodes of one kind only under both ids, the stored
    nodes are of these kinds. -/
theorem links_join_right_kinds (t : FileTree) (labelLimit : Nat) (c : Classifier) {e : Edge}
    (member : e ∈ (t.resolve labelLimit c).edges) (link : e.kind ≠ .containment) :
    ∃ source target : Node, source.Given (t.Lists labelLimit) ∧ target.Given (t.Lists labelLimit) ∧
      source.id = e.source ∧ target.id = e.target ∧ e.kind.joins source.kind target.kind = true ∧
      (t.OfOneKind labelLimit source → t.OfOneKind labelLimit target → (t.resolve labelLimit c).WellTyped e) := by
  obtain ⟨a, b, bears, bears', joins⟩ := (t.linking_typed c).edges e member link
  obtain ⟨source, given, same, rfl, stored⟩ := stored_of_bears bears
  obtain ⟨target, given', same', rfl, stored'⟩ := stored_of_bears bears'
  refine ⟨source, target, given, given', same, same', joins, fun one one' => ?_⟩
  obtain ⟨m, here, kind⟩ := stored one
  obtain ⟨m', there, kind'⟩ := stored' one'
  exact ⟨m, m', here, there, by rw [kind, kind', joins]⟩

set_option maxRecDepth 100000 in
/-- A module that calls a function, which calls a function that shares its id with a parameter. -/
theorem calls_of_shared :
    let t := FileTree.ofFiles [("m.py", "def f(x):\n def x(): 0\n x()\nf()\n")]
    let r := t.resolve 48 (.ofPackages [] false)
    ⟨"m.m", "m.f", .calls⟩ ∈ r.edges ∧ ⟨"m.f", "m.f.x", .calls⟩ ∈ r.edges ∧
      (r.node? "m.f.x").map (fun n => n.kind) = some .argument ∧
      ∀ n, t.Lists 48 n → (n.id = "m.m" → n.kind = .module) ∧ (n.id = "m.f" → n.kind = .function) := by
  intro t r
  have unit : t.units = [⟨"m.py", "m", "def f(x):\n def x(): 0\n x()\nf()\n"⟩] :=
    units_of_sorted (by decide +kernel) (by decide +kernel)
  have checked : (Syntax.parse "def f(x):\n def x(): 0\n x()\nf()\n").toOption.any (fun statements =>
      let o := Outline.ofStatements 48 "m" "m.py" statements
      let i := Intake.ofFiles [("m.py", .ok o)]
      let l := resolveOutlines (.ofPackages [] false) i.graph i.symbols i.outlines.toList
      l.graph.edges.contains ⟨"m.m", "m.f", .calls⟩ && l.graph.edges.contains ⟨"m.f", "m.f.x", .calls⟩ &&
        decide ((l.graph.node? "m.f.x").map (fun n => n.kind) = some .argument) &&
        o.nodes.all fun n => decide (n.id = "m.m" → n.kind = .module) && decide (n.id = "m.f" → n.kind = .function)) =
        true := by
    decide +kernel
  obtain ⟨statements, read, checked⟩ := Syntax.exists_parse checked
  have listed := outlines_of_unit 48 unit read
  have entered := intake_of_unit 48 unit read
  simp only [← entered, resolveOutlines_intake, TreeSet.contains_iff_mem, List.all_eq_true, Bool.and_eq_true,
    decide_eq_true_eq] at checked
  obtain ⟨⟨⟨outer, inner⟩, kind⟩, kinds⟩ := checked
  rw [edges_linking] at outer inner
  rw [node?_linking] at kind
  refine ⟨outer, inner, kind, ?_⟩
  rintro n ⟨path, o, here, inside⟩
  rw [listed] at here
  cases List.mem_singleton.mp here
  exact kinds n inside

/-- The theorem for a module that calls a function. -/
theorem links_join_right_kinds_call :
    let t := FileTree.ofFiles [("m.py", "def f(x):\n def x(): 0\n x()\nf()\n")]
    let c := Classifier.ofPackages [] false
    let e : Edge := ⟨"m.m", "m.f", .calls⟩
    e ∈ (t.resolve 48 c).edges ∧ e.kind ≠ .containment ∧ (t.resolve 48 c).WellTyped e := by
  intro t c e
  obtain ⟨member, -, -, kinds⟩ := calls_of_shared
  have link : e.kind ≠ .containment := nofun
  have lists {n : Node} {id : NodeId} (given : n.Given (t.Lists 48)) (same : n.id = id)
      (inner : id = "m.m" ∨ id = "m.f") : t.Lists 48 n := by
    rcases given with given | ⟨module, origin, -, rfl⟩
    · exact given
    · have letters := congrArg String.toList same
      rcases inner with rfl | rfl <;> cases origin <;>
        simp [Node.id, Node.external, Node.externalModule, Dotted.qualify] at letters
  obtain ⟨source, target, given, given', same, same', -, well⟩ := links_join_right_kinds t 48 c member link
  have isModule := (kinds source (lists given same (Or.inl rfl))).1 same
  have isFunction := (kinds target (lists given' same' (Or.inr rfl))).2 same'
  refine ⟨member, link, well (fun n listed same'' => ?_) fun n listed same'' => ?_⟩
  · exact ((kinds n listed).1 (same''.trans same)).trans isModule.symm
  · exact ((kinds n listed).2 (same''.trans same')).trans isFunction.symm

/-- A call leads to a parameter that shares its id with the function that is called. -/
theorem call_leads_to_a_parameter :
    let t := FileTree.ofFiles [("m.py", "def f(x):\n def x(): 0\n x()\nf()\n")]
    let r := t.resolve 48 (.ofPackages [] false)
    let e : Edge := ⟨"m.f", "m.f.x", .calls⟩
    e ∈ r.edges ∧ (r.node? e.target).map (fun n => n.kind) = some .argument ∧ ¬r.WellTyped e := by
  intro t r e
  obtain ⟨-, member, kind, -⟩ := calls_of_shared
  refine ⟨member, kind, ?_⟩
  rintro ⟨source, target, -, stored, joins⟩
  have there : (r.node? "m.f.x").map (fun n => n.kind) = some .argument := kind
  rw [show r.node? "m.f.x" = some target from stored] at there
  have argument : target.kind = .argument := Option.some.inj there
  rw [argument] at joins
  simp [EdgeKind.joins, e] at joins

end FileTree

end ProgramGraph
