import ProgramGraph.Proofs.Corpus.Intake
import ProgramGraph.Proofs.Resolution.Moves

/-! What the state after all files goes back to. An outline that stays is the outline of a file, less the nodes
    that the graph left out, and the nodes that it keeps are held as the file has them; classes and functions
    in the tables of names are declared by outlines that stay; and all edges are of containment
    (`Intake.Entered`). -/

namespace ProgramGraph
open Std ProgramGraph.Graph

/-- `kept` is what is left of the outline `o`: the nodes that it keeps are held. -/
def Outline.Stays (g : Graph) (o kept : Outline) : Prop :=
  ∃ rejected, kept = o.forget rejected ∧ ∀ n ∈ o.nodes, n.parent.isSome → n.id ∈ rejected ∨ g.Holds n

theorem Outline.Stays.grows {g g' : Graph} {o kept : Outline} (stays : o.Stays g kept) (grows : g.Grows g') :
    o.Stays g' kept := by
  obtain ⟨rejected, same, held⟩ := stays
  exact ⟨rejected, same, fun n member contained => (held n member contained).imp_right grows.holds⟩

namespace Intake

/-- Where the outlines, the names and the edges of a state come from. -/
structure Entered (files : List (String × Except Problem Outline)) (i : Intake) : Prop where
  outlines : ∀ kept ∈ i.outlines, ∃ path o, (path, .ok o) ∈ files ∧ o.Stays i.graph kept
  classes : ∀ {qualname id}, i.symbols.class? qualname = some id →
    ∃ kept ∈ i.outlines, ∃ c ∈ kept.classes, c.qualname = qualname ∧ c.id = id
  named : ∀ kept ∈ i.outlines, ∀ c ∈ kept.classes, ∃ id, i.symbols.class? c.qualname = some id
  functions : ∀ {owner name id}, i.symbols.function? owner name = some id →
    ∃ kept ∈ i.outlines, ∃ d ∈ kept.functions, d.owner = owner ∧ d.name = name ∧ d.id = id
  edges : ∀ e ∈ i.graph.edges, e.kind = .containment

namespace Entered
variable {files : List (String × Except Problem Outline)} {i : Intake} {path : String} {o : Outline}

theorem empty : Entered files {} where
  outlines := by simp
  classes found := by simp [Symbols.class?] at found
  named := by simp
  functions found := by simp [Symbols.function?, Symbols.functionsOf] at found
  edges e member := absurd member TreeSet.not_mem_emptyc

theorem skip (entered : i.Entered files) (path : String) (p : Problem) : (i.skip path p).Entered files where
  outlines kept member := by
    obtain ⟨path', o, listed, stays⟩ := entered.outlines kept member
    exact ⟨path', o, listed, stays.grows (grows_skip ..)⟩
  classes := entered.classes
  named := entered.named
  functions := entered.functions
  edges e member := by
    unfold Intake.skip at member
    rw [edges_report] at member
    exact entered.edges e member

theorem enter (entered : i.Entered files) (sound : i.Sound) (listed : (path, .ok o) ∈ files) :
    (i.enter path o).Entered files where
  outlines kept member := by
    rcases Array.mem_push.mp member with member | rfl
    · obtain ⟨path', o', listed', stays⟩ := entered.outlines kept member
      exact ⟨path', o', listed', stays.grows grows_enter⟩
    · refine ⟨path, o, listed, (i.placed o).rejected, rfl, fun n member contained => ?_⟩
      have settled := Placement.foldl_settles (p := { graph := i.graph }) o.nodes sound.graph.placed n member
      exact settled.imp_right fun stored => grows_enter_placed.holds (stored.2 contained)
  classes {qualname id} found := by
    rcases (Symbols.Adds.register _ i.symbols).classes found with found | declared
    · obtain ⟨kept, member, declared⟩ := entered.classes found
      exact ⟨kept, Array.mem_push_of_mem _ member, declared⟩
    · exact ⟨_, Array.mem_push_self, declared⟩
  named kept member c declared := by
    rcases Array.mem_push.mp member with member | rfl
    · obtain ⟨id, found⟩ := entered.named kept member c declared
      exact ⟨id, (Symbols.Adds.register _ i.symbols).keeps found⟩
    · exact Symbols.exists_class_register i.symbols declared
  functions {owner name id} found := by
    rcases (Symbols.Adds.register _ i.symbols).functions found with found | declared
    · obtain ⟨kept, member, declared⟩ := entered.functions found
      exact ⟨kept, Array.mem_push_of_mem _ member, declared⟩
    · exact ⟨_, Array.mem_push_self, declared⟩
  edges e member := by
    rw [graph_enter, edges_reportAll] at member
    exact (Placement.foldl_edges o.nodes { graph := i.graph } member).elim (entered.edges e) id

end Entered

end Intake

namespace FileTree
variable (t : FileTree) (labelLimit : Nat)

theorem intake_entered : (t.intake labelLimit).Entered (t.outlines labelLimit) :=
  t.intake_of_steps labelLimit .empty (fun path p entered => entered.skip path p)
    fun member sound entered => entered.enter sound member

/-- What the imports, bases and calls of a tree are resolved with. -/
def world (c : Classifier) : World :=
  .ofOutlines c (t.intake labelLimit).outlines.toList

/-- The state of a tree before anything is resolved. -/
def unresolved : Linking :=
  { graph := (t.intake labelLimit).graph, symbols := (t.intake labelLimit).symbols }

/-- The state in which the calls of a tree are decided. -/
def prepared (c : Classifier) : Linking :=
  .prepare (t.world labelLimit c) (t.unresolved labelLimit) (t.intake labelLimit).outlines.toList

/-- The state of a tree after everything has been resolved. -/
def linking (c : Classifier) : Linking :=
  resolveOutlines c (t.intake labelLimit).graph (t.intake labelLimit).symbols (t.intake labelLimit).outlines.toList

section
variable (c : Classifier)

theorem resolveOutlines_intake : resolveOutlines c (t.intake labelLimit).graph (t.intake labelLimit).symbols
    (t.intake labelLimit).outlines.toList = t.linking labelLimit c := rfl

theorem edges_linking : (t.linking labelLimit c).graph.edges = (t.resolve labelLimit c).edges := rfl

theorem edgeList_linking : (t.linking labelLimit c).graph.edgeList = (t.resolve labelLimit c).edgeList := rfl

theorem node?_linking (id : NodeId) : (t.linking labelLimit c).graph.node? id = (t.resolve labelLimit c).node? id := rfl

end

end FileTree

end ProgramGraph
