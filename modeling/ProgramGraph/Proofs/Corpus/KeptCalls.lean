import ProgramGraph.Proofs.Corpus.Containment
import ProgramGraph.Proofs.Corpus.EdgeKinds
import ProgramGraph.Proofs.Corpus.Loss
import ProgramGraph.Proofs.Outline.WellFormed
import ProgramGraph.Proofs.Resolution.KeptCalls

/-! The call nodes of a tree. Files list no call nodes outside of call sites, so every call node comes from a kept
    site; and where no taken name is on record, every file that was entered is entered as a whole, so all nodes of
    kept sites get into the graph. -/

namespace ProgramGraph
open Std ProgramGraph.Graph

theorem Graph.Reported.clashes {g : Graph} {path : String} (reported : g.Reported path) : g.Clashes := by
  obtain ⟨d, member, kind, -⟩ := reported
  exact ⟨d, member, kind⟩

namespace Intake

/-- Unless a taken name is on record, every outline that stays is that of a file, with all its nodes stored. -/
def Whole (files : List (String × Except Problem Outline)) (i : Intake) : Prop :=
  i.graph.Clashes ∨ ∀ o ∈ i.outlines, (∃ path, (path, .ok o) ∈ files) ∧ ∀ n ∈ o.nodes, n.id ∈ i.graph.nodes

namespace Whole
variable {files : List (String × Except Problem Outline)} {i : Intake} {path : String} {o : Outline}

theorem skip (whole : i.Whole files) (path : String) (p : Problem) : (i.skip path p).Whole files := by
  have grows := grows_skip i path p
  rcases whole with clashes | whole
  · exact Or.inl (grows.clashes clashes)
  · exact Or.inr fun o member => ⟨(whole o member).1, fun n here => grows.mem ((whole o member).2 n here)⟩

theorem enter (whole : i.Whole files) (sound : i.Sound) (listed : o.Listed) (file : (path, .ok o) ∈ files) :
    (i.enter path o).Whole files := by
  rcases whole with clashes | whole
  · exact Or.inl (grows_enter.clashes clashes)
  -- Where the graph rejects nothing the outline stays as it is; what it rejects it reports.
  by_cases none : (i.placed o).rejected.isEmpty = true
  · refine Or.inr fun other member => ?_
    rcases Array.mem_push.mp member with member | rfl
    · exact ⟨(whole other member).1, fun n here => grows_enter.mem ((whole other member).2 n here)⟩
    · have same : o.forget (i.placed o).rejected = o := o.forget_of_isEmpty none
      change (∃ path, (path, .ok (o.forget (i.placed o).rejected)) ∈ files) ∧
        ∀ n ∈ (o.forget (i.placed o).rejected).nodes, n.id ∈ (i.enter path o).graph.nodes
      rw [same]
      exact ⟨⟨path, file⟩, fun n here => mem_enter sound ⟨n, here, rfl⟩ (Outline.not_mem_of_isEmpty none n.id)⟩
  · rw [TreeSet.isEmpty_iff_forall_not_mem] at none
    obtain ⟨id, rejected⟩ := not_forall_not.mp none
    exact Or.inl (reported_of_rejected sound listed rejected).clashes

theorem empty : Whole files {} := Or.inr (by simp)

end Whole

end Intake

namespace FileTree
variable (t : FileTree) (labelLimit : Nat)

theorem intake_whole : (t.intake labelLimit).Whole (t.outlines labelLimit) :=
  t.intake_of_steps labelLimit .empty (fun path p whole => whole.skip path p)
    fun member sound whole => whole.enter sound (t.outlines_listed labelLimit member) member

variable {t labelLimit}

/-- Entering files stores no call nodes. -/
theorem kind_ne_call_of_lists {n : Node} (lists : t.Lists labelLimit n) : n.kind ≠ .call := by
  obtain ⟨path, o, listed, member⟩ := lists
  obtain ⟨u, -, statements, -, -, rfl⟩ := t.outlines_cases labelLimit listed
  exact Outline.ofStatements_kind_ne_call labelLimit u.module u.path statements n member

/-- The fragment of a call site holds no call nodes. -/
theorem rooted_of_stays {kept : Outline} (stays : kept ∈ (t.intake labelLimit).outlines) {site : CallSite}
    (member : site ∈ kept.callSites) : site.Rooted := by
  obtain ⟨path, o, rejected, listed, rfl⟩ := exists_outline stays
  obtain ⟨⟨old, here, _, rfl⟩, -⟩ := Outline.mem_callSites_forget member
  obtain ⟨u, -, statements, -, -, rfl⟩ := t.outlines_cases labelLimit listed
  exact (Outline.ofStatements_anchored labelLimit u.module u.path statements).rooted old here

/-- A call node of the resolved graph is the call node of a kept site. -/
theorem kept_of_call {c : Classifier} {id : NodeId} {n : Node} (stored : (t.resolve labelLimit c).node? id = some n)
    (call : n.kind = .call) : ∃ o ∈ (t.intake labelLimit).outlines, ∃ site,
      Linking.KeptSite (t.world labelLimit c) (t.prepared labelLimit c) o site ∧ n = site.fallback := by
  rcases Linking.node_run (w := t.world labelLimit c) (l := t.unresolved labelLimit) stored with
    stored | ⟨name, origin, rfl⟩ | ⟨o, stays, site, kept, emitted⟩
  · exact absurd call (kind_ne_call_of_lists (lists_of_stored stored))
  · cases call
  · refine ⟨o, Array.mem_toList_iff.mp stays, site, kept, ?_⟩
    rcases List.mem_cons.mp emitted with same | inner
    · exact same
    · obtain ⟨i, here, -⟩ := kept
      have rooted := rooted_of_stays (Array.mem_toList_iff.mp stays) (List.mem_of_getElem? here)
      exact absurd call (rooted.2 n inner).2

/-- Where no taken name is on record, the nodes of outlines that stay are stored. -/
theorem standing_of_clean {c : Classifier} (clean : ¬(t.resolve labelLimit c).Clashes) {o : Outline}
    (stays : o ∈ (t.intake labelLimit).outlines) : Linking.Standing (t.intake labelLimit).graph o := by
  have whole := (t.intake_whole labelLimit).resolve_left fun clashes =>
    clean ((t.grows_resolve labelLimit c).clashes clashes)
  obtain ⟨⟨path, listed⟩, nodes⟩ := whole o stays
  obtain ⟨u, -, statements, -, -, rfl⟩ := t.outlines_cases labelLimit listed
  have anchored := Outline.ofStatements_anchored labelLimit u.module u.path statements
  exact ⟨anchored, nodes, (t.intake_sound labelLimit).scopes _ stays⟩

/-- Every call node of the resolved graph is the call node of a site that is kept, and where no taken name is on
    record, all nodes of kept sites are stored and contained in the parents that they ask for. -/
theorem calls_kept (t : FileTree) (labelLimit : Nat) (c : Classifier) :
    (∀ id n, (t.resolve labelLimit c).node? id = some n → n.kind = .call →
      ∃ o ∈ (t.intake labelLimit).outlines, ∃ site,
        Linking.KeptSite (t.world labelLimit c) (t.prepared labelLimit c) o site ∧ n = site.fallback) ∧
    ((∀ d ∈ (t.resolve labelLimit c).diagnostics, d.kind ≠ .duplicateSymbol) →
      ∀ o ∈ (t.intake labelLimit).outlines, ∀ site,
        Linking.KeptSite (t.world labelLimit c) (t.prepared labelLimit c) o site → ∀ n ∈ site.nodes,
          (t.resolve labelLimit c).Holds n ∧
            ∃ p, n.parent = some p ∧ ⟨p, n.id, .containment⟩ ∈ (t.resolve labelLimit c).edges) := by
  refine ⟨fun id n stored call => kept_of_call stored call, fun none o stays site kept n member => ?_⟩
  have clean : ¬(t.resolve labelLimit c).Clashes := fun ⟨d, here, kind⟩ => none d here kind
  have sound := t.intake_sound labelLimit
  have start : (t.unresolved labelLimit).Sound (t.intake labelLimit).graph := .start sound.graph sound.names
  have placed := (Linking.run_holds (w := t.world labelLimit c) start fun o stays =>
    standing_of_clean clean (Array.mem_toList_iff.mp stays)).resolve_left clean
  have holds : (t.resolve labelLimit c).Holds n := placed o (Array.mem_toList_iff.mpr stays) site kept n member
  obtain ⟨i, here, -⟩ := kept
  obtain ⟨p, asks⟩ := (standing_of_clean clean stays).contained (List.mem_of_getElem? here) member
  have ⟨m, stored, _, same⟩ := holds
  have contains := ((t.resolve_forest labelLimit c).contains_parent stored).mpr (same.trans asks)
  exact ⟨holds, p, asks, contains⟩

set_option maxRecDepth 100000 in
/-- The theorem for a module in which one call stands in a call that has a target, and one in a call that has none. -/
theorem calls_kept_nested :
    let t := FileTree.ofFiles [("m.py", "def f(): 0\nf(g())\nh(g())\n")]
    let c := Classifier.ofPackages [] false
    let kept := fun o => Linking.KeptSite (t.world 48 c) (t.prepared 48 c) o
    (∀ d ∈ (t.resolve 48 c).diagnostics, d.kind ≠ .duplicateSymbol) ∧
      (∃ o ∈ (t.intake 48).outlines, ∃ site, kept o site ∧ site.fallback.id = "m.call(h).call(g)") ∧
      ∀ o ∈ (t.intake 48).outlines, ∀ site, kept o site → ∀ n ∈ site.nodes, (t.resolve 48 c).Holds n := by
  intro t c kept
  have unit : t.units = [⟨"m.py", "m", "def f(): 0\nf(g())\nh(g())\n"⟩] :=
    units_of_sorted (by decide +kernel) (by decide +kernel)
  have checked : (Syntax.parse "def f(): 0\nf(g())\nh(g())\n").toOption.any (fun statements =>
      let i := Intake.ofFiles [("m.py", .ok (Outline.ofStatements 48 "m" "m.py" statements))]
      let l := resolveOutlines (.ofPackages [] false) i.graph i.symbols i.outlines.toList
      decide (l.graph.diagnostics.map (fun d => d.kind) = #[] ∧
        (l.graph.node? "m.call(h).call(g)").map (fun n => (n.id, n.kind)) =
          some ("m.call(h).call(g)", .call))) = true := by
    decide +kernel
  obtain ⟨statements, read, checked⟩ := Syntax.exists_parse checked
  have entered := intake_of_unit 48 unit read
  simp only [← entered, resolveOutlines_intake, decide_eq_true_eq] at checked
  obtain ⟨quiet, call⟩ := checked
  rw [node?_linking] at call
  obtain ⟨n, stored, same⟩ := Option.map_eq_some_iff.mp call
  obtain ⟨id, call⟩ := Prod.mk.inj same
  have clean : ∀ d ∈ (t.resolve 48 c).diagnostics, d.kind ≠ .duplicateSymbol := by
    intro d member
    rw [t.diagnostics_resolve 48 c, resolveOutlines_intake, Array.map_eq_empty_iff.mp quiet] at member
    cases Array.not_mem_empty _ member
  obtain ⟨calls, nodes⟩ := calls_kept t 48 c
  refine ⟨clean, ?_, fun o stays site kept n member => (nodes clean o stays site kept n member).1⟩
  obtain ⟨o, stays, site, kept, rfl⟩ := calls _ n stored call
  exact ⟨o, stays, site, kept, id⟩

end FileTree

end ProgramGraph
