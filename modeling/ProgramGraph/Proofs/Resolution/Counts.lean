import Mathlib.Data.List.Perm.Subperm
import ProgramGraph.Proofs.Resolution.Order

/-! The counters of calls. Imports and bases leave them alone. Every call site counts once, as resolved or as
    unresolved, and one that is resolved leaves one link, which may be there already: so the links of calls are no
    more than the calls resolved. -/

namespace ProgramGraph
open Std ProgramGraph.Graph

namespace Linking

/-- The counters of calls are the same. -/
structure SameCalls (l l' : Linking) : Prop where
  resolved : l'.counts.callsResolved = l.counts.callsResolved
  unresolved : l'.counts.callsUnresolved = l.counts.callsUnresolved

/-! ### Imports and bases -/

section
variable {l l' l'' : Linking} {w : World}

theorem SameCalls.trans (first : SameCalls l l') (second : SameCalls l' l'') : SameCalls l l'' :=
  ⟨second.resolved.trans first.resolved, second.unresolved.trans first.unresolved⟩

theorem linkImportEdge_sameCalls (l : Linking) (source target : NodeId) : SameCalls l (l.linkImportEdge source target) := by
  unfold linkImportEdge linkCounted
  simp only
  split <;> exact ⟨by simp [counts_link], by simp [counts_link]⟩

theorem linkImport_sameCalls (w : World) (l : Linking) (i : ImportLink) : SameCalls l (linkImport w l i) := by
  rcases linkImport_cases w l i with
    next | ⟨source, -, ⟨target, -, next⟩ | ⟨module, origin, -, ⟨-, next⟩ | ⟨-, next⟩⟩⟩ <;> rw [next]
  · exact ⟨rfl, rfl⟩
  · exact linkImportEdge_sameCalls ..
  · exact ⟨rfl, rfl⟩
  · exact (⟨rfl, rfl⟩ : SameCalls l (l.addExternal _ _)).trans (linkImportEdge_sameCalls ..)

theorem linkImports_sameCalls (w : World) (l : Linking) : SameCalls l (linkImports w l) :=
  List.foldlRecOn l.symbols.importLinks (linkImport w) (motive := SameCalls l) ⟨rfl, rfl⟩
    fun l' same i _ => same.trans (linkImport_sameCalls w l' i)

/-- A mark that is no decided call. -/
def Mark.IsQuiet (mark : Mark) : Prop :=
  mark ≠ .resolved ∧ mark ≠ .unresolved

theorem Leaves.sameCalls {marks : List Mark} (leaves : Leaves l marks l') (quiet : ∀ mark ∈ marks, mark.IsQuiet) :
    SameCalls l l' where
  resolved := by
    rw [leaves.resolved, List.count_eq_zero_of_not_mem fun here => (quiet _ here).1 rfl, Nat.add_zero]
  unresolved := by
    rw [leaves.unresolved, List.count_eq_zero_of_not_mem fun here => (quiet _ here).2 rfl, Nat.add_zero]

theorem isQuiet_of_mem_linkMarks {e : Edge} {mark : Mark} (left : mark ∈ linkMarks e) : mark.IsQuiet := by
  unfold linkMarks at left
  split at left
  · cases List.mem_singleton.mp left
    exact ⟨nofun, nofun⟩
  · cases left

theorem isQuiet_of_mem_reportMarks {p : Problem} {module : String} {line : Option Nat} {mark : Mark}
    (left : mark ∈ reportMarks w p module line) : mark.IsQuiet := by
  obtain ⟨d, -, rfl⟩ := List.mem_map.mp left
  exact ⟨nofun, nofun⟩

theorem isQuiet_opens (qualname : String) : (Mark.opens qualname).IsQuiet :=
  ⟨nofun, nofun⟩

theorem isQuiet_of_mem_baseMarks {s : Symbols} {module base : String} {cls : ClassDecl} {mark : Mark}
    (left : mark ∈ baseMarks w s module cls base) : mark.IsQuiet := by
  have opened {reason : String} (left : mark ∈ Mark.opens cls.qualname ::
      reportMarks w (.unresolvedReference module base reason) module (some cls.line)) : mark.IsQuiet := by
    rcases List.mem_cons.mp left with rfl | left
    · exact isQuiet_opens _
    · exact isQuiet_of_mem_reportMarks left
  unfold baseMarks at left
  simp only at left
  split at left
  · exact isQuiet_of_mem_linkMarks left
  · exact opened left
  · rcases List.mem_append.mp left with left | left
    · exact isQuiet_of_mem_linkMarks left
    · cases List.mem_singleton.mp left
      exact isQuiet_opens _
  · split at left
    · split at left
      · cases left
      · cases List.mem_singleton.mp left
        exact isQuiet_opens _
    · exact opened left
  all_goals exact opened left

/-- Before calls are decided, none is counted. -/
theorem prepare_sameCalls (w : World) (l : Linking) (outlines : List Outline) : SameCalls l (prepare w l outlines) := by
  -- Linking bases leaves no mark of a decided call.
  have bases : SameCalls (linkImports w l) (linkBases w l outlines).1 := by
    refine (linkBases_leaves w l outlines).1.sameCalls fun mark left => ?_
    obtain ⟨entry, -, left⟩ := List.mem_flatMap.mp left
    unfold classMarks at left
    split at left
    · obtain ⟨base, -, left⟩ := List.mem_flatMap.mp left
      exact isQuiet_of_mem_baseMarks left
    · cases left
  have both := (linkImports_sameCalls w l).trans bases
  rw [prepare_eq]
  exact ⟨both.resolved, both.unresolved⟩

/-- Before calls are decided, none is linked. -/
theorem prepare_calls (w : World) (l : Linking) (outlines : List Outline) :
    ((prepare w l outlines).graph.edgesOfKind .calls).length = (l.graph.edgesOfKind .calls).length := by
  have imports : Moves w .importing (fun _ => False) l (linkImports w l) := linkImports_moves w l
  have bases : Moves w .inherits (fun _ => False) (linkImports w l) (linkInheritance w (linkImports w l) outlines).1 :=
    linkInheritance_moves w _ outlines
  refine length_edgesOfKind_congr fun e calls => ⟨fun member => ?_, fun member => bases.grows.edge (imports.grows.edge member)⟩
  rcases bases.edge_cases member with member | kind | kind
  · rcases imports.edge_cases member with member | kind | kind
    · exact member
    · simp [calls] at kind
    · simp [calls] at kind
  · simp [calls] at kind
  · simp [calls] at kind

end

/-! ### Calls -/

/-- The edge of a link. -/
def Mark.edge? : Mark → Option Edge
  | link e => some e
  | _ => none

section
variable {w : World} {p l l' : Linking} {module : String} {site : CallSite}

/-- A new edge has a link of its own. -/
theorem Leaves.length_edgesOfKind_le {marks : List Mark} (leaves : Leaves l marks l') (kind : EdgeKind)
    (link : kind.isLink = true) :
    (l'.graph.edgesOfKind kind).length ≤ (l.graph.edgesOfKind kind).length + (marks.filterMap Mark.edge?).length := by
  rw [← List.length_append]
  refine (List.subperm_of_subset (nodup_edgesOfKind ..) fun e member => ?_).length_le
  obtain ⟨member, same⟩ := mem_edgesOfKind.mp member
  rcases (leaves.links e (same ▸ link)).mp member with member | left
  · exact List.mem_append_left _ (mem_edgesOfKind.mpr ⟨member, same⟩)
  · exact List.mem_append_right _ (List.mem_filterMap.mpr ⟨_, left, rfl⟩)

/-- A call leaves a link and is resolved, or it is unresolved and leaves records. -/
theorem callMarks_cases (w : World) (p : Linking) (module : String) (site : CallSite) :
    (∃ e, callMarks w p module site = [.link e, .resolved]) ∨
      ∃ records : List Diagnostic, callMarks w p module site = .unresolved :: records.map .report := by
  unfold callMarks
  cases decideCall w p module site with
  | resolved id => exact Or.inl ⟨⟨site.scope, id, .calls⟩, by simp [linkMarks, mayLink]⟩
  | unresolved problem =>
    cases problem with
    | none => exact Or.inr ⟨[], rfl⟩
    | some x => exact Or.inr ⟨_, rfl⟩

/-- These marks decide `n` calls, with a link for each one that is resolved. -/
structure Decides (marks : List Mark) (n : Nat) : Prop where
  calls : marks.count .resolved + marks.count .unresolved = n
  links : (marks.filterMap Mark.edge?).length = marks.count .resolved

theorem Decides.flatMap {α β : Type} {marks : α → List Mark} (sites : α → List β)
    (each : ∀ a, Decides (marks a) (sites a).length) (as : List α) :
    Decides (as.flatMap marks) (as.flatMap sites).length := by
  induction as with
  | nil => exact ⟨rfl, rfl⟩
  | cons a as ih =>
    obtain ⟨calls, links⟩ := each a
    obtain ⟨laterCalls, laterLinks⟩ := ih
    constructor
    · simp only [List.flatMap_cons, List.count_append, List.length_append]
      omega
    · simp only [List.flatMap_cons, List.filterMap_append, List.length_append, List.count_append]
      omega

theorem callMarks_decides (w : World) (p : Linking) (module : String) (site : CallSite) :
    Decides (callMarks w p module site) 1 := by
  rcases callMarks_cases w p module site with ⟨e, marks⟩ | ⟨records, marks⟩ <;> rw [marks]
  · exact ⟨rfl, rfl⟩
  · have none (mark : Mark) (call : ∀ d, mark ≠ .report d) : (records.map Mark.report).count mark = 0 :=
      List.count_eq_zero_of_not_mem fun here => by
        obtain ⟨d, -, same⟩ := List.mem_map.mp here
        exact call d same.symm
    constructor
    · simp [none]
    · simp [none, Mark.edge?]

theorem outlineMarks_decides (w : World) (p : Linking) (o : Outline) :
    Decides (outlineMarks w p o) o.callSites.length := by
  have all := Decides.flatMap (fun site : CallSite => [site]) (callMarks_decides w p o.module) o.callSites
  rwa [List.flatMap_singleton'] at all

/-- A run counts every call site once, and links no more calls than it counts as resolved. -/
theorem run_counts (w : World) (l : Linking) (outlines : List Outline) :
    (run w l outlines).counts.callsResolved + (run w l outlines).counts.callsUnresolved =
        l.counts.callsResolved + l.counts.callsUnresolved + (outlines.flatMap Outline.callSites).length ∧
      ((run w l outlines).graph.edgesOfKind .calls).length + l.counts.callsResolved ≤
        (l.graph.edgesOfKind .calls).length + (run w l outlines).counts.callsResolved := by
  have before := prepare_sameCalls w l outlines
  have leaves := linkAllCalls_leaves w (prepare w l outlines) outlines
  obtain ⟨calls, links⟩ := Decides.flatMap Outline.callSites (outlineMarks_decides w (prepare w l outlines)) outlines
  have edges := leaves.length_edgesOfKind_le .calls rfl
  rw [prepare_calls] at edges
  rw [run_eq, leaves.resolved, leaves.unresolved, before.resolved, before.unresolved]
  omega

end

end Linking

end ProgramGraph
