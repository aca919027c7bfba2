import ProgramGraph.Proofs.Outline.WellFormed
import ProgramGraph.Proofs.Resolution
import ProgramGraph.Proofs.Resolution.Inheritance
import ProgramGraph.Proofs.Resolution.Calls

/-! Which calls leave nodes. A call site is kept if its call has no target and the call around it, if there is one,
    is kept (`Linking.Keeps`). The flags that are carried along say so of every earlier site, so only kept sites
    place their nodes; and where no taken name is recorded, the nodes of every kept site find their parents, since
    the site around it has placed its own before. -/

namespace ProgramGraph
open Std ProgramGraph.Graph

namespace Linking

/-- The call at a place of an outline has no target, and it stands in no other call or in one that is kept. -/
inductive Keeps (w : World) (l : Linking) (o : Outline) : Nat → Prop
  | outermost {i : Nat} {site : CallSite} {problem : Option Problem} : o.callSites[i]? = some site →
      decideCall w l o.module site = .unresolved problem → site.enclosing = none → Keeps w l o i
  | enclosed {i j : Nat} {site : CallSite} {problem : Option Problem} : o.callSites[i]? = some site →
      decideCall w l o.module site = .unresolved problem → site.enclosing = some j → Keeps w l o j → Keeps w l o i

/-- A call site of an outline that is kept. -/
def KeptSite (w : World) (l : Linking) (o : Outline) (site : CallSite) : Prop :=
  ∃ i, o.callSites[i]? = some site ∧ Keeps w l o i

/-! ### Only kept sites place nodes -/

section
variable {w : World} {p l : Linking} {o : Outline} {done rest : List CallSite} {site : CallSite}
  {state : Linking × Array Bool}

theorem Keeps.of_reachable {i : Nat} {kept : Array Bool} (here : o.callSites[i]? = some site)
    (unresolved : ∃ problem, decideCall w p o.module site = .unresolved problem) (reachable : Reachable kept site)
    (sound : ∀ j, kept[j]? = some true → Keeps w p o j) : Keeps w p o i := by
  obtain ⟨problem, unresolved⟩ := unresolved
  cases place : site.enclosing with
  | none => exact .outermost here unresolved place
  | some j => exact .enclosed here unresolved place (sound j (reachable j place))

/-- A site that is kept has no target, and its place is known to be reachable once the sites before it are. -/
theorem Keeps.inv {i : Nat} (keeps : Keeps w p o i) (here : o.callSites[i]? = some site) :
    (∃ problem, decideCall w p o.module site = .unresolved problem) ∧
      ∀ j, site.enclosing = some j → Keeps w p o j := by
  cases keeps with
  | outermost found unresolved outside =>
    rw [here] at found
    cases found
    exact ⟨⟨_, unresolved⟩, fun j inside => by rw [outside] at inside; cases inside⟩
  | enclosed found unresolved inside keeps =>
    rw [here] at found
    cases found
    refine ⟨⟨_, unresolved⟩, fun j inside' => ?_⟩
    rw [inside] at inside'
    cases inside'
    exact keeps

theorem getElem?_site (split : o.callSites = done ++ site :: rest) : o.callSites[done.length]? = some site := by
  rw [split, List.getElem?_append_right (Nat.le_refl _), Nat.sub_self]
  rfl

/-- The state after some calls of an outline, from `l` on: the flags of kept sites are set at most, and only kept
    sites have placed nodes. -/
structure Flagged (w : World) (p l : Linking) (o : Outline) (done : List CallSite) (state : Linking × Array Bool) :
    Prop where
  moves : Moves w .calls (KeptSite w p o) l state.1
  size : state.2.size = done.length
  sound : ∀ i, state.2[i]? = some true → Keeps w p o i

theorem getElem?_push_true {kept : Array Bool} {flag : Bool} {i : Nat} (set : (kept.push flag)[i]? = some true) :
    kept[i]? = some true ∨ (i = kept.size ∧ flag = true) := by
  rw [Array.getElem?_push] at set
  split at set
  · rename_i last
    exact Or.inr ⟨last, Option.some.inj set⟩
  · exact Or.inl set

/-- A call adds one flag, which is set only for a call that is reached and has no target. -/
theorem linkCall_flag (w : World) (module : String) (l : Linking) (kept : Array Bool) (site : CallSite) :
    ∃ flag, (linkCall w module (l, kept) site).2 = kept.push flag ∧
      (flag = true → (∃ problem, decideCall w l module site = .unresolved problem) ∧ Reachable kept site) := by
  rcases linkCall_cases w module l kept site with
    ⟨id, -, next⟩ | ⟨problem, unresolved, ⟨reachable, next⟩ | ⟨-, next⟩⟩ <;> rw [next]
  · exact ⟨false, rfl, nofun⟩
  · exact ⟨_, rfl, fun _ => ⟨⟨problem, unresolved⟩, reachable⟩⟩
  · exact ⟨false, rfl, nofun⟩

theorem Flagged.step (flagged : Flagged w p l o done state) (symbols : l.symbols = p.symbols)
    (opened : l.openClasses = p.openClasses) (split : o.callSites = done ++ site :: rest) :
    Flagged w p l o (done ++ [site]) (linkCall w o.module state site) := by
  obtain ⟨l', kept⟩ := state
  obtain ⟨moves, size, sound⟩ := flagged
  have here := getElem?_site split
  -- Calls change neither names nor open classes, so each is decided as it would be before the first one.
  have same : decideCall w l' o.module site = decideCall w p o.module site :=
    decideCall_congr (moves.symbols.trans symbols) ((moves.opened nofun).trans opened)
  have keeps : (∃ problem, decideCall w l' o.module site = .unresolved problem) → Reachable kept site →
      Keeps w p o done.length := by
    rintro ⟨problem, unresolved⟩ reachable
    exact .of_reachable here ⟨problem, same ▸ unresolved⟩ reachable sound
  have next := moves.trans (linkCall_moves w o.module (l', kept) fun unresolved reachable =>
    ⟨done.length, here, keeps unresolved reachable⟩)
  obtain ⟨flag, pushed, raised⟩ := linkCall_flag w o.module l' kept site
  refine ⟨next, ?_, fun i set => ?_⟩
  · rw [pushed, Array.size_push, size, List.length_append]
    rfl
  · rw [pushed] at set
    rcases getElem?_push_true set with set | ⟨rfl, flagged⟩
    · exact sound i set
    · rw [size]
      exact keeps (raised flagged).1 (raised flagged).2

theorem linkCalls_flagged (symbols : l.symbols = p.symbols) (opened : l.openClasses = p.openClasses) :
    Flagged w p l o o.callSites (o.callSites.foldl (linkCall w o.module) (l, #[])) :=
  foldl_done o.callSites ⟨.refl l, rfl, fun i set => by simp at set⟩
    fun _ _ _ _ split flagged => flagged.step symbols opened split

/-- Linking the calls of outlines places the nodes of kept sites only. -/
theorem linkAllCalls_keeps (w : World) (p : Linking) (outlines : List Outline) :
    Moves w .calls (fun site => ∃ o ∈ outlines, KeptSite w p o site) p (outlines.foldl (linkCalls w) p) := by
  refine List.foldlRecOn outlines (linkCalls w)
    (motive := fun l => Moves w .calls (fun site => ∃ o ∈ outlines, KeptSite w p o site) p l) (.refl p) ?_
  intro l moves o member
  have flagged := linkCalls_flagged (w := w) (o := o) moves.symbols (moves.opened nofun)
  exact moves.trans (flagged.moves.mono fun site kept => ⟨o, member, kept⟩)

/-- What a run stores. -/
theorem node_run {l : Linking} {outlines : List Outline} {id : NodeId} {n : Node}
    (stored : (run w l outlines).graph.node? id = some n) :
    l.graph.node? id = some n ∨ (∃ name origin, n = .external name origin) ∨
      ∃ o ∈ outlines, ∃ site, KeptSite w (prepare w l outlines) o site ∧ n ∈ site.nodes := by
  rw [run_eq] at stored
  rcases (linkAllCalls_keeps w (prepare w l outlines) outlines).node_added stored with
    stored | ⟨module, external⟩ | ⟨site, ⟨o, member, kept⟩, emitted⟩
  · rcases (linkInheritance_moves w (linkImports w l) outlines).node_cases stored with stored | ⟨module, external⟩
    · rcases (linkImports_moves w l).node_cases stored with stored | ⟨module, external⟩
      · exact Or.inl stored
      · exact Or.inr (Or.inl ⟨module, _, external⟩)
    · exact Or.inr (Or.inl ⟨module, _, external⟩)
  · exact Or.inr (Or.inl ⟨module, _, external⟩)
  · exact Or.inr (Or.inr ⟨o, member, site, kept, emitted⟩)

end

end Linking

/-! ### Kept sites place all their nodes -/

namespace Graph

/-- A taken name is on record. -/
def Clashes (g : Graph) : Prop :=
  ∃ d ∈ g.diagnostics, d.kind = .duplicateSymbol

theorem Grows.clashes {g g' : Graph} (grows : Grows g g') (clashes : g.Clashes) : g'.Clashes := by
  obtain ⟨d, member, kind⟩ := clashes
  exact ⟨d, grows.diagnostic member, kind⟩

theorem clashes_report (g : Graph) (qualname kept refused : String) (path : Option String) (line : Option Nat) :
    (g.report (.duplicateSymbol qualname kept refused) path line).Clashes := by
  obtain ⟨d, member, kind, -⟩ := g.exists_report path line qualname kept refused
  exact ⟨d, member, kind⟩

end Graph

namespace Linking

section
variable (w : World) (module : String) {site : CallSite}

/-- The problems of a placement are recorded. -/
theorem reportCalls_clashes {ps : List Problem} {qualname kept refused : String}
    (member : .duplicateSymbol qualname kept refused ∈ ps) (l : Linking) :
    (ps.foldl (reportCall w module site) l).graph.Clashes := by
  induction ps generalizing l with
  | nil => cases member
  | cons p ps ih =>
    rcases List.mem_cons.mp member with rfl | member
    · have recorded : (reportCall w module site l (.duplicateSymbol qualname kept refused)).graph.Clashes :=
        clashes_report ..
      have later : Moves w .calls (fun _ => True) _ _ := reportCalls_moves w module site ps.toArray
        (reportCall w module site l (.duplicateSymbol qualname kept refused))
      rw [← Array.foldl_toList] at later
      exact later.grows.clashes recorded
    · exact ih member _

/-- A call whose node finds its parent places all its nodes, or a taken name is recorded. -/
theorem keepCall_holds {l : Linking} {p : NodeId} (sound : l.graph.Sound) (rooted : site.Rooted)
    (asks : site.fallback.parent = some p) (stands : p ∈ l.graph.nodes) :
    (keepCall w module l site).1.graph.Clashes ∨
      ((keepCall w module l site).2 = true ∧ ∀ n ∈ site.nodes, (keepCall w module l site).1.graph.Holds n) := by
  let placed := l.graph.placeAll site.nodes
  have grows : Moves w .calls (fun _ => True) { l with graph := placed.graph } (keepCall w module l site).1 :=
    reportCalls_moves ..
  by_cases problem : ∃ x, x ∈ placed.problems
  · refine Or.inl ?_
    obtain ⟨x, member⟩ := problem
    rcases Placement.foldl_problem site.nodes { graph := l.graph } member with none | ⟨qualname, kept, refused, rfl⟩
    · simp at none
    · have recorded : (placed.problems.toList.foldl (reportCall w module site)
          { l with graph := placed.graph }).graph.Clashes :=
        reportCalls_clashes w module (Array.mem_toList_iff.mpr member) _
      rw [Array.foldl_toList] at recorded
      exact recorded
  · -- Whatever is rejected has a problem, so without problems everything is stored.
    have first : ParentsFirst (· = p) site.nodes := by
      refine ⟨fun q asks' => ?_, rooted.1.mono fun id same => Or.inr same⟩
      rw [asks] at asks'
      exact (Option.some.inj asks').symm
    have kept : ∀ id, id ∉ placed.rejected := fun id lost => problem <|
      Placement.foldl_reported (p := { graph := l.graph }) sound.placed first (fun id same => Or.inr (same ▸ stands))
        (by simp) id lost
    refine Or.inr ⟨?_, fun n member => ?_⟩
    · have free : placed.rejected.contains site.fallback.id = false :=
        eq_false_of_ne_true (kept site.fallback.id)
      exact congrArg Bool.not free
    · have inner : n.parent.isSome := by
        rcases List.mem_cons.mp member with rfl | member
        · rw [asks]
          rfl
        · exact (rooted.2 n member).1
      have settled := Placement.foldl_settles (p := { graph := l.graph }) site.nodes sound.placed n member
      exact grows.grows.holds ((settled.resolve_left (kept n.id)).2 inner)

end

section
variable {w : World} {p : Linking} {g : Graph} {o : Outline} {done rest : List CallSite} {site : CallSite}
  {state : Linking × Array Bool}

/-- The state after some calls of an outline: unless a taken name is recorded, the flags of all kept sites are set,
    and these have placed their nodes. -/
structure Settled (w : World) (p : Linking) (g : Graph) (o : Outline) (done : List CallSite)
    (state : Linking × Array Bool) : Prop where
  sound : state.1.Sound g
  holds : state.1.graph.Clashes ∨ ∀ i site, done[i]? = some site → Keeps w p o i →
    state.2[i]? = some true ∧ ∀ n ∈ site.nodes, state.1.graph.Holds n

/-- The nodes of an outline are stored, and its calls stand in them or in one another. -/
structure Standing (g : Graph) (o : Outline) : Prop where
  anchored : Anchored (fun id => ∃ n ∈ o.nodes, n.id = id) none 0 o.callSites
  nodes : ∀ n ∈ o.nodes, n.id ∈ g.nodes
  scopes : ∀ site ∈ o.callSites, site.scope ∈ g.nodes

theorem Standing.contained (standing : Standing g o) (member : site ∈ o.callSites) {n : Node} (here : n ∈ site.nodes) :
    ∃ q, n.parent = some q := by
  rcases List.mem_cons.mp here with rfl | inner
  · obtain ⟨i, found⟩ := List.getElem?_of_mem member
    obtain ⟨q, asks, -⟩ := standing.anchored.fallback i site found
    exact ⟨q, asks⟩
  · exact Option.isSome_iff_exists.mp ((standing.anchored.rooted site member).2 n inner).1

/-- Where the sites before it have placed their nodes, a kept site is reached, and its node finds its parent. -/
theorem Settled.reaches (standing : Standing g o) (split : o.callSites = done ++ site :: rest) (sound : state.1.Sound g)
    (holds : ∀ i site, done[i]? = some site → Keeps w p o i →
      state.2[i]? = some true ∧ ∀ n ∈ site.nodes, state.1.graph.Holds n)
    (around : ∀ j, site.enclosing = some j → Keeps w p o j) :
    Reachable state.2 site ∧ ∃ q, site.fallback.parent = some q ∧ q ∈ state.1.graph.nodes := by
  have here := getElem?_site split
  cases inside : site.enclosing with
  | none =>
    obtain ⟨q, asks, n, member, rfl⟩ := standing.anchored.outermost (List.mem_of_getElem? here) inside
    refine ⟨fun j inside' => ?_, n.id, asks, sound.grows.mem (standing.nodes n member)⟩
    rw [inside] at inside'
    cases inside'
  | some j =>
    -- The call around this one has had its turn, so its flag is set and its nodes are stored.
    obtain ⟨before, outer, q, there, asks, n, member, rfl⟩ := standing.anchored.enclosed here inside
    rw [split, List.getElem?_append_left before] at there
    obtain ⟨set, placed⟩ := holds j outer there (around j inside)
    obtain ⟨m, stored, -⟩ := placed n member
    refine ⟨fun j' inside' => ?_, n.id, asks, mem_nodes_iff.mpr ⟨m, stored⟩⟩
    rw [inside] at inside'
    cases inside'
    exact set

/-- A call without target that is reached and finds its parent sets its flag and places its nodes, unless a taken name
    is recorded. -/
theorem linkCall_places (standing : Standing g o) (member : site ∈ o.callSites) (sound : state.1.Sound g)
    (unresolved : ∃ problem, decideCall w state.1 o.module site = .unresolved problem) (reachable : Reachable state.2 site)
    {q : NodeId} (asks : site.fallback.parent = some q) (stands : q ∈ state.1.graph.nodes) :
    (linkCall w o.module state site).1.graph.Clashes ∨ ((linkCall w o.module state site).2[state.2.size]? = some true ∧
      ∀ n ∈ site.nodes, (linkCall w o.module state site).1.graph.Holds n) := by
  obtain ⟨l, kept⟩ := state
  obtain ⟨_, unresolved⟩ := unresolved
  rcases linkCall_cases w o.module l kept site with ⟨id, resolved, -⟩ | ⟨problem, -, ⟨-, next⟩ | ⟨lost, -⟩⟩
  · rw [unresolved] at resolved
    cases resolved
  · rw [next]
    have later : Moves w .calls (fun _ => True) _ _ := reportProblem_moves w o.module site
      (keepCall w o.module l.countUnresolved site).1 problem
    have counted : l.countUnresolved.Sound g := sound.of_eq rfl rfl
    rcases keepCall_holds w o.module counted.graph (standing.anchored.rooted site member) asks stands with
      clashes | ⟨flag, placed⟩
    · exact Or.inl (later.grows.clashes clashes)
    · refine Or.inr ⟨?_, fun n member => later.grows.holds (placed n member)⟩
      rw [flag]
      exact Array.getElem?_push_size
  · exact absurd reachable lost

theorem Settled.step (settled : Settled w p g o done state) (size : state.2.size = done.length)
    (same : decideCall w state.1 o.module site = decideCall w p o.module site) (standing : Standing g o)
    (split : o.callSites = done ++ site :: rest) :
    Settled w p g o (done ++ [site]) (linkCall w o.module state site) := by
  obtain ⟨sound, holds⟩ := settled
  have here := getElem?_site split
  have member : site ∈ o.callSites := List.mem_of_getElem? here
  have moves : Moves w .calls (fun _ => True) state.1 (linkCall w o.module state site).1 :=
    linkCall_moves w o.module state fun _ _ => trivial
  refine ⟨sound.linkCall w o.module state.2 (standing.scopes site member), ?_⟩
  rcases holds with clashes | holds
  · exact Or.inl (moves.grows.clashes clashes)
  -- The site itself; the earlier ones keep their flags and nodes.
  have new : (linkCall w o.module state site).1.graph.Clashes ∨ (Keeps w p o done.length →
      (linkCall w o.module state site).2[done.length]? = some true ∧
        ∀ n ∈ site.nodes, (linkCall w o.module state site).1.graph.Holds n) := by
    by_cases keeps : Keeps w p o done.length
    · obtain ⟨unresolved, around⟩ := keeps.inv here
      obtain ⟨reachable, q, asks, stands⟩ := Settled.reaches standing split sound holds around
      have places := linkCall_places standing member sound (same ▸ unresolved) reachable asks stands
      rw [size] at places
      exact places.imp_right fun placed _ => placed
    · exact Or.inr fun keeps' => absurd keeps' keeps
  obtain ⟨flag, pushed, -⟩ := linkCall_flag w o.module state.1 state.2 site
  refine new.imp_right fun new i site' found keeps => ?_
  rcases getElem?_concat_iff.mp found with found | ⟨rfl, rfl⟩
  · obtain ⟨set, placed⟩ := holds i site' found keeps
    obtain ⟨inside, -⟩ := Array.getElem?_eq_some_iff.mp set
    refine ⟨?_, fun n member => moves.grows.holds (placed n member)⟩
    rw [pushed, Array.getElem?_push_lt inside, ← set, Array.getElem?_eq_getElem]
  · exact new keeps

theorem linkCalls_settled {l : Linking} (sound : l.Sound g) (symbols : l.symbols = p.symbols)
    (opened : l.openClasses = p.openClasses) (standing : Standing g o) :
    (linkCalls w l o).graph.Clashes ∨ ∀ site, KeptSite w p o site → ∀ n ∈ site.nodes, (linkCalls w l o).graph.Holds n := by
  -- The flags tell how each call is decided, and with that the nodes of kept sites get placed.
  have both : Flagged w p l o o.callSites _ ∧ Settled w p g o o.callSites _ := foldl_done
    (f := linkCall w o.module) (b := (l, #[])) (P := fun done state => Flagged w p l o done state ∧ Settled w p g o done state)
    o.callSites ⟨⟨.refl l, rfl, fun i set => by simp at set⟩, sound, Or.inr (by simp)⟩
    fun done site rest state split ⟨flagged, settled⟩ =>
      ⟨flagged.step symbols opened split, settled.step flagged.size
        (decideCall_congr (flagged.moves.symbols.trans symbols) ((flagged.moves.opened nofun).trans opened))
        standing split⟩
  refine both.2.holds.imp_right fun holds site ⟨i, here, keeps⟩ n member => ?_
  exact (holds i site here keeps).2 n member

/-- Linking the calls of outlines whose nodes are stored places the nodes of all kept sites, unless a taken name is
    recorded. -/
theorem linkAllCalls_holds (sound : p.Sound g) (outlines : List Outline) (standing : ∀ o ∈ outlines, Standing g o) :
    (outlines.foldl (linkCalls w) p).graph.Clashes ∨
      ∀ o ∈ outlines, ∀ site, KeptSite w p o site → ∀ n ∈ site.nodes, (outlines.foldl (linkCalls w) p).graph.Holds n := by
  have all : Moves w .calls (fun _ => True) p (outlines.foldl (linkCalls w) p) ∧
      (outlines.foldl (linkCalls w) p).Sound g ∧ ((outlines.foldl (linkCalls w) p).graph.Clashes ∨
        ∀ o ∈ outlines, ∀ site, KeptSite w p o site → ∀ n ∈ site.nodes,
          (outlines.foldl (linkCalls w) p).graph.Holds n) := by
    refine foldl_done (f := linkCalls w) (P := fun done l => Moves w .calls (fun _ => True) p l ∧ l.Sound g ∧
      (l.graph.Clashes ∨ ∀ o ∈ done, ∀ site, KeptSite w p o site → ∀ n ∈ site.nodes, l.graph.Holds n))
      outlines ⟨.refl p, sound, Or.inr (List.forall_mem_nil _)⟩ ?_
    rintro done o rest l split ⟨moves, sound, holds⟩
    have stands : Standing g o := standing o (by
      rw [split]
      exact List.mem_append_right _ List.mem_cons_self)
    have step := (linkCalls_moves w l o).mono fun _ _ => trivial
    have settled := linkCalls_settled (w := w) sound moves.symbols (moves.opened nofun) stands
    refine ⟨moves.trans step, sound.linkCalls w stands.scopes, ?_⟩
    rcases holds with clashes | holds
    · exact Or.inl (step.grows.clashes clashes)
    · refine settled.imp_right fun settled o' member site kept n here => ?_
      rcases List.mem_append.mp member with member | member
      · exact step.grows.holds (holds o' member site kept n here)
      · cases List.mem_singleton.mp member
        exact settled site kept n here
  exact all.2.2

end

/-- A run places the nodes of all kept sites, unless a taken name is recorded. -/
theorem run_holds {w : World} {l : Linking} {g : Graph} {outlines : List Outline} (sound : l.Sound g)
    (standing : ∀ o ∈ outlines, Standing g o) : (run w l outlines).graph.Clashes ∨
      ∀ o ∈ outlines, ∀ site, KeptSite w (prepare w l outlines) o site →
        ∀ n ∈ site.nodes, (run w l outlines).graph.Holds n := by
  rw [run_eq]
  exact linkAllCalls_holds (sound.prepare w outlines) outlines standing

end Linking

end ProgramGraph
