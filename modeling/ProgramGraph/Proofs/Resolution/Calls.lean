import ProgramGraph.Proofs.Resolution.Moves

/-! Deciding calls. A decision reads the names of the project and the open classes, which calls do not change; so
    every call of a run is decided as in the state before all calls. What it decides stays in the graph: the
    edge to the target, which is a class or a function of the project (`Callable`), or the record of the problem. -/

namespace ProgramGraph
open Std

namespace Linking

section
variable {w : World} {l l' : Linking} {module : String} {site : CallSite}

theorem decideCall_congr_mem (symbols : l'.symbols = l.symbols)
    (opened : ∀ q, q ∈ l'.openClasses ↔ q ∈ l.openClasses) :
    decideCall w l' module site = decideCall w l module site := by
  have same (q : String) : l'.openClasses.contains q = l.openClasses.contains q := Bool.eq_iff_iff.mpr (opened q)
  unfold decideCall nameCall methodCall moduleCall
  simp only [symbols, same]

theorem decideCall_congr (symbols : l'.symbols = l.symbols) (opened : l'.openClasses = l.openClasses) :
    decideCall w l' module site = decideCall w l module site :=
  decideCall_congr_mem symbols fun q => by rw [opened]

/-! ### One call -/

theorem linkCall_resolved {kept : Array Bool} {id : NodeId} (decided : decideCall w l module site = .resolved id) :
    ⟨site.scope, id, .calls⟩ ∈ (linkCall w module (l, kept) site).1.graph.edges := by
  rcases linkCall_cases w module l kept site with ⟨id', other, next⟩ | ⟨problem, other, -⟩ <;> rw [decided] at other <;>
    cases other
  rw [next]
  exact mem_edges_link.mpr (Or.inl ⟨rfl, Bool.or_eq_true_iff.mpr (Or.inr rfl)⟩)

theorem linkCall_unresolved {kept : Array Bool} {p : Problem} (decided : decideCall w l module site = .unresolved (some p))
    {d : Diagnostic} (located : Diagnostic.located? p w.paths[module]? (some site.line) = some d) :
    d ∈ (linkCall w module (l, kept) site).1.graph.diagnostics := by
  have reported (l : Linking) : d ∈ (reportCall w module site l p).graph.diagnostics := by
    simp [reportCall, report, Graph.diagnostics_report, located]
  rcases linkCall_cases w module l kept site with ⟨id, other, -⟩ | ⟨problem, other, ⟨-, next⟩ | ⟨-, next⟩⟩ <;>
    rw [decided] at other <;> cases other <;> rw [next] <;> exact reported _

end

/-! ### Calls of a run -/

section
variable {w : World} {l : Linking} {outlines : List Outline} {o : Outline} {site : CallSite}

/-- In a run every call site has its turn: it is decided as before all calls, and what it leaves stays. -/
theorem run_at_site (member : o ∈ outlines) (here : site ∈ o.callSites) :
    ∃ state : Linking × Array Bool,
      decideCall w state.1 o.module site = decideCall w (prepare w l outlines) o.module site ∧
        (linkCall w o.module state site).1.graph.Grows (run w l outlines).graph := by
  obtain ⟨before, after, split⟩ := List.append_of_mem member
  obtain ⟨earlier, later, sites⟩ := List.append_of_mem here
  let first := before.foldl (linkCalls w) (prepare w l outlines)
  let state := earlier.foldl (linkCall w o.module) (first, #[])
  have turn : linkCalls w first o = (later.foldl (linkCall w o.module) (linkCall w o.module state site)).1 := by
    unfold linkCalls
    rw [sites, List.foldl_append, List.foldl_cons]
  have whole : run w l outlines = after.foldl (linkCalls w) (linkCalls w first o) := by
    refine (congrArg (List.foldl (linkCalls w) (prepare w l outlines)) split).trans ?_
    rw [List.foldl_append, List.foldl_cons]
  have inside (sites : List CallSite) (state : Linking × Array Bool) :
      Moves w .calls (fun _ => True) state.1 (sites.foldl (linkCall w o.module) state).1 :=
    .foldl Prod.fst sites state fun state _ _ => linkCall_moves w o.module state fun _ _ => trivial
  have start : Moves w .calls (fun _ => True) (prepare w l outlines) state.1 :=
    ((linkAllCalls_moves w _ before).mono fun _ _ => trivial).trans (inside earlier (first, #[]))
  refine ⟨state, decideCall_congr start.symbols (start.opened nofun), ?_⟩
  rw [whole, turn]
  exact (inside later _).grows.trans (linkAllCalls_moves w _ after).grows

/-- The edge of a call that has a target is in the graph of the run. -/
theorem run_resolved (member : o ∈ outlines) (here : site ∈ o.callSites) {id : NodeId}
    (decided : decideCall w (prepare w l outlines) o.module site = .resolved id) :
    ⟨site.scope, id, .calls⟩ ∈ (run w l outlines).graph.edges := by
  obtain ⟨state, same, grows⟩ := run_at_site (w := w) (l := l) member here
  exact grows.edge (linkCall_resolved (same.trans decided))

/-- The problem of a call that has none is on record in the graph of the run. -/
theorem run_unresolved (member : o ∈ outlines) (here : site ∈ o.callSites) {p : Problem}
    (decided : decideCall w (prepare w l outlines) o.module site = .unresolved (some p)) {d : Diagnostic}
    (located : Diagnostic.located? p w.paths[o.module]? (some site.line) = some d) :
    d ∈ (run w l outlines).graph.diagnostics := by
  obtain ⟨state, same, grows⟩ := run_at_site (w := w) (l := l) member here
  exact grows.diagnostic (linkCall_unresolved (same.trans decided) located)

end

/-! ### Methods -/

/-- A call of a method on the object at hand, or on its class, inside the class `cls`. -/
def IsSelfCall (site : CallSite) (cls method : String) : Prop :=
  site.classScope = some cls ∧ ∃ object, site.target = .attribute object method ∧ (object = "self" ∨ object = "cls")

/-- The problem that a class of the project lacks a method. -/
def lacks (module object cls method : String) : Problem :=
  .unresolvedReference module (Dotted.qualify object method) ("class " ++ cls ++ " has no method `" ++ method ++ "`")

/-- A call asks a class of the project for a method, on the object at hand or on the class by its name, and is
    answered that the class has none. -/
def Misses (w : World) (l : Linking) (module : String) (site : CallSite) (cls method : String) : Prop :=
  ∃ object, site.target = .attribute object method ∧
    (((object = "self" ∨ object = "cls") ∧ site.classScope = some cls) ∨
      (¬(object = "self" ∨ object = "cls") ∧ ∃ id, l.symbols.resolve w.classifier module object = .class cls id)) ∧
    decideCall w l module site = .unresolved (some (lacks module object cls method))

section
variable {w : World} {l : Linking} {module : String} {site : CallSite} {cls method : String}

/-- A method that a class has is a function that it owns, or a class inside it. -/
theorem methodCall_eq_resolved {reference : String} {id : NodeId}
    (decided : l.methodCall module cls method reference = .resolved id) :
    l.symbols.function? cls method = some id ∨ l.symbols.class? (Dotted.qualify cls method) = some id := by
  unfold methodCall at decided
  split at decided
  · cases decided
  · split at decided
    · rename_i found
      cases decided
      exact (Option.or_eq_some_iff.mp found).imp_right fun ⟨_, there⟩ => there
    · split at decided <;> cases decided

/-- A class that is said to lack a method is closed. -/
theorem methodCall_eq_lacks {object : String} (decided : l.methodCall module cls method (Dotted.qualify object method) =
    .unresolved (some (lacks module object cls method))) : cls ∉ l.openClasses := by
  unfold methodCall at decided
  split at decided
  · -- The other complaint begins with another letter.
    have reasons := Problem.unresolvedReference.inj (Option.some.inj (CallOutcome.unresolved.inj decided))
    have same := congrArg String.toList reasons.2.2
    simp [String.toList_append] at same
  · split at decided
    · cases decided
    · split at decided
      · cases decided
      · rename_i closed
        exact closed

theorem decideCall_self {object : String} (target : site.target = .attribute object method)
    (self : object = "self" ∨ object = "cls") (scope : site.classScope = some cls) :
    decideCall w l module site = l.methodCall module cls method (Dotted.qualify object method) := by
  unfold decideCall
  simp only [target, scope, self, if_true, Bool.or_eq_true, decide_eq_true_eq]

theorem decideCall_named {object : String} {id : NodeId} (target : site.target = .attribute object method)
    (other : ¬(object = "self" ∨ object = "cls")) (named : l.symbols.resolve w.classifier module object = .class cls id) :
    decideCall w l module site = l.methodCall module cls method (Dotted.qualify object method) := by
  unfold decideCall
  simp only [target, named, other, if_false, Bool.or_eq_true, decide_eq_true_eq]

/-- A call on the object at hand leads to a function that the class owns, or to a class inside it. -/
theorem IsSelfCall.resolved (self : IsSelfCall site cls method) {id : NodeId}
    (decided : decideCall w l module site = .resolved id) :
    l.symbols.function? cls method = some id ∨ l.symbols.class? (Dotted.qualify cls method) = some id := by
  obtain ⟨scope, object, target, self⟩ := self
  rw [decideCall_self target self scope] at decided
  exact methodCall_eq_resolved decided

theorem Misses.closed (misses : Misses w l module site cls method) : cls ∉ l.openClasses := by
  obtain ⟨object, target, ⟨self, scope⟩ | ⟨other, id, named⟩, decided⟩ := misses
  · rw [decideCall_self target self scope] at decided
    exact methodCall_eq_lacks decided
  · rw [decideCall_named target other named] at decided
    exact methodCall_eq_lacks decided

end

/-! ### Targets -/

section
variable {w : World} {l : Linking} {module : String} {site : CallSite} {id : NodeId}

/-- `id` is the id of a class or of a function. -/
def Callable (l : Linking) (id : NodeId) : Prop :=
  (∃ qualname, l.symbols.class? qualname = some id) ∨ ∃ owner name, l.symbols.function? owner name = some id

theorem methodCall_callable {cls method reference : String}
    (decided : l.methodCall module cls method reference = .resolved id) : l.Callable id :=
  (methodCall_eq_resolved decided).symm.imp (fun found => ⟨_, found⟩) fun found => ⟨_, _, found⟩

theorem moduleCall_callable {target member reference : String}
    (decided : l.moduleCall module target member reference = .resolved id) : l.Callable id := by
  unfold moduleCall at decided
  split at decided
  · rename_i found
    cases decided
    exact (Option.or_eq_some_iff.mp found).symm.imp (fun ⟨_, there⟩ => ⟨_, there⟩) fun there => ⟨_, _, there⟩
  · cases decided

theorem nameCall_callable {owners : List String} {name : String}
    (decided : nameCall w l module owners name = .resolved id) : l.Callable id := by
  unfold nameCall at decided
  split at decided
  · rename_i found
    cases decided
    obtain ⟨owner, -, there⟩ := List.exists_of_findSome?_eq_some found
    exact Or.inr ⟨owner, name, there⟩
  · have holds : l.symbols.Holds w.classifier
        ((l.symbols.declared? module name).getD (l.symbols.resolve w.classifier module name)) := by
      cases declared : l.symbols.declared? module name with
      | none => exact l.symbols.holds_resolve w.classifier module name
      | some r => exact Symbols.holds_declared? declared
    split at decided <;> rename_i referent
    · cases decided
      rw [referent] at holds
      exact Or.inl ⟨_, holds⟩
    · cases decided
      rw [referent] at holds
      exact Or.inr holds
    · cases decided

/-- A call leads to a class or to a function. -/
theorem decideCall_callable (decided : decideCall w l module site = .resolved id) : l.Callable id := by
  unfold decideCall at decided
  split at decided
  · cases decided
  · exact nameCall_callable decided
  · simp only at decided
    split at decided
    · split at decided
      · exact methodCall_callable decided
      · cases decided
    · split at decided
      · exact methodCall_callable decided
      · exact moduleCall_callable decided
      · cases decided

end

end Linking

/-- The report that a class lacks a method is on record. -/
def Graph.Lacks (g : Graph) (module cls method : String) : Prop :=
  ∃ d ∈ g.diagnostics, d.kind = .unresolvedReference ∧
    ∃ object, d.message = (Linking.lacks module object cls method).message

/-- In a run every call that is answered so leaves the report. -/
theorem Linking.Misses.recorded {w : World} {l : Linking} {outlines : List Outline} {o : Outline} (member : o ∈ outlines)
    {site : CallSite} (here : site ∈ o.callSites) {cls method : String}
    (misses : Misses w (prepare w l outlines) o.module site cls method) :
    (run w l outlines).graph.Lacks o.module cls method := by
  obtain ⟨object, -, -, decided⟩ := misses
  exact ⟨_, run_unresolved member here decided rfl, rfl, object, rfl⟩

end ProgramGraph
