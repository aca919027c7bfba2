import ProgramGraph.Proofs.Resolution.Calls

/-! What linking leaves, in order: links, open classes, records of names that stand for nothing, and decided calls
    (`Linking.Mark`). What a class or a call leaves depends on the names of the project only, and a call on the
    open classes too; it depends neither on the graph nor on what came before (`linkBases_leaves`,
    `linkAllCalls_leaves`). Nodes are no marks: whether the node of a call is placed does depend on the graph. -/

namespace ProgramGraph
open Std ProgramGraph.Graph

namespace Graph

/-- The records of a kind, in order. -/
def recordsOf (g : Graph) (kind : ProblemKind) : List Diagnostic :=
  g.diagnostics.toList.filter fun d => d.kind == kind

theorem recordsOf_report (g : Graph) (p : Problem) (path : Option String) (line : Option Nat) (kind : ProblemKind) :
    (g.report p path line).recordsOf kind =
      g.recordsOf kind ++ (Diagnostic.located? p path line).toList.filter fun d => d.kind == kind := by
  simp [recordsOf, diagnostics_report]

end Graph

namespace Linking

inductive Mark
  | link (e : Edge)
  | opens (qualname : String)
  | report (d : Diagnostic)
  | resolved
  | unresolved
  deriving DecidableEq

namespace Mark

/-- The record that a name stands for nothing. -/
def record? : Mark → Option Diagnostic
  | report d => if d.kind = .unresolvedReference then some d else none
  | _ => none

end Mark

/-- From `l` to `l'` these marks are left, and nothing else that marks speak of. -/
structure Leaves (l : Linking) (marks : List Mark) (l' : Linking) : Prop where
  symbols : l'.symbols = l.symbols
  links : ∀ e : Edge, e.kind.isLink = true → (e ∈ l'.graph.edges ↔ e ∈ l.graph.edges ∨ .link e ∈ marks)
  opened : ∀ q, q ∈ l'.openClasses ↔ q ∈ l.openClasses ∨ .opens q ∈ marks
  records : l'.graph.recordsOf .unresolvedReference =
    l.graph.recordsOf .unresolvedReference ++ marks.filterMap Mark.record?
  resolved : l'.counts.callsResolved = l.counts.callsResolved + marks.count .resolved
  unresolved : l'.counts.callsUnresolved = l.counts.callsUnresolved + marks.count .unresolved

/-! ### Elementary steps -/

def linkMarks (e : Edge) : List Mark :=
  if mayLink e then [.link e] else []

def reportMarks (w : World) (p : Problem) (module : String) (line : Option Nat) : List Mark :=
  (Diagnostic.located? p w.paths[module]? line).toList.map .report

namespace Leaves
variable {l l' l'' : Linking} {marks marks' : List Mark}

/-- A step that leaves no marks. -/
theorem silent (symbols : l'.symbols = l.symbols)
    (links : ∀ e : Edge, e.kind.isLink = true → (e ∈ l'.graph.edges ↔ e ∈ l.graph.edges))
    (opened : l'.openClasses = l.openClasses)
    (records : l'.graph.recordsOf .unresolvedReference = l.graph.recordsOf .unresolvedReference)
    (resolved : l'.counts.callsResolved = l.counts.callsResolved)
    (unresolved : l'.counts.callsUnresolved = l.counts.callsUnresolved) : Leaves l [] l' where
  symbols := symbols
  links e is := by simp [links e is]
  opened q := by simp [opened]
  records := by simp [records]
  resolved := by simp [resolved]
  unresolved := by simp [unresolved]

theorem refl (l : Linking) : Leaves l [] l :=
  silent rfl (fun _ _ => Iff.rfl) rfl rfl rfl rfl

theorem trans (first : Leaves l marks l') (second : Leaves l' marks' l'') : Leaves l (marks ++ marks') l'' where
  symbols := second.symbols.trans first.symbols
  links e is := by simp [second.links e is, first.links e is, or_assoc]
  opened q := by simp [second.opened q, first.opened q, or_assoc]
  records := by simp [second.records, first.records]
  resolved := by simp [second.resolved, first.resolved, Nat.add_assoc]
  unresolved := by simp [second.unresolved, first.unresolved, Nat.add_assoc]

theorem addExternal (l : Linking) (module : String) (origin : Origin) : Leaves l [] (l.addExternal module origin) :=
  silent rfl (fun _ _ => Iff.rfl) rfl rfl rfl rfl

theorem openClass (l : Linking) (qualname : String) : Leaves l [.opens qualname] (l.openClass qualname) where
  symbols := rfl
  links e _ := by simp [Linking.openClass]
  opened q := by
    simp only [Linking.openClass, TreeSet.mem_insert, Std.compare_eq_iff_eq, List.mem_singleton, Mark.opens.injEq]
    rw [or_comm, eq_comm]
  records := by simp [Linking.openClass, Mark.record?]
  resolved := by simp [Linking.openClass]
  unresolved := by simp [Linking.openClass]

theorem report (w : World) (l : Linking) (p : Problem) (module : String) (line : Option Nat) :
    Leaves l (reportMarks w p module line) (Linking.report w l p module line) where
  symbols := rfl
  links e _ := by simp [Linking.report, reportMarks]
  opened q := by simp [Linking.report, reportMarks]
  records := by
    unfold Linking.report reportMarks
    rw [recordsOf_report]
    cases Diagnostic.located? p w.paths[module]? line with
    | none => rfl
    | some d => by_cases kind : d.kind = .unresolvedReference <;> simp [Mark.record?, kind]
  resolved := by simp [Linking.report, reportMarks, List.count_eq_zero_of_not_mem]
  unresolved := by simp [Linking.report, reportMarks, List.count_eq_zero_of_not_mem]

theorem link (l : Linking) (e : Edge) : Leaves l (linkMarks e) (l.link e) := by
  unfold Linking.link linkMarks
  split
  · exact {
      symbols := rfl
      links := fun e' _ => by simp [mem_edges_addEdge, or_comm]
      opened := by simp
      records := by simp [Mark.record?, recordsOf, addEdge]
      resolved := by simp
      unresolved := by simp }
  · exact refl l

theorem linkBaseEdge (l : Linking) (source target : NodeId) :
    Leaves l (linkMarks ⟨source, target, .inherits⟩) (l.linkBaseEdge source target) := by
  have counted : Leaves (l.link ⟨source, target, .inherits⟩) [] (l.linkBaseEdge source target) := by
    unfold Linking.linkBaseEdge linkCounted
    simp only
    split
    · exact silent rfl (fun _ _ => Iff.rfl) rfl rfl (by simp [counts_link]) (by simp [counts_link])
    · exact refl _
  have both := (link l ⟨source, target, .inherits⟩).trans counted
  rwa [List.append_nil] at both

end Leaves

/-! ### Bases -/

/-- The class statements of some outlines with their modules, in order. -/
def classesOf (outlines : List Outline) : List (String × ClassDecl) :=
  outlines.flatMap fun o => o.classes.map fun cls => (o.module, cls)

theorem linkClasses_eq (w : World) (outlines : List Outline) (state : Linking × Hierarchy) :
    outlines.foldl (fun state o => o.classes.foldl (linkClass w o.module) state) state =
      (classesOf outlines).foldl (fun state entry => linkClass w entry.1 state entry.2) state := by
  unfold classesOf
  rw [List.foldl_flatMap]
  simp only [List.foldl_map]

/-- The state after the bases of all classes have been linked, before openness spreads. -/
def linkBases (w : World) (l : Linking) (outlines : List Outline) : Linking × Hierarchy :=
  (classesOf outlines).foldl (fun state entry => linkClass w entry.1 state entry.2) (linkImports w l, ∅)

/-- The hierarchy of the classes of some outlines. -/
def hierarchy (w : World) (l : Linking) (outlines : List Outline) : Hierarchy :=
  (linkBases w l outlines).2

/-- What a base leaves, as it is written in a class statement. -/
def baseMarks (w : World) (s : Symbols) (module : String) (cls : ClassDecl) (base : String) : List Mark :=
  let reported (reason : String) := reportMarks w (.unresolvedReference module base reason) module (some cls.line)
  match s.resolve w.classifier module base with
  | .class _ id => linkMarks ⟨cls.id, id, .inherits⟩
  | .external _ .unresolved => .opens cls.qualname :: reported unresolvedBase
  | .external name origin => linkMarks ⟨cls.id, (Node.external name origin).id, .inherits⟩ ++ [.opens cls.qualname]
  | .unknown =>
    if w.classifier.isBuiltin base then if base = "object" then [] else [.opens cls.qualname]
    else .opens cls.qualname :: reported missingBase
  | .function _ | .module .. | .member _ => .opens cls.qualname :: reported wrongBase

/-- The classes of the project that a base names. -/
def baseNames (w : World) (s : Symbols) (module base : String) : List String :=
  match s.resolve w.classifier module base with
  | .class qualname _ => [qualname]
  | _ => []

/-- A class statement whose name stands for it. -/
def Held (s : Symbols) (entry : String × ClassDecl) : Prop :=
  s.class? entry.2.qualname = some entry.2.id

instance (s : Symbols) (entry : String × ClassDecl) : Decidable (Held s entry) :=
  inferInstanceAs (Decidable (_ = _))

def classMarks (w : World) (s : Symbols) (entry : String × ClassDecl) : List Mark :=
  if Held s entry then entry.2.bases.flatMap (baseMarks w s entry.1 entry.2) else []

/-- What a class statement enters into the hierarchy. -/
def classEntries (w : World) (s : Symbols) (entry : String × ClassDecl) : List (String × List String) :=
  if Held s entry then [(entry.2.qualname, entry.2.bases.flatMap (baseNames w s entry.1))] else []

theorem mem_classEntries {w : World} {s : Symbols} {stated : String × ClassDecl} {entry : String × List String}
    (member : entry ∈ classEntries w s stated) :
    Held s stated ∧ entry = (stated.2.qualname, stated.2.bases.flatMap (baseNames w s stated.1)) := by
  unfold classEntries at member
  split at member
  · rename_i held
    exact ⟨held, List.mem_singleton.mp member⟩
  · cases member

/-- Enters classes with their bases into a hierarchy. -/
def enterBases (h : Hierarchy) (entries : List (String × List String)) : Hierarchy :=
  entries.foldl (fun h entry => h.insert entry.1 entry.2) h

/-- Of a class the last entry counts. -/
theorem getElem?_enterBases (entries : List (String × List String)) (h : Hierarchy) (cls : String) :
    (enterBases h entries)[cls]? =
      (entries.filter fun entry => entry.1 == cls).foldl (fun _ entry => some entry.2) h[cls]? := by
  induction entries generalizing h with
  | nil => rfl
  | cons entry entries ih =>
    refine (ih (h.insert entry.1 entry.2)).trans ?_
    by_cases same : entry.1 = cls <;> simp [TreeMap.getElem?_insert, same]

theorem mem_of_getElem?_enterBases {entries : List (String × List String)} {h : Hierarchy} {cls : String}
    {bases : List String} (found : (enterBases h entries)[cls]? = some bases) :
    (cls, bases) ∈ entries ∨ h[cls]? = some bases := by
  induction entries generalizing h with
  | nil => exact Or.inr found
  | cons entry entries ih =>
    rcases ih found with member | found
    · exact Or.inl (List.mem_cons_of_mem _ member)
    · rw [TreeMap.getElem?_insert] at found
      split at found <;> rename_i same
      · rw [← Std.compare_eq_iff_eq.mp same, ← Option.some.inj found]
        exact Or.inl List.mem_cons_self
      · exact Or.inr found

section
variable {w : World} {state : Linking × Hierarchy} {module : String} {cls : ClassDecl}

theorem linkClass_held {cls : ClassDecl} (held : state.1.symbols.class? cls.qualname = some cls.id) :
    linkClass w module state cls =
      ((cls.bases.foldl (linkBase w module cls) (state.1, [])).1,
        state.2.insert cls.qualname (cls.bases.foldl (linkBase w module cls) (state.1, [])).2) :=
  if_pos held

theorem linkClass_lost {cls : ClassDecl} (lost : ¬state.1.symbols.class? cls.qualname = some cls.id) :
    linkClass w module state cls = state :=
  if_neg lost

end

section
variable (w : World) {s : Symbols} {l : Linking}

theorem linkBase_leaves (symbols : l.symbols = s) (module : String) (cls : ClassDecl) (found : List String) (base : String) :
    Leaves l (baseMarks w s module cls base) (linkBase w module cls (l, found) base).1 ∧
      (linkBase w module cls (l, found) base).2 = found ++ baseNames w s module base := by
  subst symbols
  have opened (l : Linking) (reason : String) : Leaves l
      (.opens cls.qualname :: reportMarks w (.unresolvedReference module base reason) module (some cls.line))
      (reportBase w (l.openClass cls.qualname) module cls base reason) :=
    (Leaves.openClass l cls.qualname).trans (.report ..)
  unfold linkBase baseMarks baseNames
  simp only
  cases l.symbols.resolve w.classifier module base with
  | «class» qualname id => exact ⟨.linkBaseEdge .., rfl⟩
  | «external» name origin =>
    cases origin with
    | «unresolved» => exact ⟨(Leaves.addExternal ..).trans (opened ..), by simp⟩
    | _ => exact ⟨((Leaves.addExternal ..).trans (.linkBaseEdge ..)).trans (.openClass ..), by simp⟩
  | unknown =>
    simp only
    split
    · split
      · exact ⟨.refl l, by simp⟩
      · exact ⟨.openClass .., by simp⟩
    · exact ⟨opened .., by simp⟩
  | _ => exact ⟨opened .., by simp⟩

theorem linkClass_leaves (symbols : l.symbols = s) (h : Hierarchy) (entry : String × ClassDecl) :
    Leaves l (classMarks w s entry) (linkClass w entry.1 (l, h) entry.2).1 ∧
      (linkClass w entry.1 (l, h) entry.2).2 = enterBases h (classEntries w s entry) := by
  obtain ⟨module, cls⟩ := entry
  unfold classMarks classEntries
  by_cases held : Held s (module, cls)
  · have run := foldl_done (f := linkBase w module cls) (b := (l, [])) (P := fun done r =>
      Leaves l (done.flatMap (baseMarks w s module cls)) r.1 ∧ r.2 = done.flatMap (baseNames w s module))
      cls.bases ⟨.refl l, rfl⟩ (by
        rintro done base _ ⟨l', found⟩ - ⟨leaves, rfl⟩
        have step := linkBase_leaves w (leaves.symbols.trans symbols) module cls (done.flatMap (baseNames w s module)) base
        simp only [List.flatMap_append, List.flatMap_singleton]
        exact ⟨leaves.trans step.1, step.2⟩)
    rw [linkClass_held (symbols ▸ held), if_pos held, if_pos held, run.2]
    exact ⟨run.1, rfl⟩
  · rw [linkClass_lost (symbols ▸ held), if_neg held, if_neg held]
    exact ⟨.refl l, rfl⟩

/-- What linking all bases leaves, and the hierarchy that it makes. -/
theorem linkBases_leaves (l : Linking) (outlines : List Outline) :
    Leaves (linkImports w l) ((classesOf outlines).flatMap (classMarks w l.symbols)) (linkBases w l outlines).1 ∧
      hierarchy w l outlines = enterBases ∅ ((classesOf outlines).flatMap (classEntries w l.symbols)) := by
  have imports : Moves w .importing (fun _ => False) l (linkImports w l) := linkImports_moves w l
  refine foldl_done (f := fun (state : Linking × Hierarchy) entry => linkClass w entry.1 state entry.2)
    (b := (linkImports w l, ∅)) (P := fun done state => Leaves (linkImports w l) (done.flatMap (classMarks w l.symbols)) state.1 ∧
      state.2 = enterBases ∅ (done.flatMap (classEntries w l.symbols))) (classesOf outlines) ⟨.refl _, rfl⟩ ?_
  rintro done entry _ ⟨l', h⟩ - ⟨leaves, rfl⟩
  have step := linkClass_leaves w (leaves.symbols.trans imports.symbols)
    (enterBases ∅ (done.flatMap (classEntries w l.symbols))) entry
  simp only [List.flatMap_append, List.flatMap_singleton]
  refine ⟨leaves.trans step.1, step.2.trans ?_⟩
  unfold enterBases
  rw [List.foldl_append]

end

/-! ### Calls -/

def callMarks (w : World) (p : Linking) (module : String) (site : CallSite) : List Mark :=
  match decideCall w p module site with
  | .resolved id => linkMarks ⟨site.scope, id, .calls⟩ ++ [.resolved]
  | .unresolved problem => .unresolved :: problem.elim [] fun x => reportMarks w x module (some site.line)

def outlineMarks (w : World) (p : Linking) (o : Outline) : List Mark :=
  o.callSites.flatMap (callMarks w p o.module)

namespace Leaves
variable {l : Linking}

theorem countResolved (l : Linking) : Leaves l [.resolved] l.countResolved where
  symbols := rfl
  links e _ := by simp [Linking.countResolved]
  opened q := by simp [Linking.countResolved]
  records := by simp [Linking.countResolved, Mark.record?]
  resolved := by simp [Linking.countResolved]
  unresolved := by simp [Linking.countResolved]

theorem countUnresolved (l : Linking) : Leaves l [.unresolved] l.countUnresolved where
  symbols := rfl
  links e _ := by simp [Linking.countUnresolved]
  opened q := by simp [Linking.countUnresolved]
  records := by simp [Linking.countUnresolved, Mark.record?]
  resolved := by simp [Linking.countUnresolved]
  unresolved := by simp [Linking.countUnresolved]

theorem reportProblem (w : World) (module : String) (site : CallSite) (l : Linking) (problem : Option Problem) :
    Leaves l (problem.elim [] fun x => reportMarks w x module (some site.line))
      (problem.elim l (reportCall w module site l)) := by
  cases problem with
  | none => exact refl l
  | some x => exact report ..

theorem reportCalls (w : World) (module : String) (site : CallSite) {ps : List Problem}
    (taken : ∀ x ∈ ps, ∃ qualname kept refused, x = .duplicateSymbol qualname kept refused) (l : Linking) :
    Leaves l [] (ps.foldl (reportCall w module site) l) := by
  induction ps generalizing l with
  | nil => exact refl l
  | cons x ps ih =>
    obtain ⟨⟨qualname, kept, refused, rfl⟩, rest⟩ := List.forall_mem_cons.mp taken
    have first : Leaves l [] (reportCall w module site l (.duplicateSymbol qualname kept refused)) := by
      refine silent rfl (fun e _ => ?_) rfl ?_ rfl rfl
      · simp [reportCall, Linking.report]
      · simp [reportCall, Linking.report, recordsOf_report, Diagnostic.located?, Diagnostic.ofProblem?, Problem.kind?]
    exact first.trans (ih rest _)

/-- The nodes of a call are contained in others, and what is wrong with them is that names are taken. -/
theorem keepCall (w : World) (module : String) (l : Linking) (site : CallSite) :
    Leaves l [] (Linking.keepCall w module l site).1 := by
  let nodes := site.fallback :: site.fragment
  let placed := l.graph.placeAll nodes
  have placing : Leaves l [] { l with graph := placed.graph } := by
    refine silent rfl (fun e is => ⟨fun member => ?_, ?_⟩) rfl ?_ rfl rfl
    · -- Placing makes containment edges only, which are no links.
      exact (Placement.foldl_edges nodes { graph := l.graph } member).resolve_right (EdgeKind.ne_containment is)
    · exact (Placement.foldl_leads nodes { graph := l.graph }).grows.edge
    · exact congrArg (fun ds : Array Diagnostic => ds.toList.filter fun d => d.kind == .unresolvedReference)
        (Placement.foldl_diagnostics nodes { graph := l.graph })
  have reporting : Leaves { l with graph := placed.graph } []
      (placed.problems.toList.foldl (reportCall w module site) { l with graph := placed.graph }) := by
    refine reportCalls w module site (fun x member => ?_) _
    refine (Placement.foldl_problem nodes { graph := l.graph } (Array.mem_toList_iff.mp member)).resolve_left ?_
    simp
  rw [Array.foldl_toList] at reporting
  exact placing.trans reporting

end Leaves

section
variable (w : World) {p l : Linking}

theorem linkCall_leaves (symbols : l.symbols = p.symbols) (opened : ∀ q, q ∈ l.openClasses ↔ q ∈ p.openClasses)
    (module : String) (kept : Array Bool) (site : CallSite) :
    Leaves l (callMarks w p module site) (linkCall w module (l, kept) site).1 := by
  have same : decideCall w l module site = decideCall w p module site := decideCall_congr_mem symbols opened
  have counted := Leaves.countUnresolved l
  unfold callMarks
  rw [← same]
  rcases linkCall_cases w module l kept site with
    ⟨id, decided, next⟩ | ⟨problem, decided, ⟨-, next⟩ | ⟨-, next⟩⟩ <;> rw [next, decided]
  · exact (Leaves.link l ⟨site.scope, id, .calls⟩).trans (.countResolved _)
  · exact (counted.trans (.keepCall w module _ site)).trans (.reportProblem w module site _ problem)
  · exact counted.trans (.reportProblem w module site _ problem)

theorem linkCalls_leaves (symbols : l.symbols = p.symbols) (opened : ∀ q, q ∈ l.openClasses ↔ q ∈ p.openClasses)
    (o : Outline) : Leaves l (outlineMarks w p o) (linkCalls w l o) := by
  have run := foldl_done (f := linkCall w o.module) (b := (l, #[])) (P := fun done state =>
    Leaves l (done.flatMap (callMarks w p o.module)) state.1 ∧ state.1.openClasses = l.openClasses)
    o.callSites ⟨.refl l, rfl⟩ (by
      rintro done site _ ⟨l', kept⟩ - ⟨leaves, same⟩
      have step := linkCall_leaves w (leaves.symbols.trans symbols) (same ▸ opened) o.module kept site
      have moves : Moves w .calls (fun _ => True) l' (linkCall w o.module (l', kept) site).1 :=
        linkCall_moves w o.module (l', kept) fun _ _ => trivial
      simp only [List.flatMap_append, List.flatMap_singleton]
      exact ⟨leaves.trans step, (moves.opened nofun).trans same⟩)
  exact run.1

/-- What linking all calls leaves. -/
theorem linkAllCalls_leaves (p : Linking) (outlines : List Outline) :
    Leaves p (outlines.flatMap (outlineMarks w p)) (outlines.foldl (linkCalls w) p) := by
  have run := foldl_done (f := linkCalls w) (P := fun done l =>
    Leaves p (done.flatMap (outlineMarks w p)) l ∧ l.openClasses = p.openClasses) outlines ⟨.refl p, rfl⟩ (by
      rintro done o _ l - ⟨leaves, same⟩
      have step := linkCalls_leaves w leaves.symbols (fun q => by rw [same]) o
      simp only [List.flatMap_append, List.flatMap_singleton]
      exact ⟨leaves.trans step, ((linkCalls_moves w l o).opened nofun).trans same⟩)
  exact run.1

end

end Linking

end ProgramGraph
