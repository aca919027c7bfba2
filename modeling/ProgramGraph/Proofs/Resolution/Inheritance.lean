import ProgramGraph.Proofs.Resolution.Marks
import ProgramGraph.Proofs.Resolution.Openness

/-! What linking the bases of classes leaves behind. A base of the hierarchy is reached by an inheritance edge;
    a class with a base that is no class of the project, nor `object`, is open, and so is every class above
    which it stands in the hierarchy. Where no class is stated twice, the hierarchy holds all that the edges
    say of classes that are not open. All of this is read off the marks that class statements leave. -/

namespace ProgramGraph
open Std Relation

namespace Linking

/-! ### The marks of one base -/

/-- A base, as written in a module, is a class of the project or `object`. -/
def Denotes (w : World) (s : Symbols) (module base : String) : Prop :=
  (∃ qualname id, s.resolve w.classifier module base = .class qualname id) ∨
    (s.resolve w.classifier module base = .unknown ∧ w.classifier.isBuiltin base = true ∧ base = "object")

section
variable {w : World} {s : Symbols} {module base : String} {cls : ClassDecl}

/-- A base that is something else opens its class. -/
theorem opens_mem_baseMarks (strange : ¬Denotes w s module base) :
    .opens cls.qualname ∈ baseMarks w s module cls base := by
  unfold Denotes at strange
  unfold baseMarks
  cases referent : s.resolve w.classifier module base with
  | «class» qualname id => exact absurd (Or.inl ⟨qualname, id, referent⟩) strange
  | «external» name origin => cases origin <;> simp
  | unknown =>
    simp only
    split <;> rename_i builtin
    · split <;> rename_i object
      · exact absurd (Or.inr ⟨referent, builtin, object⟩) strange
      · exact List.mem_singleton_self _
    · exact List.mem_cons_self
  | _ => exact List.mem_cons_self

theorem mem_baseNames {q : String} :
    q ∈ baseNames w s module base ↔ ∃ id, s.resolve w.classifier module base = .class q id := by
  unfold baseNames
  cases s.resolve w.classifier module base <;> simp [eq_comm]

/-- A class that a base names is reached by a link, unless it is the class itself. -/
theorem link_of_mem_baseNames {q : String} (names : q ∈ baseNames w s module base) :
    ∃ id, s.class? q = some id ∧ (cls.id = id ∨ .link ⟨cls.id, id, .inherits⟩ ∈ baseMarks w s module cls base) := by
  obtain ⟨id, referent⟩ := mem_baseNames.mp names
  refine ⟨id, Symbols.resolve_class referent, ?_⟩
  by_cases self : cls.id = id
  · exact Or.inl self
  · exact Or.inr (by simp [baseMarks, referent, linkMarks, mayLink, self])

theorem link_notMem_reportMarks {p : Problem} {line : Option Nat} {e : Edge} :
    .link e ∉ reportMarks w p module line := by
  simp [reportMarks]

/-- The links of a base lead from its class to a class that it names, or the class is open. -/
theorem names_of_link {e : Edge} (linked : .link e ∈ baseMarks w s module cls base) : e.source = cls.id ∧
    ((∃ q ∈ baseNames w s module base, s.class? q = some e.target) ∨
      .opens cls.qualname ∈ baseMarks w s module cls base) := by
  by_cases denotes : Denotes w s module base
  · rcases denotes with ⟨q, id, referent⟩ | ⟨referent, builtin, object⟩
    · have same : e = ⟨cls.id, id, .inherits⟩ := by
        simp only [baseMarks, referent, linkMarks] at linked
        split at linked
        · exact Mark.link.inj (List.mem_singleton.mp linked)
        · cases linked
      subst same
      exact ⟨rfl, Or.inl ⟨q, mem_baseNames.mpr ⟨id, referent⟩, Symbols.resolve_class referent⟩⟩
    · subst object
      simp [baseMarks, referent, builtin] at linked
  · refine ⟨?_, Or.inr (opens_mem_baseMarks denotes)⟩
    unfold baseMarks at linked
    cases referent : s.resolve w.classifier module base with
    | «class» q id => exact absurd (Or.inl ⟨q, id, referent⟩) denotes
    | «external» name origin =>
      cases origin with
      | «unresolved» => simp [referent, link_notMem_reportMarks] at linked
      | _ =>
        simp only [referent, linkMarks, List.mem_append, List.mem_singleton, reduceCtorEq, or_false] at linked
        split at linked
        · rw [Mark.link.inj (List.mem_singleton.mp linked)]
        · cases linked
    | unknown =>
      simp only [referent] at linked
      split at linked
      · split at linked <;> simp at linked
      · simp [link_notMem_reportMarks] at linked
    | _ => simp [referent, link_notMem_reportMarks] at linked

end

/-! ### The marks of all bases -/

/-- No two class statements have one name or one node. -/
def StatedOnce (outlines : List Outline) : Prop :=
  (classesOf outlines).Pairwise fun a b => a.2.qualname ≠ b.2.qualname ∧ a.2.id ≠ b.2.id

instance (outlines : List Outline) : Decidable (StatedOnce outlines) :=
  inferInstanceAs (Decidable ((classesOf outlines).Pairwise fun a b => a.2.qualname ≠ b.2.qualname ∧ a.2.id ≠ b.2.id))

section
variable {w : World} {l : Linking} {outlines : List Outline}

theorem linkInheritance_eq : linkInheritance w (linkImports w l) outlines =
    ({ (linkBases w l outlines).1 with
        openClasses := spreadOpen (linkBases w l outlines).2 (linkBases w l outlines).1.openClasses },
      (linkBases w l outlines).2) := by
  unfold linkInheritance linkBases
  rw [linkClasses_eq]

theorem symbols_linkBases : (linkBases w l outlines).1.symbols = l.symbols := by
  have imports : Moves w .importing (fun _ => False) l (linkImports w l) := linkImports_moves w l
  exact (linkBases_leaves w l outlines).1.symbols.trans imports.symbols

theorem mem_classMarks {entry : String × ClassDecl} (stated : entry ∈ classesOf outlines) (held : Held l.symbols entry)
    {base : String} (written : base ∈ entry.2.bases) {mark : Mark}
    (left : mark ∈ baseMarks w l.symbols entry.1 entry.2 base) :
    mark ∈ (classesOf outlines).flatMap (classMarks w l.symbols) := by
  refine List.mem_flatMap.mpr ⟨entry, stated, ?_⟩
  unfold classMarks
  rw [if_pos held]
  exact List.mem_flatMap.mpr ⟨base, written, left⟩

/-- A class that is stated with a base from elsewhere is open. -/
theorem opens_of_strange {entry : String × ClassDecl} (stated : entry ∈ classesOf outlines) (held : Held l.symbols entry)
    {base : String} (written : base ∈ entry.2.bases) (strange : ¬Denotes w l.symbols entry.1 base) :
    entry.2.qualname ∈ (linkBases w l outlines).1.openClasses :=
  ((linkBases_leaves w l outlines).1.opened _).mpr
    (Or.inr (mem_classMarks stated held written (opens_mem_baseMarks strange)))

/-- A base of the hierarchy is reached by an inheritance edge, unless it is the class itself. -/
theorem link_of_hasBase {q q' : String} (has : (hierarchy w l outlines).HasBase q q') : ∃ id id',
    l.symbols.class? q = some id ∧ l.symbols.class? q' = some id' ∧
      (id = id' ∨ ⟨id, id', .inherits⟩ ∈ (linkBases w l outlines).1.graph.edges) := by
  obtain ⟨leaves, entered⟩ := linkBases_leaves w l outlines
  obtain ⟨bases, found, member⟩ := mem_toList_of_hasBase has
  rw [TreeMap.mem_toList_iff_getElem?_eq_some, entered] at found
  obtain ⟨entry, stated, entered⟩ := List.mem_flatMap.mp ((mem_of_getElem?_enterBases found).resolve_right (by simp))
  obtain ⟨held, same⟩ := mem_classEntries entered
  cases same
  obtain ⟨base, written, names⟩ := List.mem_flatMap.mp member
  obtain ⟨id, there, linked⟩ := link_of_mem_baseNames names
  exact ⟨entry.2.id, id, held, there,
    linked.imp_right fun linked => (leaves.links _ rfl).mpr (Or.inr (mem_classMarks stated held written linked))⟩

/-- The last statement of a class is what the hierarchy has of it. -/
theorem getElem?_hierarchy {before after : List (String × ClassDecl)} {entry : String × ClassDecl}
    (split : classesOf outlines = before ++ entry :: after) (held : Held l.symbols entry)
    (last : ∀ later ∈ after, later.2.qualname = entry.2.qualname → ¬Held l.symbols later) :
    (hierarchy w l outlines)[entry.2.qualname]? =
      some (entry.2.bases.flatMap (baseNames w l.symbols entry.1)) := by
  -- What is entered after it has another name.
  have later : (after.flatMap (classEntries w l.symbols)).filter (fun e => e.1 == entry.2.qualname) = [] := by
    refine List.filter_eq_nil_iff.mpr fun e entered same => ?_
    obtain ⟨stated, here, entered⟩ := List.mem_flatMap.mp entered
    obtain ⟨held', rfl⟩ := mem_classEntries entered
    exact last stated here (beq_iff_eq.mp same) held'
  have own : classEntries w l.symbols entry = [(entry.2.qualname, _)] := if_pos held
  rw [(linkBases_leaves w l outlines).2, getElem?_enterBases, split, List.flatMap_append, List.flatMap_cons, own]
  simp [List.filter_append, later]

/-- Where classes are stated once, all that the edges say is in the hierarchy, open classes apart. -/
theorem traced (once : StatedOnce outlines) (bare : ∀ e ∈ l.graph.edges, e.kind ≠ .inherits) {e : Edge}
    (member : e ∈ (linkBases w l outlines).1.graph.edges) (kind : e.kind = .inherits) :
    ∃ entry ∈ classesOf outlines, Held l.symbols entry ∧ entry.2.id = e.source ∧
      ((∃ q, (hierarchy w l outlines).HasBase entry.2.qualname q ∧ l.symbols.class? q = some e.target) ∨
        entry.2.qualname ∈ (linkBases w l outlines).1.openClasses) := by
  obtain ⟨leaves, -⟩ := linkBases_leaves w l outlines
  have imports : Moves w .importing (fun _ => False) l (linkImports w l) := linkImports_moves w l
  -- Neither entering files nor imports make such an edge, so a base has left it.
  have linked := ((leaves.links e (by rw [kind]; rfl)).mp member).resolve_left fun before => by
    rcases imports.edge_cases before with member | other | other
    · exact bare e member kind
    · simp [kind] at other
    · simp [kind] at other
  obtain ⟨entry, stated, linked⟩ := List.mem_flatMap.mp linked
  unfold classMarks at linked
  split at linked
  · rename_i held
    obtain ⟨base, written, linked⟩ := List.mem_flatMap.mp linked
    obtain ⟨source, why⟩ := names_of_link linked
    refine ⟨entry, stated, held, source.symm, why.imp ?_ fun opens => ?_⟩
    · rintro ⟨q, names, target⟩
      obtain ⟨before, after, split⟩ := List.append_of_mem stated
      have found := getElem?_hierarchy (w := w) split held fun later after same => by
        unfold StatedOnce at once
        rw [split, List.pairwise_append] at once
        exact absurd same.symm ((List.pairwise_cons.mp once.2.1).1 later after).1
      exact ⟨q, hasBase_of_getElem? found (List.mem_flatMap.mpr ⟨base, written, names⟩), target⟩
    · exact (leaves.opened _).mpr (Or.inr (mem_classMarks stated held written opens))
  · cases linked

end

end Linking

/-! ### The state before calls -/

/-- `a` inherits from `b`. -/
def Graph.Inherits (g : Graph) (a b : NodeId) : Prop :=
  ⟨a, b, .inherits⟩ ∈ g.edges

namespace Linking

section
variable {w : World} {l : Linking} {outlines : List Outline}

theorem prepare_eq : prepare w l outlines =
    { (linkBases w l outlines).1 with
      openClasses := spreadOpen (hierarchy w l outlines) (linkBases w l outlines).1.openClasses
      symbols := (hierarchy w l outlines).mergeInherited l.symbols } := by
  have symbols : (linkBases w l outlines).1.symbols = l.symbols := symbols_linkBases
  unfold prepare hierarchy
  rw [linkInheritance_eq, ← symbols]

/-- Calls change no names. -/
theorem symbols_run : (run w l outlines).symbols = (hierarchy w l outlines).mergeInherited l.symbols := by
  rw [run_eq, (linkAllCalls_moves w (prepare w l outlines) outlines).symbols, prepare_eq]

theorem class?_prepare (qualname : String) :
    (prepare w l outlines).symbols.class? qualname = l.symbols.class? qualname := by
  rw [prepare_eq]
  exact Hierarchy.class?_mergeInherited ..

/-- Before calls are decided, a class has the methods that classes reached from it declare. -/
theorem function?_prepare {cls name : String} {id : NodeId}
    (found : (prepare w l outlines).symbols.function? cls name = some id) :
    ∃ q, ReflTransGen (hierarchy w l outlines).HasBase cls q ∧ l.symbols.function? q name = some id := by
  rw [prepare_eq] at found
  exact Hierarchy.mergeInherited_from found

/-- What is reached in the hierarchy is reached by inheritance edges. -/
theorem inherits_of_hasBase {q q' : String} (way : ReflTransGen (hierarchy w l outlines).HasBase q q') {id : NodeId}
    (here : l.symbols.class? q = some id) :
    ∃ id', l.symbols.class? q' = some id' ∧ ReflTransGen (prepare w l outlines).graph.Inherits id id' := by
  induction way with
  | refl => exact ⟨id, here, .refl⟩
  | tail _ has ih =>
    obtain ⟨id', there, way⟩ := ih
    obtain ⟨source, target, lower, upper, linked⟩ := link_of_hasBase has
    rw [there] at lower
    cases lower
    refine ⟨target, upper, ?_⟩
    rcases linked with rfl | linked
    · exact way
    · refine way.tail ?_
      rw [prepare_eq]
      exact linked

/-- A class that reaches a class with a base from elsewhere is open. -/
theorem mem_openClasses_prepare {entry : String × ClassDecl} (stated : entry ∈ classesOf outlines)
    (held : l.symbols.class? entry.2.qualname = some entry.2.id) {base : String} (written : base ∈ entry.2.bases)
    (strange : ¬Denotes w l.symbols entry.1 base) {q : String}
    (way : ReflTransGen (hierarchy w l outlines).HasBase q entry.2.qualname) :
    q ∈ (prepare w l outlines).openClasses := by
  rw [prepare_eq]
  exact mem_spreadOpen way (opens_of_strange stated held written strange)

/-- Where classes are stated once, what is reached from a closed class by inheritance edges is reached in the
    hierarchy. -/
theorem hasBase_of_inherits (once : StatedOnce outlines) (bare : ∀ e ∈ l.graph.edges, e.kind ≠ .inherits)
    (injective : ∀ {q q' id}, l.symbols.class? q = some id → l.symbols.class? q' = some id → q = q') {q : String}
    {id id' : NodeId} (here : l.symbols.class? q = some id) (closed : q ∉ (prepare w l outlines).openClasses)
    (way : ReflTransGen (prepare w l outlines).graph.Inherits id id') :
    ∃ q', l.symbols.class? q' = some id' ∧ ReflTransGen (hierarchy w l outlines).HasBase q q' := by
  rw [prepare_eq] at closed way
  induction way with
  | refl => exact ⟨q, here, .refl⟩
  | tail _ step ih =>
    obtain ⟨q', there, above⟩ := ih
    obtain ⟨entry, -, held, same, why⟩ := traced once bare step rfl
    unfold Held at held
    rw [same] at held
    cases injective there held
    rcases why with ⟨q'', has, target⟩ | open_
    · exact ⟨q'', target, above.tail has⟩
    · exact absurd (mem_spreadOpen above open_) closed

/-- Calls change nothing about inheritance. -/
theorem inherits_run_iff {a b : NodeId} :
    (run w l outlines).graph.Inherits a b ↔ (prepare w l outlines).graph.Inherits a b := by
  have moves := linkAllCalls_moves w (prepare w l outlines) outlines
  rw [← run_eq] at moves
  refine ⟨fun linked => ?_, moves.grows.edge⟩
  rcases moves.edge_cases linked with linked | other | other
  · exact linked
  · cases other
  · cases other

end

end Linking

end ProgramGraph
