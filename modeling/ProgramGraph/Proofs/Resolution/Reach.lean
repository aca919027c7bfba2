import ProgramGraph.Proofs.Resolution.Coverage

/-! Methods of all classes that a class reaches. The merge says that a class knows what every class it reaches
    declares, but where bases form a cycle that fails: the table of a class that is made while another one is being
    visited misses what only the other one leads to, and it is kept as it is. What is certain is told here. A class
    knows the methods of those that it reaches without going round (`Hierarchy.Climbs`), and of their bases; and the
    class whose table is made first knows all that it reaches (`mergeInherited_knows`). -/

namespace ProgramGraph
open Std Relation

namespace MethodTable

/-- A table has every name that a class declares. -/
def HasOwn (s : Symbols) (cls : String) (table : MethodTable) : Prop :=
  ∀ name : String, (s.function? cls name).isSome = true → table[name]?.isSome = true

theorem hasOwn_own (s : Symbols) (cls : String) : HasOwn s cls (.own s cls) := by
  intro name declared
  rw [getElem?_own, Option.isSome_map]
  exact declared

theorem HasOwn.within {s : Symbols} {cls : String} {table other : MethodTable} (has : HasOwn s cls table)
    (within : table.Within other) : HasOwn s cls other :=
  fun name declared => within name (has name declared)

end MethodTable

namespace Hierarchy
open MethodSlot MethodTable

/-- A class has a table, or its table is being made. -/
def Begun (state : TableState) (cls : String) : Prop :=
  (∃ table, state.made[cls]? = some table) ∨ cls ∈ state.visiting

theorem Keeps.begun {before after : TableState} (kept : Keeps before after) {cls : String} (begun : Begun before cls) :
    Begun after cls :=
  begun.imp (fun ⟨table, found⟩ => ⟨table, kept.made found⟩) (kept.visiting cls).mpr

/-- What is known of the tables made so far: they have the names that the class and its bases declare, and the tables
    of the bases are begun. -/
def Rooted (s : Symbols) (h : Hierarchy) (state : TableState) : Prop :=
  ∀ (cls : String) (table : MethodTable), state.made[cls]? = some table →
    HasOwn s cls table ∧ ∀ base, h.HasBase cls base → HasOwn s base table ∧ Begun state base

/-- A table has the names that its class declares, and those of all classes that got a table since `before`. -/
def TellsNew (s : Symbols) (before : TableState) (cls : String) (r : MethodTable × TableState) : Prop :=
  HasOwn s cls r.1 ∧ ∀ (q : String) (table : MethodTable), before.made[q]? = none → r.2.made[q]? = some table →
    HasOwn s q r.1

section
variable {s : Symbols} {h : Hierarchy}

theorem TellsNew.unchanged {state : TableState} {cls : String} {table : MethodTable} (own : HasOwn s cls table) :
    TellsNew s state cls (table, state) := by
  refine ⟨own, fun q table' missing found => ?_⟩
  cases found.symm.trans missing

theorem Makes.begun {cls : String} {state : TableState} {r : MethodTable × TableState} (run : Makes s h cls state r) :
    Begun r.2 cls := by
  by_cases visited : cls ∈ state.visiting
  · exact Or.inr ((run.keeps.1.visiting cls).mpr visited)
  · exact Or.inl ⟨_, run.keeps.2 visited⟩

theorem Begun.finish {state : TableState} {cls other : String} (begun : Begun state other) (table : MethodTable) :
    Begun { made := state.made.insert cls table, visiting := state.visiting.erase cls } other := by
  by_cases same : cls = other
  · subst same
    exact Or.inl ⟨table, TreeMap.getElem?_insert_self⟩
  · have apart : ¬compare cls other = .eq := fun equal => same (Std.compare_eq_iff_eq.mp equal)
    rcases begun with ⟨table', found⟩ | visited
    · refine Or.inl ⟨table', ?_⟩
      rw [TreeMap.getElem?_insert, if_neg apart]
      exact found
    · exact Or.inr (TreeSet.mem_erase.mpr ⟨apart, visited⟩)

/-- A table that has what its class and the bases declare can be kept. -/
theorem Rooted.finish {state : TableState} (rooted : Rooted s h state) {cls : String} {table : MethodTable}
    (own : HasOwn s cls table) (bases : ∀ base ∈ h.bases cls, HasOwn s base table ∧ Begun state base) :
    Rooted s h { made := state.made.insert cls table, visiting := state.visiting.erase cls } := by
  refine forall_getElem?_insert (Q := fun c t => HasOwn s c t ∧ ∀ base, h.HasBase c base →
    HasOwn s base t ∧ Begun { made := state.made.insert cls table, visiting := state.visiting.erase cls } base)
    (fun c t found => ?_) cls ?_
  · obtain ⟨here, below⟩ := rooted c t found
    exact ⟨here, fun base has => ⟨(below base has).1, (below base has).2.finish table⟩⟩
  · exact ⟨own, fun base has => ⟨(bases base has).1, (bases base has).2.finish table⟩⟩

mutual

/-- Making a table keeps the tables rooted, and the table tells of all classes that got one meanwhile. -/
theorem Makes.tells {cls : String} {state : TableState} {r : MethodTable × TableState} :
    Makes s h cls state r → Rooted s h state → Rooted s h r.2 ∧ TellsNew s state cls r
  | .stored found, rooted => ⟨rooted, .unchanged (rooted _ _ found).1⟩
  | .again _ _, rooted => ⟨rooted, .unchanged (hasOwn_own s _)⟩
  | .fresh _ _ bases, rooted => by
    -- The class counts as begun while its bases are visited.
    have start : Rooted s h { state with visiting := state.visiting.insert cls } := by
      intro c table found
      obtain ⟨here, below⟩ := rooted c table found
      refine ⟨here, fun base has => ⟨(below base has).1, (below base has).2.imp_right fun visited => ?_⟩⟩
      exact TreeSet.mem_insert.mpr (Or.inr visited)
    obtain ⟨after, ⟨declared, told⟩, below⟩ := bases.tells start (.unchanged (hasOwn_own s cls))
    refine ⟨after.finish declared below, declared, fun q table missing found => ?_⟩
    rw [TreeMap.getElem?_insert] at found
    split at found
    · rename_i same
      exact Std.compare_eq_iff_eq.mp same ▸ declared
    · exact told q table missing found

/-- Bases that come into a table bring what they declare, and what all classes declare that got a table meanwhile. -/
theorem Gathers.tells {before : TableState} {cls : String} {bases : List String} {start r : MethodTable × TableState} :
    Gathers s h bases start r → Rooted s h start.2 → TellsNew s before cls start →
      Rooted s h r.2 ∧ TellsNew s before cls r ∧ ∀ base ∈ bases, HasOwn s base r.1 ∧ Begun r.2 base
  | .done, rooted, tells => ⟨rooted, tells, List.forall_mem_nil _⟩
  | @Gathers.next _ _ _ _ _ mid _ first others, rooted, tells => by
    obtain ⟨rooted, declared, new⟩ := first.tells rooted
    have left : start.1.Within (start.1.absorb mid.1) := within_absorb_left _ _
    have right : mid.1.Within (start.1.absorb mid.1) := within_absorb_right _ _
    -- A class with a new table got it from the first base or from the ones before; either way it is told here.
    have next : TellsNew s before cls (start.1.absorb mid.1, mid.2) := by
      refine ⟨tells.1.within left, fun q table missing found => ?_⟩
      cases earlier : start.2.made[q]? with
      | none => exact (new q table earlier found).within right
      | some table' => exact (tells.2 q table' missing earlier).within left
    obtain ⟨rooted, tells, below⟩ := others.tells rooted next
    refine ⟨rooted, tells, fun b member => ?_⟩
    rcases List.mem_cons.mp member with rfl | member
    · exact ⟨declared.within (right.trans others.within), others.keeps.begun first.begun⟩
    · exact below b member

end

/-! ### The tables of all classes -/

theorem methodTables_rooted : Rooted s h { made := methodTables s h } := by
  refine methodTables_of_runs (P := fun made => Rooted s h { made }) (fun cls table found => by simp at found) ?_
  intro cls made r run rooted c table found
  obtain ⟨own, below⟩ := (run.tells rooted).1 c table found
  exact ⟨own, fun base has => ⟨(below base has).1, (below base has).2.imp_right (run.keeps.1.visiting base).mp⟩⟩

/-- A table that is made before all others tells of every class that its class reaches: what it leads to got its
    table meanwhile. -/
theorem methodTable_first {cls d : String} (way : ReflTransGen h.HasBase cls d) :
    HasOwn s d (methodTable s h (h.size + 1) cls {}).1 := by
  have run : Makes s h cls {} _ := makes_methodTable_size cls {}
  obtain ⟨rooted, -, new⟩ := run.tells fun c table found => by simp at found
  obtain ⟨kept, there⟩ := run.keeps
  -- At the end no class is visited, so every class on the way has been finished, one after the other.
  have made : ∃ table, (methodTable s h (h.size + 1) cls {}).2.made[d]? = some table := by
    induction way with
    | refl => exact ⟨_, there TreeSet.not_mem_emptyc⟩
    | tail _ has ih =>
      obtain ⟨table, found⟩ := ih
      refine ((rooted _ table found).2 _ has).2.resolve_right fun visited => ?_
      exact TreeSet.not_mem_emptyc ((kept.visiting _).mp visited)
  obtain ⟨table, found⟩ := made
  exact new d table (by simp) found

theorem methodTables_first {cls : String} (first : h.keys.head? = some cls) :
    (methodTables s h)[cls]? = some (methodTable s h (h.size + 1) cls {}).1 := by
  obtain ⟨rest, keys⟩ := List.head?_eq_some_iff.mp first
  unfold methodTables
  rw [keys, List.foldl_cons]
  exact makeTables_keeps rest _ ((makes_methodTable_size cls {}).keeps.2 TreeSet.not_mem_emptyc)

/-- A step to a base that does not lead back. -/
def Climbs (h : Hierarchy) (cls base : String) : Prop :=
  h.HasBase cls base ∧ ¬ReflTransGen h.HasBase base cls

/-- The table of a class tells of the classes that it climbs to and of their bases. -/
theorem hasOwn_of_climbs (covered : Covered s h (fun cls base => ¬ReflTransGen h.HasBase base cls) (methodTables s h))
    {cls top d : String} (way : ReflTransGen h.Climbs cls top) (last : d = top ∨ h.HasBase top d) {table : MethodTable}
    (found : (methodTables s h)[cls]? = some table) : HasOwn s d table := by
  induction way using ReflTransGen.head_induction_on generalizing table with
  | refl =>
    obtain ⟨own, below⟩ := methodTables_rooted top table found
    rcases last with rfl | has
    · exact own
    · exact (below d has).1
  | head step _ ih =>
    obtain ⟨below, there, within⟩ := (covered _ table found).2 _ step.1 step.2
    exact (ih there).within within

/-! ### The merge -/

/-- After the merge a class knows the methods of every class that it climbs to and of the bases of such a class, and
    the first class of the hierarchy knows the methods of all classes that it reaches. -/
theorem mergeInherited_knows (s : Symbols) (h : Hierarchy) {cls d name : String} (member : cls ∈ h)
    (declared : (s.function? d name).isSome = true)
    (way : (∃ top, ReflTransGen h.Climbs cls top ∧ (d = top ∨ h.HasBase top d)) ∨
      (h.keys.head? = some cls ∧ ReflTransGen h.HasBase cls d)) :
    (h.mergeInherited s).Knows cls name := by
  have covers : Covered s h (fun cls base => ¬ReflTransGen h.HasBase base cls) (methodTables s h) ∧
      ∀ cls ∈ h, ∃ table, (methodTables s h)[cls]? = some table := methodTables_covers fun _ apart => apart
  obtain ⟨covered, each⟩ := covers
  obtain ⟨table, found⟩ := each cls member
  have has : HasOwn s d table := by
    rcases way with ⟨top, way, last⟩ | ⟨first, way⟩
    · exact hasOwn_of_climbs covered way last found
    · cases found.symm.trans (methodTables_first first)
      exact methodTable_first way
  exact knows_of_table found (covered cls table found).1 (has name declared)

end

/-- The theorem for classes on a cycle and one above it: the first one knows what the last one declares, and the one
    above climbs to the cycle, where it knows a base. -/
theorem mergeInherited_knows_cycle :
    let h : Hierarchy := .ofList [("A", ["B"]), ("B", ["C"]), ("C", ["A"]), ("D", ["C"])]
    let s := ((({} : Symbols).setFunction "A" "a" "m.A.a").setFunction "B" "b" "m.B.b").setFunction "C" "c" "m.C.c"
    (h.keys.head? = some "A" ∧ ReflTransGen h.HasBase "A" "C" ∧ (h.mergeInherited s).Knows "A" "c") ∧
      ReflTransGen h.Climbs "D" "C" ∧ h.HasBase "C" "A" ∧ (h.mergeInherited s).Knows "D" "a" := by
  intro h s
  have here (cls base : String) (listed : (h.bases cls).elem base = true) : h.HasBase cls base :=
    List.mem_of_elem_eq_true listed
  have first : h.keys.head? = some "A" := by decide +kernel
  have round : ReflTransGen h.HasBase "A" "C" :=
    .head (here "A" "B" (by decide +kernel)) (.single (here "B" "C" (by decide +kernel)))
  have noBase : ∀ cls ∈ h.keys, "D" ∉ h.bases cls := by decide +kernel
  have climbs : h.Climbs "D" "C" := by
    refine ⟨here "D" "C" (by decide +kernel), fun back => ?_⟩
    obtain same | ⟨cls, -, last⟩ := (ReflTransGen.cases_tail_iff ..).mp back
    · exact absurd same (by decide)
    · exact noBase cls (TreeMap.mem_keys.mpr (mem_of_hasBase last)) last
  have base : h.HasBase "C" "A" := here "C" "A" (by decide +kernel)
  refine ⟨⟨first, round, ?_⟩, .single climbs, base, ?_⟩
  · exact mergeInherited_knows s h (d := "C") (by decide +kernel) (by decide +kernel) (Or.inr ⟨first, round⟩)
  · exact mergeInherited_knows s h (d := "A") (by decide +kernel) (by decide +kernel)
      (Or.inl ⟨"C", .single climbs, Or.inr base⟩)

/-- On a cycle of three classes the last one does not know the methods of the second, which it reaches: its table is
    made while the other two are being visited. Nor does a class above it. -/
theorem cycle_cuts_methods :
    let h : Hierarchy := .ofList [("A", ["B"]), ("B", ["C"]), ("C", ["A"]), ("D", ["C"])]
    let s := ((({} : Symbols).setFunction "A" "a" "m.A.a").setFunction "B" "b" "m.B.b").setFunction "C" "c" "m.C.c"
    ("C" ∈ h ∧ ReflTransGen h.HasBase "C" "B" ∧ "D" ∈ h ∧ ReflTransGen h.HasBase "D" "B") ∧
      s.function? "B" "b" = some "m.B.b" ∧ ¬(h.mergeInherited s).Knows "C" "b" ∧ ¬(h.mergeInherited s).Knows "D" "b" := by
  intro h s
  have here (cls base : String) (listed : (h.bases cls).elem base = true) : h.HasBase cls base :=
    List.mem_of_elem_eq_true listed
  have way : ReflTransGen h.HasBase "C" "B" :=
    .head (here "C" "A" (by decide +kernel)) (.single (here "A" "B" (by decide +kernel)))
  refine ⟨⟨by decide +kernel, way, by decide +kernel, .head (here "D" "C" (by decide +kernel)) way⟩, ?_⟩
  decide +kernel

end Hierarchy

end ProgramGraph
