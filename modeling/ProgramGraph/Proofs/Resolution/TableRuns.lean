import ProgramGraph.Proofs.Resolution.Methods

/-! Making a table without a depth. The table of a class asks for those of its bases, and the bases may lead back to
    the class; what ends this is the memo, which only grows, and the set of classes that are being visited, to which
    each level adds one. The runs are told here as a relation in which nothing bounds the levels (`Hierarchy.Makes`).
    From every state there is one run for a class, and a depth of more than the number of classes of the hierarchy is
    never used up, so `methodTable` gives what the run gives (`methodTable_returns`). What is known of tables is shown
    by induction on runs and carried over to the tables of a hierarchy (`methodTables_of_runs`). -/

namespace ProgramGraph
open Std

namespace Hierarchy

/-! ### What stays -/

/-- What making a table keeps: the tables made before, and the classes whose tables are being made. -/
structure Keeps (before after : TableState) : Prop where
  made : ∀ {cls : String} {table : MethodTable}, before.made[cls]? = some table → after.made[cls]? = some table
  visiting : ∀ cls, cls ∈ after.visiting ↔ cls ∈ before.visiting

theorem Keeps.refl (state : TableState) : Keeps state state := ⟨id, fun _ => Iff.rfl⟩

theorem Keeps.trans {a b c : TableState} (first : Keeps a b) (second : Keeps b c) : Keeps a c :=
  ⟨second.made ∘ first.made, fun cls => (second.visiting cls).trans (first.visiting cls)⟩

/-- A class whose table has been made is no longer being visited. -/
theorem Keeps.finish {state after : TableState} {cls : String} (new : state.made[cls]? = none)
    (fresh : cls ∉ state.visiting) (kept : Keeps { state with visiting := state.visiting.insert cls } after)
    (table : MethodTable) : Keeps state { made := after.made.insert cls table, visiting := after.visiting.erase cls } where
  made {c t} found := by
    have other : cls ≠ c := by
      rintro rfl
      rw [new] at found
      cases found
    rw [TreeMap.getElem?_insert, if_neg fun same => other (Std.compare_eq_iff_eq.mp same)]
    exact kept.made found
  visiting c := by
    have visited := kept.visiting c
    rw [TreeSet.mem_insert, Std.compare_eq_iff_eq] at visited
    rw [TreeSet.mem_erase, ne_eq, Std.compare_eq_iff_eq, visited]
    constructor
    · rintro ⟨other, same | here⟩
      · exact absurd same other
      · exact here
    · intro here
      exact ⟨fun same => fresh (same ▸ here), Or.inr here⟩

/-- The bases of a class are visited one level further down, where at least one class less waits. -/
theorem Keeps.length_pending_lt {h : Hierarchy} {state state' : TableState} {cls base : String} {depth : Nat}
    (kept : Keeps { state with visiting := state.visiting.insert cls } state') (has : h.HasBase cls base)
    (fresh : cls ∉ state.visiting) (enough : (h.pending state.visiting).length < depth + 1) :
    (h.pending state'.visiting).length < depth := by
  have fewer := length_pending_insert (mem_of_hasBase has) fresh
  rw [pending_congr h kept.visiting]
  exact Nat.lt_of_lt_of_le fewer (Nat.le_of_lt_succ enough)

/-! ### Runs -/

mutual

/-- How the table of a class is made: from which state, which table, and the state after it. -/
inductive Makes (s : Symbols) (h : Hierarchy) : String → TableState → MethodTable × TableState → Prop
  /-- A table that was made before is read back. -/
  | stored {cls : String} {state : TableState} {table : MethodTable} (found : state.made[cls]? = some table) :
      Makes s h cls state (table, state)
  /-- A class that is being visited gives its own methods only. -/
  | again {cls : String} {state : TableState} (new : state.made[cls]? = none) (visited : cls ∈ state.visiting) :
      Makes s h cls state (.own s cls, state)
  /-- Otherwise the class is visited while the tables of its bases come into its own, which is then stored. -/
  | fresh {cls : String} {state after : TableState} {table : MethodTable} (new : state.made[cls]? = none)
      (unvisited : cls ∉ state.visiting)
      (bases : Gathers s h (h.bases cls) (.own s cls, { state with visiting := state.visiting.insert cls })
        (table, after)) :
      Makes s h cls state (table, { made := after.made.insert cls table, visiting := after.visiting.erase cls })

/-- How the tables of some bases come into a table, one after the other. -/
inductive Gathers (s : Symbols) (h : Hierarchy) :
    List String → MethodTable × TableState → MethodTable × TableState → Prop
  | done {r : MethodTable × TableState} : Gathers s h [] r r
  | next {base : String} {bases : List String} {r mid last : MethodTable × TableState} (first : Makes s h base r.2 mid)
      (others : Gathers s h bases (r.1.absorb mid.1, mid.2) last) : Gathers s h (base :: bases) r last

end

section
variable {s : Symbols} {h : Hierarchy}

-- The state tells which of the three ways a run goes, so two runs go the same way and have the same parts.
mutual

theorem Makes.unique {cls : String} {state : TableState} {r r' : MethodTable × TableState} :
    Makes s h cls state r → Makes s h cls state r' → r' = r
  | .stored found, run => by
    cases run with
    | stored found' => rw [Option.some.inj (found'.symm.trans found)]
    | again new => cases found.symm.trans new
    | fresh new => cases found.symm.trans new
  | .again new visited, run => by
    cases run with
    | stored found => cases found.symm.trans new
    | again => rfl
    | fresh _ unvisited => exact absurd visited unvisited
  | .fresh new unvisited bases, run => by
    cases run with
    | stored found => cases found.symm.trans new
    | again _ visited => exact absurd visited unvisited
    | fresh _ _ bases' =>
      cases bases.unique bases'
      rfl

theorem Gathers.unique {bases : List String} {start r r' : MethodTable × TableState} :
    Gathers s h bases start r → Gathers s h bases start r' → r' = r
  | .done, .done => rfl
  | .next first others, .next first' others' => by
    cases first.unique first'
    exact others.unique others'

end

mutual

/-- A run keeps the tables made before and the classes that are being visited; and it keeps the table of its class,
    unless the class was being visited already. -/
theorem Makes.keeps {cls : String} {state : TableState} {r : MethodTable × TableState} :
    Makes s h cls state r → Keeps state r.2 ∧ (cls ∉ state.visiting → r.2.made[cls]? = some r.1)
  | .stored found => ⟨.refl _, fun _ => found⟩
  | .again _ visited => ⟨.refl _, fun unvisited => absurd visited unvisited⟩
  | .fresh new unvisited bases => ⟨bases.keeps.finish new unvisited _, fun _ => TreeMap.getElem?_insert_self⟩

theorem Gathers.keeps {bases : List String} {start r : MethodTable × TableState} :
    Gathers s h bases start r → Keeps start.2 r.2
  | .done => .refl _
  | .next first others => first.keeps.1.trans others.keeps

end

/-! ### Enough depth -/

/-- The table of a class and the state after some of its bases, whose tables `make` gives. -/
def gather (make : String → TableState → MethodTable × TableState) (bases : List String)
    (start : MethodTable × TableState) : MethodTable × TableState :=
  bases.foldl (fun r base => (r.1.absorb (make base r.2).1, (make base r.2).2)) start

theorem methodTable_succ (s : Symbols) (h : Hierarchy) (depth : Nat) (cls : String) (state : TableState) :
    methodTable s h (depth + 1) cls state =
      match state.made[cls]? with
      | some table => (table, state)
      | none =>
        if state.visiting.contains cls then (.own s cls, state)
        else
          let r := gather (methodTable s h depth) (h.bases cls)
            (.own s cls, { state with visiting := state.visiting.insert cls })
          (r.1, { made := r.2.made.insert cls r.1, visiting := r.2.visiting.erase cls }) := rfl

theorem gathers_gather {make : String → TableState → MethodTable × TableState} (bases : List String)
    (start : MethodTable × TableState)
    (each : ∀ base ∈ bases, ∀ state, Keeps start.2 state → Makes s h base state (make base state)) :
    Gathers s h bases start (gather make bases start) := by
  induction bases generalizing start with
  | nil => exact .done
  | cons base bases ih =>
    have run := each base List.mem_cons_self start.2 (.refl _)
    exact .next run (ih _ fun b member state later =>
      each b (List.mem_cons_of_mem _ member) state (run.keeps.1.trans later))

/-- Where fewer classes wait than the depth allows, the depth is not used up: a run gives the same. -/
theorem makes_methodTable : ∀ (depth : Nat) (cls : String) (state : TableState),
    (h.pending state.visiting).length < depth → Makes s h cls state (methodTable s h depth cls state)
  | 0, _, _, enough => absurd enough (Nat.not_lt_zero _)
  | depth + 1, cls, state, enough => by
    rw [methodTable_succ]
    split
    · rename_i table found
      exact .stored found
    · rename_i new
      split
      · rename_i visited
        exact .again new visited
      · rename_i unvisited
        refine .fresh new unvisited (gathers_gather _ _ fun base has state' kept => ?_)
        -- The bases before this one left the visited classes as they were, so one class less waits here than above.
        exact makes_methodTable depth base state' (kept.length_pending_lt has unvisited enough)

/-- The size of the hierarchy and one more is depth enough. -/
theorem makes_methodTable_size (cls : String) (state : TableState) :
    Makes s h cls state (methodTable s h (h.size + 1) cls state) :=
  makes_methodTable (h.size + 1) cls state (Nat.lt_succ_of_le (length_pending_le_size h state.visiting))

/-! ### The tables of all classes -/

/-- What holds of no tables, and of the tables after a run if it holds of those before, holds of the tables of a
    hierarchy. -/
theorem methodTables_of_runs {P : TreeMap String MethodTable → Prop} (empty : P ∅)
    (run : ∀ {cls made r}, Makes s h cls { made } r → P made → P r.2.made) : P (methodTables s h) := by
  unfold methodTables
  exact List.foldlRecOn h.keys _ (motive := P) empty fun made before cls _ => run (makes_methodTable_size cls { made }) before

/-- Tables that are made stay while more are made. -/
theorem makeTables_keeps (classes : List String) (made : TreeMap String MethodTable) {cls : String} {table : MethodTable}
    (found : made[cls]? = some table) :
    (classes.foldl (fun made cls => (methodTable s h (h.size + 1) cls { made }).2.made) made)[cls]? = some table := by
  refine List.foldlRecOn classes _ (motive := fun made : TreeMap String MethodTable => made[cls]? = some table) found ?_
  intro made found c _
  exact (makes_methodTable_size c { made }).keeps.1.made found

/-- Every class of a hierarchy gets a table. -/
theorem exists_table {cls : String} (member : cls ∈ h) : ∃ table, (methodTables s h)[cls]? = some table := by
  obtain ⟨before, after, split⟩ := List.append_of_mem (TreeMap.mem_keys.mpr member)
  unfold methodTables
  rw [split, List.foldl_append, List.foldl_cons]
  exact ⟨_, makeTables_keeps after _ ((makes_methodTable_size cls _).keeps.2 TreeSet.not_mem_emptyc)⟩

end

/-- From every state there is exactly one run for a class, and `methodTable` gives its outcome. It leaves the classes
    that are being visited and the tables made before as they were, and keeps the table unless the class was being
    visited already. -/
theorem methodTable_returns (s : Symbols) (h : Hierarchy) (cls : String) (state : TableState) :
    ∃ (table : MethodTable) (after : TableState),
      (∀ r, Makes s h cls state r ↔ r = (table, after)) ∧
      (∀ depth, h.size < depth → methodTable s h depth cls state = (table, after)) ∧
      after.visiting.toList = state.visiting.toList ∧
      (∀ (c : String) (t : MethodTable), state.made[c]? = some t → after.made[c]? = some t) ∧
      (cls ∉ state.visiting → after.made[cls]? = some table) := by
  have few := Nat.lt_succ_of_le (length_pending_le_size h state.visiting)
  have run := makes_methodTable (s := s) (h.size + 1) cls state few
  obtain ⟨kept, new⟩ := run.keeps
  have same : (methodTable s h (h.size + 1) cls state).2.visiting.Equiv state.visiting :=
    TreeSet.Equiv.of_forall_mem_iff kept.visiting
  refine ⟨_, _, fun r => ⟨run.unique, fun same => same ▸ run⟩, fun depth deep => ?_, same.toList_eq,
    fun c t => kept.made, new⟩
  exact run.unique (makes_methodTable depth cls state (Nat.lt_of_lt_of_le few deep))

end Hierarchy

end ProgramGraph
