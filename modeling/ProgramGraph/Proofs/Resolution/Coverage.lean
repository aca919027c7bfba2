import ProgramGraph.Proofs.Resolution.Inheritance

/-! Classes know what their bases know. A table is made from those of the bases, which are made before it unless they
    are just being made; where that happens to no base that counts, the table of a class has every name that the
    tables of these bases have (`Hierarchy.Covered`). After the merge such a class knows every method that a base
    knows (`knows_mergeInherited`). Unlike `Hierarchy.mergeInherited_offers` this does not ask that the hierarchy is
    free of cycles, since a class may be listed as its own base. -/

namespace ProgramGraph
open Std Relation

/-- A class has a function of this name, or the name is ambiguous there. -/
def Symbols.Knows (s : Symbols) (cls name : String) : Prop :=
  (s.function? cls name).isSome = true ∨ s.isAmbiguous cls name = true

instance (s : Symbols) (cls name : String) : Decidable (s.Knows cls name) :=
  inferInstanceAs (Decidable ((s.function? cls name).isSome = true ∨ s.isAmbiguous cls name = true))

namespace MethodTable
open MethodSlot

/-- Every name of a table is a name of the other one. -/
def Within (table other : MethodTable) : Prop :=
  ∀ name : String, table[name]?.isSome = true → other[name]?.isSome = true

theorem Within.trans {a b c : MethodTable} (first : Within a b) (second : Within b c) : Within a c :=
  fun name here => second name (first name here)

theorem isSome_join (a b : Option MethodSlot) : (join a b).isSome = (a.isSome || b.isSome) := by
  cases b with
  | none => exact (Bool.or_false _).symm
  | some incoming =>
    cases a with
    | none => rfl
    | some present =>
      cases present with
      | own => rfl
      | inherited | ambiguous =>
        simp only [join]
        split <;> rfl

theorem isSome_absorb (table base : MethodTable) (name : String) :
    (table.absorb base)[name]?.isSome = (table[name]?.isSome || base[name]?.isSome) := by
  rw [getElem?_absorb, isSome_join, Option.isSome_map]

theorem within_absorb_left (table base : MethodTable) : table.Within (table.absorb base) := by
  intro name here
  rw [isSome_absorb, here]
  rfl

theorem within_absorb_right (table base : MethodTable) : base.Within (table.absorb base) := by
  intro name here
  rw [isSome_absorb, here, Bool.or_true]

/-- A table says that exactly the functions of its class are its own. -/
def TellsOwn (s : Symbols) (cls : String) (table : MethodTable) : Prop :=
  ∀ (name : String) (id : NodeId), table[name]? = some (.own id) ↔ s.function? cls name = some id

theorem tellsOwn_own (s : Symbols) (cls : String) : TellsOwn s cls (MethodTable.own s cls) := by
  intro name id
  rw [getElem?_own]
  cases s.function? cls name <;> simp

theorem TellsOwn.absorb {s : Symbols} {cls : String} {table : MethodTable} (tells : TellsOwn s cls table)
    (base : MethodTable) : TellsOwn s cls (table.absorb base) := by
  intro name id
  rw [getElem?_absorb, ← tells name id]
  constructor
  · intro joined
    by_contra other
    refine not_isOwn_join (a := table[name]?) ?_ (not_isOwn_passedOn _) ⟨id, joined⟩
    rintro ⟨own, here⟩
    rw [here, join_own] at joined
    exact other (here.trans joined)
  · intro own
    rw [own, join_own]

end MethodTable

namespace Hierarchy
open MethodSlot MethodTable

section
variable {s : Symbols} {h : Hierarchy} {counts : String → String → Prop}

/-- The tables made so far tell the functions of their classes, and what the bases that count know. -/
def Covered (s : Symbols) (h : Hierarchy) (counts : String → String → Prop) (made : TreeMap String MethodTable) : Prop :=
  ∀ (cls : String) (table : MethodTable), made[cls]? = some table → TellsOwn s cls table ∧
    ∀ base, h.HasBase cls base → counts cls base → ∃ below : MethodTable, made[base]? = some below ∧ below.Within table

/-- What holds while tables are made: no table is made for a class that is being visited. -/
structure Making (s : Symbols) (h : Hierarchy) (counts : String → String → Prop) (state : TableState) : Prop where
  covered : Covered s h counts state.made
  unmade : ∀ cls ∈ state.visiting, state.made[cls]? = none

/-- A table that is new for its class covers what the tables made before it tell of the bases. -/
theorem Covered.insert {made : TreeMap String MethodTable} (covered : Covered s h counts made) {cls : String}
    (fresh : made[cls]? = none) {table : MethodTable} (tells : TellsOwn s cls table)
    (covers : ∀ base, h.HasBase cls base → counts cls base →
      ∃ below : MethodTable, made[base]? = some below ∧ below.Within table) :
    Covered s h counts (made.insert cls table) := by
  -- The class had no table, so no table of a base is replaced.
  have kept {base : String} {below : MethodTable} (found : made[base]? = some below) :
      (made.insert cls table)[base]? = some below := by
    rw [TreeMap.getElem?_insert, if_neg, found]
    intro same
    rw [← Std.compare_eq_iff_eq.mp same, fresh] at found
    cases found
  refine forall_getElem?_insert (Q := fun c t => TellsOwn s c t ∧ ∀ base, h.HasBase c base → counts c base →
    ∃ below : MethodTable, (made.insert cls table)[base]? = some below ∧ below.Within t) (fun c t found => ?_) cls ?_
  · obtain ⟨own, bases⟩ := covered c t found
    refine ⟨own, fun base has matters => ?_⟩
    obtain ⟨below, here, within⟩ := bases base has matters
    exact ⟨below, kept here, within⟩
  · refine ⟨tells, fun base has matters => ?_⟩
    obtain ⟨below, here, within⟩ := covers base has matters
    exact ⟨below, kept here, within⟩

/-- What a table has before the bases come in it has afterwards. -/
theorem Gathers.within {bases : List String} {start r : MethodTable × TableState} (run : Gathers s h bases start r) :
    start.1.Within r.1 := by
  induction bases generalizing start with
  | nil =>
    cases run
    exact fun _ here => here
  | cons base bases ih =>
    cases run with
    | next first others => exact (within_absorb_left _ _).trans (ih others)

mutual

/-- Where no base that counts leads back to its class, the tables cover the bases that count. -/
theorem Makes.covers (apart : ∀ {cls base}, h.HasBase cls base → counts cls base → ¬ReflTransGen h.HasBase base cls)
    {cls : String} {state : TableState} {r : MethodTable × TableState} : Makes s h cls state r →
      (∀ c ∈ state.visiting, ReflTransGen h.HasBase c cls) → Making s h counts state → Making s h counts r.2
  | .stored _, _, making => making
  | .again _ _, _, making => making
  | .fresh new _ bases, above, making => by
    have visited {c : String} : c ∈ state.visiting.insert cls ↔ c = cls ∨ c ∈ state.visiting := by
      rw [TreeSet.mem_insert, Std.compare_eq_iff_eq, eq_comm]
    have start : Making s h counts { state with visiting := state.visiting.insert cls } := by
      refine ⟨making.covered, fun c member => ?_⟩
      rcases visited.mp member with rfl | member
      · exact new
      · exact making.unmade c member
    -- All visited classes lead to this one, so a base that counts is none of them and gets a table.
    have lead : ∀ c ∈ state.visiting.insert cls, ReflTransGen h.HasBase c cls := by
      intro c member
      rcases visited.mp member with rfl | member
      · exact .refl
      · exact above c member
    obtain ⟨tells, made, covers⟩ := bases.covers apart (fun _ has => has) lead (tellsOwn_own s cls) start
    have mine := made.unmade cls ((bases.keeps.visiting cls).mpr (visited.mpr (Or.inl rfl)))
    refine ⟨made.covered.insert mine tells covers, fun c member => ?_⟩
    obtain ⟨other, here⟩ := TreeSet.mem_erase.mp member
    rw [TreeMap.getElem?_insert, if_neg fun same => other same]
    exact made.unmade c here

theorem Gathers.covers (apart : ∀ {cls base}, h.HasBase cls base → counts cls base → ¬ReflTransGen h.HasBase base cls)
    {cls : String} {bases : List String} {start r : MethodTable × TableState} : Gathers s h bases start r →
      (∀ base ∈ bases, h.HasBase cls base) → (∀ c ∈ start.2.visiting, ReflTransGen h.HasBase c cls) →
        TellsOwn s cls start.1 → Making s h counts start.2 → TellsOwn s cls r.1 ∧ Making s h counts r.2 ∧
          ∀ base ∈ bases, counts cls base → ∃ below : MethodTable, r.2.made[base]? = some below ∧ below.Within r.1
  | .done, _, _, tells, making => ⟨tells, making, List.forall_mem_nil _⟩
  | .next first others, has, lead, tells, making => by
    have step := has _ List.mem_cons_self
    obtain ⟨kept, made⟩ := first.keeps
    have next := first.covers apart (fun c visited => (lead c visited).tail step) making
    obtain ⟨tells, making, covers⟩ := others.covers apart (fun b member => has b (List.mem_cons_of_mem _ member))
      (fun c visited => lead c ((kept.visiting c).mp visited)) (tells.absorb _) next
    refine ⟨tells, making, fun b member matters => ?_⟩
    rcases List.mem_cons.mp member with rfl | member
    · -- A base that counts is not being visited: all that is visited leads to `cls`, and the base would too.
      have unvisited := fun visited => apart step matters (lead b visited)
      exact ⟨_, others.keeps.made (made unvisited), (within_absorb_right _ _).trans others.within⟩
    · exact covers b member matters

end

/-- Every class of the hierarchy gets a table, and the tables cover the bases that count. -/
theorem methodTables_covers
    (apart : ∀ {cls base}, h.HasBase cls base → counts cls base → ¬ReflTransGen h.HasBase base cls) :
    Covered s h counts (methodTables s h) ∧ ∀ cls ∈ h, ∃ table, (methodTables s h)[cls]? = some table := by
  refine ⟨methodTables_of_runs (fun _ _ found => by simp at found) fun run covered => ?_, fun _ => exists_table⟩
  have nothing {P : String → Prop} : ∀ c ∈ (∅ : TreeSet String), P c := fun _ member => absurd member TreeSet.not_mem_emptyc
  exact (run.covers apart nothing ⟨covered, nothing⟩).covered

/-- After the merge a class knows the names of its table, whatever was known before. -/
theorem knows_of_table {cls : String} {table : MethodTable} (found : (methodTables s h)[cls]? = some table)
    (tells : TellsOwn s cls table) {name : String} (told : table[name]?.isSome = true) :
    (h.mergeInherited s).Knows cls name := by
  obtain ⟨function, marked⟩ := Prod.mk.inj (reading_mergeInherited found name)
  obtain ⟨slot, here⟩ := Option.isSome_iff_exists.mp told
  rw [here] at function marked
  cases slot with
  | own id =>
    refine Or.inl ?_
    rw [function]
    exact Option.isSome_of_eq_some ((tells name id).mp here)
  | inherited id =>
    refine Or.inl ?_
    rw [function]
    simp
  | ambiguous => exact Or.inr marked

/-- After the merge a class knows the names of its table and no others, where none was marked before. -/
theorem knows_iff (unmarked : ∀ cls name, s.isAmbiguous cls name = false) {cls : String} {table : MethodTable}
    (found : (methodTables s h)[cls]? = some table) (tells : TellsOwn s cls table) (name : String) :
    (h.mergeInherited s).Knows cls name ↔ table[name]?.isSome = true := by
  refine ⟨fun knows => ?_, knows_of_table found tells⟩
  have read := reading_mergeInherited found name
  unfold Symbols.reading at read
  rw [unmarked] at read
  obtain ⟨function, marked⟩ := Prod.mk.inj read
  unfold Symbols.Knows at knows
  rw [function, marked] at knows
  cases here : table[name]? with
  | some slot => rfl
  | none =>
    have none : s.function? cls name = none := by
      cases own : s.function? cls name with
      | none => rfl
      | some id =>
        rw [(tells name id).mpr own] at here
        cases here
    simp [here, none] at knows

/-- After the merge a class knows what a base that counts knows. -/
theorem knows_mergeInherited (unmarked : ∀ cls name, s.isAmbiguous cls name = false) (counts : String → String → Prop)
    (apart : ∀ {cls base}, h.HasBase cls base → counts cls base → ¬ReflTransGen h.HasBase base cls) {cls base : String}
    (has : h.HasBase cls base) (matters : counts cls base) {name : String}
    (knows : (h.mergeInherited s).Knows base name) : (h.mergeInherited s).Knows cls name := by
  obtain ⟨covered, each⟩ := methodTables_covers (s := s) apart
  obtain ⟨table, found⟩ := each cls (mem_of_hasBase has)
  obtain ⟨tells, covers⟩ := covered cls table found
  obtain ⟨below, there, within⟩ := covers base has matters
  rw [knows_iff unmarked found tells]
  exact within name ((knows_iff unmarked there (covered base below there).1 name).mp knows)

end

end Hierarchy

end ProgramGraph
