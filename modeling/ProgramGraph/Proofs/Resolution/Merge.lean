import ProgramGraph.Proofs.Resolution.TableRuns

/-! The merge of inherited methods into the names of a project. Each class of the hierarchy has a right table,
    and what is entered for a method is read off the one slot that the table of its class has for it. So the
    names afterwards say of every method which function it is, that it is ambiguous, or that there is none, as
    the class and its bases offer it (`mergeInherited_offers`). -/

namespace ProgramGraph
open Std Relation

/-! ### The tables of all classes -/

namespace Hierarchy
open MethodSlot MethodTable

section
variable {s : Symbols} {h : Hierarchy}

def AllRight (s : Symbols) (h : Hierarchy) (made : TreeMap String MethodTable) : Prop :=
  ∀ (cls : String) (table : MethodTable), made[cls]? = some table → Right s h cls table

mutual

/-- Without cycles no class comes up while its table is being made, so every table is right. -/
theorem Makes.right (acyclic : ∀ cls, ¬TransGen h.HasBase cls cls) {cls : String} {state : TableState}
    {r : MethodTable × TableState} : Makes s h cls state r → (∀ c ∈ state.visiting, TransGen h.HasBase c cls) →
      AllRight s h state.made → Right s h cls r.1 ∧ AllRight s h r.2.made
  | .stored found, _, all => ⟨all _ _ found, all⟩
  | .again _ visited, above, _ => absurd (above _ visited) (acyclic _)
  | .fresh _ _ bases, above, all => by
    have below : ∀ base ∈ h.bases cls, ∀ c ∈ state.visiting.insert cls, TransGen h.HasBase c base := by
      intro base has c visited
      rcases TreeSet.mem_insert.mp visited with same | visited
      · exact Std.compare_eq_iff_eq.mp same ▸ .single has
      · exact (above c visited).tail has
    obtain ⟨knows, later⟩ := bases.right acyclic below (knows_own s cls) all
    have right : Right s h cls _ := knows.congr fun name id => by rw [false_or]
    exact ⟨right, forall_getElem?_insert later cls right⟩

theorem Gathers.right (acyclic : ∀ cls, ¬TransGen h.HasBase cls cls) {cls : String} {bases : List String}
    {P : String → NodeId → Prop} {start r : MethodTable × TableState} : Gathers s h bases start r →
      (∀ base ∈ bases, ∀ c ∈ start.2.visiting, TransGen h.HasBase c base) → Knows s cls P start.1 →
        AllRight s h start.2.made →
          Knows s cls (fun name id => P name id ∨ ∃ base ∈ bases, Offers s h name base id) r.1 ∧ AllRight s h r.2.made
  | .done, _, knows, all => ⟨knows.congr fun name id => by simp, all⟩
  | .next first others, below, knows, all => by
    obtain ⟨here, later⟩ := first.right acyclic (below _ List.mem_cons_self) all
    have rest := fun b member c visited =>
      below b (List.mem_cons_of_mem _ member) c ((first.keeps.1.visiting c).mp visited)
    obtain ⟨knows, later⟩ := others.right acyclic rest (knows.absorb here.tells) later
    refine ⟨knows.congr fun name id => ?_, later⟩
    simp only [List.mem_cons, exists_eq_or_imp, or_assoc]

end

/-- Every class of a hierarchy without cycles gets a table, and it is right. -/
theorem methodTables_right (acyclic : ∀ cls, ¬TransGen h.HasBase cls cls) {cls : String} (member : cls ∈ h) :
    ∃ table, (methodTables s h)[cls]? = some table ∧ Right s h cls table := by
  have all : AllRight s h (methodTables s h) := methodTables_of_runs (fun _ _ found => by simp at found)
    fun run right => (run.right acyclic (fun _ visited => absurd visited TreeSet.not_mem_emptyc) right).2
  obtain ⟨table, found⟩ := exists_table (s := s) member
  exact ⟨table, found, all cls table found⟩

end

end Hierarchy

/-! ### Entering -/

namespace Symbols

/-- What the names of a project say of a method: the function that it is, and whether it is ambiguous. -/
def reading (s : Symbols) (cls name : String) : Option NodeId × Bool :=
  (s.function? cls name, s.isAmbiguous cls name)

theorem isAmbiguous_markAmbiguous (s : Symbols) (cls name cls' name' : String) :
    (s.markAmbiguous cls name).isAmbiguous cls' name' =
      (decide (cls = cls' ∧ name = name') || s.isAmbiguous cls' name') := by
  unfold markAmbiguous isAmbiguous
  by_cases hc : cls = cls'
  · subst hc
    simp [TreeSet.contains_insert, Bool.beq_eq_decide_eq]
  · simp [TreeMap.getD_insert, hc]

end Symbols

namespace MethodSlot

/-- What is said of a method after its slot has been entered. -/
def entered : Option MethodSlot → Option NodeId × Bool → Option NodeId × Bool
  | none, reading | some (own _), reading => reading
  | some (inherited id), (found, marked) => (found.or (some id), marked)
  | some ambiguous, (found, _) => (found, true)

/-- Where nothing was said before, the slot can be told from what is said. -/
theorem entered_injective : ∀ {a b : Option MethodSlot}, ¬IsOwn a → ¬IsOwn b →
    entered a (none, false) = entered b (none, false) → a = b
  | some (own id), _, ha, _, _ => absurd ⟨id, rfl⟩ ha
  | _, some (own id), _, hb, _ => absurd ⟨id, rfl⟩ hb
  | none, none, _, _, _ | some ambiguous, some ambiguous, _, _, _ => rfl
  | some (inherited _), some (inherited _), _, _, rfl => rfl

theorem entered_eq_iff {P : NodeId → Prop} {slot other : Option MethodSlot} (notOwn : ¬IsOwn slot) (notOwn' : ¬IsOwn other)
    (tells : Tells P slot) : entered slot (none, false) = entered other (none, false) ↔ Tells P other :=
  ⟨fun same => entered_injective notOwn notOwn' same ▸ tells, fun tells' =>
    congrArg (entered · (none, false)) (tells.unique notOwn notOwn' tells')⟩

theorem entered_found (slot : Option MethodSlot) {reading : Option NodeId × Bool} {id : NodeId}
    (found : reading.1 = some id) : (entered slot reading).1 = some id := by
  obtain ⟨function, marked⟩ := reading
  obtain _ | (own | inherited | _) := slot
  · exact found
  · exact found
  · exact Option.or_eq_some_iff.mpr (Or.inl found)
  · exact found

/-- A function that is said to be a method was said so before or comes from the slot. -/
theorem entered_fst {slot : Option MethodSlot} {reading : Option NodeId × Bool} {id : NodeId}
    (found : (entered slot reading).1 = some id) : reading.1 = some id ∨ slot.bind MethodSlot.id? = some id := by
  obtain ⟨function, marked⟩ := reading
  cases slot with
  | none => exact Or.inl found
  | some slot =>
    cases slot with
    | own | ambiguous => exact Or.inl found
    | inherited id' => exact (Option.or_eq_some_iff.mp found).imp_right fun ⟨_, same⟩ => same

end MethodSlot

namespace Hierarchy
open MethodSlot MethodTable

theorem reading_enter (s : Symbols) (cls name : String) (slot : MethodSlot) :
    (enter cls s (name, slot)).reading cls name = entered (some slot) (s.reading cls name) := by
  cases slot with
  | own id => rfl
  | ambiguous =>
    have marked : (s.markAmbiguous cls name).isAmbiguous cls name = true := by
      rw [Symbols.isAmbiguous_markAmbiguous]
      simp
    exact Prod.ext rfl marked
  | inherited id =>
    refine Prod.ext ?_ ?_
    · change (s.inherit cls name id).function? cls name = (s.function? cls name).or (some id)
      rw [Symbols.inherit_eq]
      cases found : s.function? cls name with
      | none => simp [Symbols.function?_setFunction]
      | some kept => simp [found]
    · change (s.inherit cls name id).isAmbiguous cls name = s.isAmbiguous cls name
      rw [Symbols.inherit_eq]
      split <;> rfl

theorem reading_enter_other (s : Symbols) (cls : String) (entry : String × MethodSlot) {cls' name : String}
    (other : ¬(cls = cls' ∧ entry.1 = name)) : (enter cls s entry).reading cls' name = s.reading cls' name := by
  obtain ⟨written, slot⟩ := entry
  cases slot with
  | own id => rfl
  | ambiguous =>
    refine Prod.ext rfl ?_
    change (s.markAmbiguous cls written).isAmbiguous cls' name = s.isAmbiguous cls' name
    rw [Symbols.isAmbiguous_markAmbiguous, decide_eq_false other, Bool.false_or]
  | inherited id =>
    change (s.inherit cls written id).reading cls' name = s.reading cls' name
    rw [Symbols.inherit_eq]
    split
    · rfl
    · exact Prod.ext ((Symbols.function?_setFunction ..).trans (if_neg other)) rfl

/-- Of all that is entered for a class, a method is told by its own slot. -/
theorem reading_enterAll (s : Symbols) (cls name : String) (table : MethodTable) :
    (table.toList.foldl (enter cls) s).reading cls name = entered table[name]? (s.reading cls name) := by
  have others : ∀ (s : Symbols) (entry : String × MethodSlot), entry.1 ≠ name →
      (enter cls s entry).reading cls name = s.reading cls name :=
    fun s entry ne => reading_enter_other s cls entry fun same => ne same.2
  cases found : table[name]? with
  | none => exact view_foldl_none (fun s : Symbols => s.reading cls name) others found s
  | some slot =>
    obtain ⟨s', same, walked⟩ := view_foldl_some (fun s : Symbols => s.reading cls name) others found s
    exact walked.trans ((reading_enter s' cls name slot).trans (congrArg _ same))

/-- What is entered for a class says nothing of another one. -/
theorem reading_enterAll_other (s : Symbols) (entry : String × MethodTable) {cls name : String} (ne : entry.1 ≠ cls) :
    (entry.2.toList.foldl (enter entry.1) s).reading cls name = s.reading cls name := by
  refine List.foldlRecOn entry.2.toList _ (motive := fun s' : Symbols => s'.reading cls name = s.reading cls name) rfl ?_
  intro s' same slot _
  exact (reading_enter_other s' entry.1 slot fun both => ne both.1).trans same

section
variable {s : Symbols} {h : Hierarchy} {cls : String}

/-- Of all that is entered, a method is told by the table of its class. -/
theorem reading_mergeInherited {table : MethodTable} (found : (methodTables s h)[cls]? = some table) (name : String) :
    (h.mergeInherited s).reading cls name = entered table[name]? (s.reading cls name) := by
  -- Each class has one table, and the tables of other classes do not touch its methods.
  obtain ⟨s', same, walked⟩ := view_foldl_some (fun s : Symbols => s.reading cls name)
    (fun s entry ne => reading_enterAll_other s entry ne) found s
  exact walked.trans ((reading_enterAll s' cls name table).trans (congrArg _ same))

theorem reading_mergeInherited_none (missing : (methodTables s h)[cls]? = none) (name : String) :
    (h.mergeInherited s).reading cls name = s.reading cls name :=
  view_foldl_none (fun s : Symbols => s.reading cls name)
    (fun s entry ne => reading_enterAll_other s entry ne) missing s

/-- The merge keeps all functions. -/
theorem function?_mergeInherited {name : String} {id : NodeId} (found : s.function? cls name = some id) :
    (h.mergeInherited s).function? cls name = some id := by
  cases made : (methodTables s h)[cls]? with
  | none => exact (congrArg Prod.fst (reading_mergeInherited_none made name)).trans found
  | some table => exact (congrArg Prod.fst (reading_mergeInherited made name)).trans (entered_found _ found)

/-- The merge changes functions and ambiguous names only. -/
theorem view_mergeInherited {α : Type} (view : Symbols → α)
    (setFunction : ∀ s owner name id, view (Symbols.setFunction s owner name id) = view s)
    (markAmbiguous : ∀ s cls name, view (Symbols.markAmbiguous s cls name) = view s) (s : Symbols) (h : Hierarchy) :
    view (h.mergeInherited s) = view s := by
  have kept : ∀ (cls : String) (s : Symbols) (slot : String × MethodSlot), view (enter cls s slot) = view s := by
    intro cls s slot
    obtain ⟨name, own | id | _⟩ := slot
    · rfl
    · change view (s.inherit cls name id) = view s
      rw [Symbols.inherit_eq]
      split
      · rfl
      · exact setFunction ..
    · exact markAmbiguous ..
  refine List.foldlRecOn (methodTables s h).toList _ (motive := fun s' : Symbols => view s' = view s) rfl ?_
  intro s' same entry _
  refine List.foldlRecOn entry.2.toList _ (motive := fun s'' : Symbols => view s'' = view s) same ?_
  intro s'' same slot _
  exact (kept entry.1 s'' slot).trans same

/-- The merge changes no class. -/
theorem class?_mergeInherited (s : Symbols) (h : Hierarchy) (qualname : String) :
    (h.mergeInherited s).class? qualname = s.class? qualname :=
  view_mergeInherited (·.class? qualname) (fun _ _ _ _ => rfl) (fun _ _ _ => rfl) s h

theorem module?_mergeInherited (s : Symbols) (h : Hierarchy) (name : String) :
    (h.mergeInherited s).module? name = s.module? name :=
  view_mergeInherited (·.module? name) (fun _ _ _ _ => rfl) (fun _ _ _ => rfl) s h

end

/-! ### Where methods come from -/

theorem join_id? {a b : Option MethodSlot} {id : NodeId} (found : (join a b).bind MethodSlot.id? = some id) :
    a.bind MethodSlot.id? = some id ∨ b.bind MethodSlot.id? = some id := by
  cases b with
  | none => exact Or.inl found
  | some incoming =>
    cases a with
    | none => exact Or.inr found
    | some present =>
      have kept : (if present = incoming then some present else some .ambiguous).bind MethodSlot.id? = some id →
          (some present).bind MethodSlot.id? = some id := by
        intro found
        split at found
        · exact found
        · cases found
      cases present with
      | own => exact Or.inl found
      | inherited | ambiguous => exact Or.inl (kept found)

/-- Every method of a table is one that a class reached from `cls` declares. -/
def From (s : Symbols) (h : Hierarchy) (cls : String) (table : MethodTable) : Prop :=
  ∀ (name : String) (id : NodeId), table[name]?.bind MethodSlot.id? = some id →
    ∃ q, ReflTransGen h.HasBase cls q ∧ s.function? q name = some id

section
variable {s : Symbols} {h : Hierarchy}

theorem from_own (cls : String) : From s h cls (.own s cls) := by
  intro name id found
  rw [getElem?_own] at found
  obtain ⟨slot, stated, same⟩ := Option.bind_eq_some_iff.mp found
  obtain ⟨own, declared, rfl⟩ := Option.map_eq_some_iff.mp stated
  cases same
  exact ⟨cls, .refl, declared⟩

theorem From.absorb {cls base : String} {table inherited : MethodTable} (own : From s h cls table)
    (has : h.HasBase cls base) (below : From s h base inherited) : From s h cls (table.absorb inherited) := by
  intro name id found
  rw [getElem?_absorb] at found
  rcases join_id? found with found | found
  · exact own name id found
  · rw [Option.bind_map] at found
    obtain ⟨slot, there, same⟩ := Option.bind_eq_some_iff.mp found
    obtain ⟨q, way, declared⟩ := below name id (Option.bind_eq_some_iff.mpr ⟨slot, there, slot.id?_passedOn ▸ same⟩)
    exact ⟨q, .head has way, declared⟩

/-- The tables made so far tell of reached classes only. -/
def AllFrom (s : Symbols) (h : Hierarchy) (made : TreeMap String MethodTable) : Prop :=
  ∀ (cls : String) (table : MethodTable), made[cls]? = some table → From s h cls table

mutual

theorem Makes.from {cls : String} {state : TableState} {r : MethodTable × TableState} :
    Makes s h cls state r → AllFrom s h state.made → From s h cls r.1 ∧ AllFrom s h r.2.made
  | .stored found, all => ⟨all _ _ found, all⟩
  | .again _ _, all => ⟨from_own _, all⟩
  | .fresh _ _ bases, all => by
    obtain ⟨reached, later⟩ := bases.from (fun _ has => has) (from_own cls) all
    exact ⟨reached, forall_getElem?_insert later cls reached⟩

theorem Gathers.from {cls : String} {bases : List String} {start r : MethodTable × TableState} :
    Gathers s h bases start r → (∀ base ∈ bases, h.HasBase cls base) → From s h cls start.1 → AllFrom s h start.2.made →
      From s h cls r.1 ∧ AllFrom s h r.2.made
  | .done, _, reached, all => ⟨reached, all⟩
  | .next first others, has, reached, all => by
    obtain ⟨below, later⟩ := first.from all
    exact others.from (fun b member => has b (List.mem_cons_of_mem _ member))
      (reached.absorb (has _ List.mem_cons_self) below) later

end

theorem methodTables_from : AllFrom s h (methodTables s h) :=
  methodTables_of_runs (fun _ _ found => by simp at found) fun run all => (run.from all).2

/-- After the merge a class has only methods that a class reached from it declares. -/
theorem mergeInherited_from {cls name : String} {id : NodeId} (found : (h.mergeInherited s).function? cls name = some id) :
    ∃ q, ReflTransGen h.HasBase cls q ∧ s.function? q name = some id := by
  cases made : (methodTables s h)[cls]? with
  | none =>
    rw [show (h.mergeInherited s).function? cls name = s.function? cls name from
      congrArg Prod.fst (reading_mergeInherited_none made name)] at found
    exact ⟨cls, .refl, found⟩
  | some table =>
    have read : (h.mergeInherited s).function? cls name = (entered table[name]? (s.reading cls name)).1 :=
      congrArg Prod.fst (reading_mergeInherited made name)
    rw [read] at found
    rcases entered_fst found with found | found
    · exact ⟨cls, .refl, found⟩
    · exact methodTables_from cls table made name id found

end

/-! ### What the merge says -/

/-- Methods that a class owns stay as they are; of any other name, the merge finds the function that is the
    only one offered, marks the name if several are offered, and says nothing if none is. -/
theorem mergeInherited_offers (s : Symbols) (h : Hierarchy) (unmarked : ∀ cls name, s.isAmbiguous cls name = false)
    (acyclic : ∀ cls, ¬TransGen h.HasBase cls cls) {cls : String} (member : cls ∈ h) (name : String) :
    (∀ id, s.function? cls name = some id →
        (h.mergeInherited s).function? cls name = some id ∧ (h.mergeInherited s).isAmbiguous cls name = false) ∧
      (s.function? cls name = none →
        (∀ id, (h.mergeInherited s).function? cls name = some id ∧ (h.mergeInherited s).isAmbiguous cls name = false ↔
            ∀ id', Offers s h name cls id' ↔ id' = id) ∧
          ((h.mergeInherited s).isAmbiguous cls name = true ∧ (h.mergeInherited s).function? cls name = none ↔
            ∃ a b, a ≠ b ∧ Offers s h name cls a ∧ Offers s h name cls b) ∧
          ((h.mergeInherited s).function? cls name = none ∧ (h.mergeInherited s).isAmbiguous cls name = false ↔
            ∀ id, ¬Offers s h name cls id)) := by
  obtain ⟨table, found, right⟩ := methodTables_right (s := s) acyclic member
  have read := reading_mergeInherited found name
  unfold Symbols.reading at read
  rw [unmarked] at read
  constructor
  · intro id own
    rw [right.own own, own] at read
    exact Prod.mk.inj read
  · intro none
    have tells := right.tells name
    have notOwn := (right.inherited none).1
    rw [none] at read
    have reads : ∀ other : Option MethodSlot, ¬IsOwn other →
        (((h.mergeInherited s).function? cls name, (h.mergeInherited s).isAmbiguous cls name) =
          entered other (.none, false) ↔ Tells (Offers s h name cls) other) := by
      intro other notOwn'
      rw [read]
      exact entered_eq_iff notOwn notOwn' tells
    refine ⟨fun id => ?_, ?_, ?_⟩
    · exact Prod.ext_iff.symm.trans (reads (some (.inherited id)) not_isOwn_inherited)
    · exact (and_comm.trans Prod.ext_iff.symm).trans (reads (some .ambiguous) not_isOwn_ambiguous)
    · exact Prod.ext_iff.symm.trans (reads .none not_isOwn_none)

/-- The theorem for a diamond: a method of the top comes to the bottom once, and one that both sides state
    anew is ambiguous there. -/
theorem mergeInherited_offers_diamond :
    let h : Hierarchy := .ofList [("D", ["B", "C"]), ("B", ["A"]), ("C", ["A"]), ("A", [])]
    let s := ((({} : Symbols).setFunction "A" "f" "m.A.f").setFunction "B" "g" "m.B.g").setFunction "C" "g" "m.C.g"
    (∀ cls name, s.isAmbiguous cls name = false) ∧ (∀ cls, ¬TransGen h.HasBase cls cls) ∧ "D" ∈ h ∧
      ((h.mergeInherited s).function? "D" "f" = some "m.A.f" ∧ (h.mergeInherited s).isAmbiguous "D" "f" = false) ∧
      ((h.mergeInherited s).isAmbiguous "D" "g" = true ∧ (h.mergeInherited s).function? "D" "g" = none) := by
  intro h s
  have unmarked : ∀ cls name, s.isAmbiguous cls name = false := fun cls name => by
    simp [s, Symbols.isAmbiguous, Symbols.setFunction]
  let rank : String → Nat := fun cls => if cls = "D" then 2 else if cls = "A" then 0 else 1
  have lower : ∀ cls ∈ h.keys, ∀ base ∈ h.bases cls, rank base < rank cls := by decide +kernel
  have acyclic : ∀ cls, ¬TransGen h.HasBase cls cls :=
    not_transGen_self rank fun cls base has => lower cls (TreeMap.mem_keys.mpr (mem_of_hasBase has)) base has
  have member : "D" ∈ h := by decide +kernel
  have left : h.HasBase "D" "B" := List.mem_of_elem_eq_true (by decide +kernel)
  have right : h.HasBase "D" "C" := List.mem_of_elem_eq_true (by decide +kernel)
  refine ⟨unmarked, acyclic, member, ?_, ?_⟩
  · have top : ∀ id', Offers s h "f" "A" id' ↔ id' = "m.A.f" := fun id' => offers_own_iff (by decide +kernel)
    have left : ∀ id', Offers s h "f" "B" id' ↔ id' = "m.A.f" := fun id' => by
      rw [offers_inherited_iff (by decide +kernel), show h.bases "B" = ["A"] by decide +kernel]
      simp [top]
    have right : ∀ id', Offers s h "f" "C" id' ↔ id' = "m.A.f" := fun id' => by
      rw [offers_inherited_iff (by decide +kernel), show h.bases "C" = ["A"] by decide +kernel]
      simp [top]
    refine (((mergeInherited_offers s h unmarked acyclic member "f").2 (by decide +kernel)).1 "m.A.f").mpr fun id' => ?_
    rw [offers_inherited_iff (by decide +kernel), show h.bases "D" = ["B", "C"] by decide +kernel]
    simp [left, right]
  · refine ((mergeInherited_offers s h unmarked acyclic member "g").2 (by decide +kernel)).2.1.mpr
      ⟨"m.B.g", "m.C.g", by decide, ?_, ?_⟩
    · exact .inherited (by decide +kernel) left (.own (by decide +kernel))
    · exact .inherited (by decide +kernel) right (.own (by decide +kernel))

end Hierarchy

end ProgramGraph
