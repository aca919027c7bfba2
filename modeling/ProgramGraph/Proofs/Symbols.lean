import ProgramGraph.Reference
import ProgramGraph.Resolution.Methods

/-! Where the ids in the tables of names come from. Every entry that is made is the id of a declaration
    that was entered; inheritance passes on entries and makes none (`Symbols.All`). -/

namespace ProgramGraph
open Std

theorem forall_getElem?_insert {α : Type} {table : TreeMap String α} {Q : String → α → Prop}
    (h : ∀ (key : String) (a : α), table[key]? = some a → Q key a) (key : String) {a : α} (ha : Q key a) :
    ∀ (key' : String) (a' : α), (table.insert key a)[key']? = some a' → Q key' a' := by
  intro key' a' found
  rw [TreeMap.getElem?_insert] at found
  split at found
  · rename_i same
    cases found
    exact Std.compare_eq_iff_eq.mp same ▸ ha
  · exact h key' a' found

namespace Symbols

/-- Every id that the tables give for a name satisfies `P`. -/
structure All (P : NodeId → Prop) (s : Symbols) : Prop where
  modules : ∀ {name id}, s.module? name = some id → P id
  classes : ∀ {qualname id}, s.class? qualname = some id → P id
  functions : ∀ {owner name id}, s.function? owner name = some id → P id

section
variable {P : NodeId → Prop} {s : Symbols}

theorem function?_setFunction (owner name : String) (id : NodeId) (owner' name' : String) :
    (s.setFunction owner name id).function? owner' name' =
      if owner = owner' ∧ name = name' then some id else s.function? owner' name' := by
  unfold setFunction function? functionsOf
  by_cases ho : owner = owner'
  · subst ho
    simp [TreeMap.getElem?_insert]
  · simp [TreeMap.getD_insert, ho]

theorem inherit_eq (s : Symbols) (cls name : String) (id : NodeId) :
    s.inherit cls name id = if (s.function? cls name).isSome then s else s.setFunction cls name id := by
  unfold inherit addInherited
  split <;> rfl

/-! ### What one declaration changes -/

section Cases
variable {s' : Symbols}

/-- A declaration is accepted if its place is free, and then it is entered, or if what is held there is the same. -/
theorem accepted_cases {α : Type} {held : Option α} (same : α → Prop) [DecidablePred same] (clash : α → Problem)
    {next : Symbols} {result : Except Problem Symbols}
    (rule : result = held.elim (.ok next) fun kept => if same kept then .ok s else .error (clash kept))
    (accepted : result = .ok s') : s' = s ∨ (held = none ∧ s' = next) := by
  rw [rule] at accepted
  cases held with
  | none =>
    cases accepted
    exact Or.inr ⟨rfl, rfl⟩
  | some kept =>
    rw [Option.elim_some] at accepted
    split at accepted <;> cases accepted
    exact Or.inl rfl

theorem addModule_cases {name : String} {id : NodeId} (added : s.addModule name id = .ok s') :
    s' = s ∨ (s.module? name = none ∧ s' = { s with modules := s.modules.insert name id }) := by
  refine accepted_cases (· = id) (.duplicateSymbol name · id) ?_ added
  unfold addModule
  cases s.module? name <;> rfl

theorem addClass_cases {qualname : String} {id : NodeId} (added : s.addClass qualname id = .ok s') :
    s' = s ∨ (s.class? qualname = none ∧ s' = { s with classes := s.classes.insert qualname id }) := by
  refine accepted_cases (· = id) (.duplicateSymbol qualname · id) ?_ added
  unfold addClass
  cases s.class? qualname <;> rfl

theorem addFunction_cases {owner name : String} {id : NodeId} (added : s.addFunction owner name id = .ok s') :
    s' = s ∨ (s.function? owner name = none ∧ s' = s.setFunction owner name id) := by
  refine accepted_cases (· = id) (.duplicateSymbol (Dotted.qualify owner name) · id) ?_ added
  unfold addFunction
  cases s.function? owner name <;> rfl

theorem addImport_cases {module localName : String} {b : Binding} (added : s.addImport module localName b = .ok s') :
    s' = s ∨ (s.binding? module localName = none ∧
      s' = { s with imports := s.imports.insert module ((s.importsOf module).insert localName b) }) := by
  refine accepted_cases (·.agrees b)
    (fun kept => .duplicateSymbol (Dotted.qualify module localName) kept.text b.text) ?_ added
  unfold addImport
  cases s.binding? module localName <;> rfl

/-- An import adds to the tables of imports only. -/
theorem addEntry_cases {module : String} {entry : ImportEntry} (added : addEntry module entry s = .ok s') :
    s' = s ∨
      (∃ localName, s' = { s with
        imports := s.imports.insert module
          ((s.importsOf module).insert localName ⟨entry.target, entry.module, entry.line⟩) }) ∨
      s' = s.addWildcard module entry.module := by
  unfold addEntry at added
  split at added
  · rename_i localName _
    exact (addImport_cases added).imp_right fun ⟨_, next⟩ => Or.inl ⟨localName, next⟩
  · cases added
    exact Or.inr (Or.inr rfl)

/-- Each declaration of an outline adds to one table, if it adds at all. -/
theorem declaration_cases {o : Outline} {add : Symbols → Except Problem Symbols} (member : add ∈ declarations o)
    (added : add s = .ok s') : s' = s ∨ s' = { s with modules := s.modules.insert o.module o.moduleId } ∨
      (∃ localName b, s' = { s with imports := s.imports.insert o.module ((s.importsOf o.module).insert localName b) }) ∨
      (∃ target, s' = s.addWildcard o.module target) ∨
      (∃ c ∈ o.classes, s' = { s with classes := s.classes.insert c.qualname c.id }) ∨
      ∃ d ∈ o.functions, s' = s.setFunction d.owner d.name d.id := by
  unfold declarations at member
  simp only [List.mem_append, List.mem_map, List.mem_cons, List.not_mem_nil, or_false] at member
  rcases member with ((rfl | ⟨entry, -, rfl⟩) | ⟨c, declared, rfl⟩) | ⟨d, declared, rfl⟩
  · exact (addModule_cases added).imp_right fun ⟨_, next⟩ => Or.inl next
  · rcases addEntry_cases added with same | ⟨localName, next⟩ | next
    · exact Or.inl same
    · exact Or.inr (Or.inr (Or.inl ⟨localName, _, next⟩))
    · exact Or.inr (Or.inr (Or.inr (Or.inl ⟨_, next⟩)))
  · rcases addClass_cases added with same | ⟨-, next⟩
    · exact Or.inl same
    · exact Or.inr (Or.inr (Or.inr (Or.inr (Or.inl ⟨c, declared, next⟩))))
  · rcases addFunction_cases added with same | ⟨-, next⟩
    · exact Or.inl same
    · exact Or.inr (Or.inr (Or.inr (Or.inr (Or.inr ⟨d, declared, next⟩))))

end Cases

namespace All

theorem mono {Q : NodeId → Prop} (h : s.All P) (hpq : ∀ id, P id → Q id) : s.All Q :=
  ⟨fun hid => hpq _ (h.modules hid), fun hid => hpq _ (h.classes hid), fun hid => hpq _ (h.functions hid)⟩

theorem empty : All P {} :=
  ⟨fun h => by simp [module?] at h, fun h => by simp [class?] at h,
    fun h => by simp [function?, functionsOf] at h⟩

theorem setFunction (h : s.All P) (owner name : String) {id : NodeId} (hid : P id) :
    (s.setFunction owner name id).All P where
  modules hm := h.modules hm
  classes hc := h.classes hc
  functions hf := by
    rw [function?_setFunction] at hf
    split at hf
    · cases hf
      exact hid
    · exact h.functions hf

/-! ### Declarations -/

theorem addModule (h : s.All P) {s' : Symbols} {name : String} {id : NodeId} (hid : P id)
    (hs : s.addModule name id = .ok s') : s'.All P := by
  rcases addModule_cases hs with rfl | ⟨-, rfl⟩
  · exact h
  · exact ⟨forall_getElem?_insert (fun _ _ => h.modules) name hid _ _, h.classes, h.functions⟩

theorem addClass (h : s.All P) {s' : Symbols} {qualname : String} {id : NodeId} (hid : P id)
    (hs : s.addClass qualname id = .ok s') : s'.All P := by
  rcases addClass_cases hs with rfl | ⟨-, rfl⟩
  · exact h
  · exact ⟨h.modules, forall_getElem?_insert (fun _ _ => h.classes) qualname hid _ _, h.functions⟩

theorem addFunction (h : s.All P) {s' : Symbols} {owner name : String} {id : NodeId} (hid : P id)
    (hs : s.addFunction owner name id = .ok s') : s'.All P := by
  rcases addFunction_cases hs with rfl | ⟨-, rfl⟩
  · exact h
  · exact h.setFunction owner name hid

theorem addEntry (h : s.All P) {s' : Symbols} {module : String} {entry : ImportEntry}
    (hs : addEntry module entry s = .ok s') : s'.All P := by
  rcases addEntry_cases hs with rfl | ⟨-, rfl⟩ | rfl
  · exact h
  · exact ⟨h.modules, h.classes, h.functions⟩
  · exact ⟨h.modules, h.classes, h.functions⟩

/-- What an outline declares keeps `P`, if its root and the ids it declares have it. -/
theorem register (h : s.All P) {o : Outline} (hroot : P o.moduleId) (hclasses : ∀ c ∈ o.classes, P c.id)
    (hfunctions : ∀ f ∈ o.functions, P f.id) : (s.register o).1.All P := by
  have keeps : ∀ add ∈ declarations o, ∀ s s' : Symbols, s.All P → add s = .ok s' → s'.All P := by
    intro add hadd s s' h hs
    unfold declarations at hadd
    simp only [List.mem_append, List.mem_map, List.mem_cons, List.not_mem_nil, or_false] at hadd
    rcases hadd with ((rfl | ⟨entry, -, rfl⟩) | ⟨c, hc, rfl⟩) | ⟨f, hf, rfl⟩
    · exact h.addModule hroot hs
    · exact h.addEntry hs
    · exact h.addClass (hclasses c hc) hs
    · exact h.addFunction (hfunctions f hf) hs
  unfold Symbols.register
  refine List.foldlRecOn (declarations o) attempt (motive := fun state : Symbols × Array Problem => state.1.All P) h ?_
  intro state hstate add hadd
  unfold attempt
  split
  · rename_i s' hs
    exact keeps add hadd _ _ hstate hs
  · exact hstate

end All

/-! ### Provenance -/

/-- What registering an outline does to classes and functions: what is there stays, and what is new is declared
    by the outline. -/
structure Adds (o : Outline) (s s' : Symbols) : Prop where
  keeps : ∀ {qualname id}, s.class? qualname = some id → s'.class? qualname = some id
  classes : ∀ {qualname id}, s'.class? qualname = some id →
    s.class? qualname = some id ∨ ∃ c ∈ o.classes, c.qualname = qualname ∧ c.id = id
  functions : ∀ {owner name id}, s'.function? owner name = some id →
    s.function? owner name = some id ∨ ∃ d ∈ o.functions, d.owner = owner ∧ d.name = name ∧ d.id = id

namespace Adds
variable {o : Outline} {s' s'' : Symbols}

theorem refl (o : Outline) (s : Symbols) : Adds o s s := ⟨id, Or.inl, Or.inl⟩

theorem trans (first : Adds o s s') (second : Adds o s' s'') : Adds o s s'' where
  keeps := second.keeps ∘ first.keeps
  classes found := (second.classes found).elim first.classes Or.inr
  functions found := (second.functions found).elim first.functions Or.inr

/-- Modules and imports are none of its business. -/
theorem of_eq (classes : s'.classes = s.classes) (functions : s'.functions = s.functions) : Adds o s s' where
  keeps found := by
    unfold class? at found ⊢
    rwa [classes]
  classes found := by
    unfold class? at found ⊢
    rw [classes] at found
    exact Or.inl found
  functions found := by
    unfold function? functionsOf at found ⊢
    rw [functions] at found
    exact Or.inl found

theorem addModule {name : String} {id : NodeId} (added : s.addModule name id = .ok s') : Adds o s s' := by
  rcases addModule_cases added with rfl | ⟨-, rfl⟩
  · exact .refl o s'
  · exact .of_eq rfl rfl

theorem addEntry {module : String} {entry : ImportEntry} (added : Symbols.addEntry module entry s = .ok s') :
    Adds o s s' := by
  rcases addEntry_cases added with rfl | ⟨-, rfl⟩ | rfl
  · exact .refl o s'
  · exact .of_eq rfl rfl
  · exact .of_eq rfl rfl

theorem addClass {c : ClassDecl} (declared : c ∈ o.classes) (added : s.addClass c.qualname c.id = .ok s') :
    Adds o s s' := by
  rcases addClass_cases added with rfl | ⟨free, rfl⟩
  · exact .refl o s'
  · refine ⟨fun {qualname id} found => ?_, ?_, Or.inl⟩
    · have other : c.qualname ≠ qualname := by
        rintro rfl
        rw [free] at found
        cases found
      change (s.classes.insert c.qualname c.id)[qualname]? = some id
      rw [TreeMap.getElem?_insert, if_neg fun same => other (Std.compare_eq_iff_eq.mp same)]
      exact found
    · exact fun found => forall_getElem?_insert
        (Q := fun qualname id => s.class? qualname = some id ∨ ∃ c ∈ o.classes, c.qualname = qualname ∧ c.id = id)
        (fun _ _ => Or.inl) c.qualname (Or.inr ⟨c, declared, rfl, rfl⟩) _ _ found

theorem addFunction {d : FunctionDecl} (declared : d ∈ o.functions) (added : s.addFunction d.owner d.name d.id = .ok s') :
    Adds o s s' := by
  rcases addFunction_cases added with rfl | ⟨-, rfl⟩
  · exact .refl o s'
  · refine ⟨id, Or.inl, fun found => ?_⟩
    rw [function?_setFunction] at found
    split at found
    · rename_i same
      cases found
      exact Or.inr ⟨d, declared, same.1, same.2, rfl⟩
    · exact Or.inl found

theorem declaration {add : Symbols → Except Problem Symbols} (member : add ∈ declarations o) (added : add s = .ok s') :
    Adds o s s' := by
  unfold declarations at member
  simp only [List.mem_append, List.mem_map, List.mem_cons, List.not_mem_nil, or_false] at member
  rcases member with ((rfl | ⟨entry, -, rfl⟩) | ⟨c, declared, rfl⟩) | ⟨d, declared, rfl⟩
  · exact addModule added
  · exact addEntry added
  · exact addClass declared added
  · exact addFunction declared added

theorem attempt {add : Symbols → Except Problem Symbols} (member : add ∈ declarations o) (state : Symbols × Array Problem) :
    Adds o state.1 (Symbols.attempt state add).1 := by
  unfold Symbols.attempt
  split
  · rename_i added
    exact declaration member added
  · exact .refl o state.1

theorem foldl {adds : List (Symbols → Except Problem Symbols)} (sub : ∀ add ∈ adds, add ∈ declarations o)
    (state : Symbols × Array Problem) : Adds o state.1 (adds.foldl Symbols.attempt state).1 := by
  refine List.foldlRecOn adds _ (motive := fun later : Symbols × Array Problem => Adds o state.1 later.1) (.refl o _) ?_
  exact fun later before add member => before.trans (attempt (sub add member) later)

theorem register (o : Outline) (s : Symbols) : Adds o s (s.register o).1 :=
  foldl (fun _ member => member) (s, #[])

end Adds

theorem attempt_ok {state : Symbols × Array Problem} {add : Symbols → Except Problem Symbols} {s' : Symbols}
    (added : add state.1 = .ok s') : (attempt state add).1 = s' := by
  unfold attempt
  rw [added]

theorem attempt_error {state : Symbols × Array Problem} {add : Symbols → Except Problem Symbols} {p : Problem}
    (refused : add state.1 = .error p) : (attempt state add).1 = state.1 := by
  unfold attempt
  rw [refused]

/-- What no declaration of a list changes is not changed by declaring them. -/
theorem view_foldl_attempt {α : Type} (view : Symbols → α) {adds : List (Symbols → Except Problem Symbols)}
    (each : ∀ add ∈ adds, ∀ s s' : Symbols, add s = .ok s' → view s' = view s) (state : Symbols × Array Problem) :
    view (adds.foldl attempt state).1 = view state.1 := by
  refine List.foldlRecOn adds attempt (motive := fun later : Symbols × Array Problem => view later.1 = view state.1) rfl ?_
  intro later same add member
  cases result : add later.1 with
  | ok s' => exact (congrArg view (attempt_ok result)).trans ((each add member _ _ result).trans same)
  | error p => exact (congrArg view (attempt_error result)).trans same

/-- Declarations make no name ambiguous. -/
theorem isAmbiguous_register (s : Symbols) (o : Outline) (cls name : String) :
    (s.register o).1.isAmbiguous cls name = s.isAmbiguous cls name := by
  refine view_foldl_attempt (·.isAmbiguous cls name) (fun add member s s' added => ?_) (s, #[])
  rcases declaration_cases member added with rfl | rfl | ⟨_, _, rfl⟩ | ⟨_, rfl⟩ | ⟨_, -, rfl⟩ | ⟨_, -, rfl⟩ <;> rfl

/-- After a class has been declared its name stands for a class, if perhaps another one. -/
theorem exists_class_addClass (state : Symbols × Array Problem) (qualname : String) (id : NodeId) :
    ∃ id', (attempt state fun s => s.addClass qualname id).1.class? qualname = some id' := by
  cases result : state.1.addClass qualname id with
  | error p =>
    rw [show (attempt state fun s => s.addClass qualname id).1 = state.1 from attempt_error result]
    unfold addClass at result
    split at result
    · rename_i kept found
      exact ⟨kept, found⟩
    · cases result
  | ok s' =>
    rw [show (attempt state fun s => s.addClass qualname id).1 = s' from attempt_ok result]
    unfold addClass at result
    split at result
    · rename_i kept found
      split at result <;> cases result
      exact ⟨kept, found⟩
    · cases result
      exact ⟨id, TreeMap.getElem?_insert_self⟩

/-- Every class of a registered outline has its name in the tables, if perhaps for another class. -/
theorem exists_class_register {o : Outline} (s : Symbols) {c : ClassDecl} (declared : c ∈ o.classes) :
    ∃ id, (s.register o).1.class? c.qualname = some id := by
  have member : (fun s : Symbols => s.addClass c.qualname c.id) ∈ declarations o :=
    List.mem_append_left _ (List.mem_append_right _ (List.mem_map.mpr ⟨c, declared, rfl⟩))
  obtain ⟨before, after, split⟩ := List.append_of_mem member
  unfold register
  rw [split, List.foldl_append, List.foldl_cons]
  obtain ⟨id, found⟩ := exists_class_addClass (before.foldl attempt (s, #[])) c.qualname c.id
  have sub : ∀ add ∈ after, add ∈ declarations o := by
    intro add here
    rw [split]
    exact List.mem_append_right _ (List.mem_cons_of_mem _ here)
  exact ⟨id, (Adds.foldl sub _).keeps found⟩

end

end Symbols

/-! ### Inherited methods -/

/-- The method that a slot stands for, if it is one. -/
def MethodSlot.id? : MethodSlot → Option NodeId
  | own id | inherited id => some id
  | ambiguous => none

@[simp] theorem MethodSlot.id?_passedOn (slot : MethodSlot) : slot.passedOn.id? = slot.id? := by
  cases slot <;> rfl

section
variable {P : NodeId → Prop} {s : Symbols}

namespace MethodTable

/-- Every method of a table satisfies `P`. -/
def All (P : NodeId → Prop) (table : MethodTable) : Prop :=
  ∀ (name : String) (slot : MethodSlot), table[name]? = some slot → ∀ id, slot.id? = some id → P id

theorem own_all (h : s.All P) (cls : String) : (own s cls).All P := by
  intro name slot hslot id hid
  unfold own at hslot
  rw [TreeMap.getElem?_map] at hslot
  obtain ⟨found, hfound, rfl⟩ := Option.map_eq_some_iff.mp hslot
  cases hid
  exact h.functions hfound

theorem merge_all {table : MethodTable} (h : table.All P) (name : String) {incoming : MethodSlot}
    (hslot : ∀ id, incoming.id? = some id → P id) : (table.merge name incoming).All P := by
  unfold merge
  split
  · exact forall_getElem?_insert h name hslot
  · exact h
  · split
    · exact h
    · exact forall_getElem?_insert h name nofun

theorem absorb_all {table base : MethodTable} (h : table.All P) (hbase : base.All P) : (table.absorb base).All P := by
  unfold absorb
  refine List.foldlRecOn base.toList _ (motive := fun table : MethodTable => table.All P) h ?_
  rintro table htable ⟨name, slot⟩ hmem
  have hslot := TreeMap.mem_toList_iff_getElem?_eq_some.mp hmem
  exact merge_all htable name fun id hid => hbase name slot hslot id (by rwa [MethodSlot.id?_passedOn] at hid)

end MethodTable

/-- Every method of the tables made so far satisfies `P`. -/
def TableState.All (P : NodeId → Prop) (made : TreeMap String MethodTable) : Prop :=
  ∀ (cls : String) (table : MethodTable), made[cls]? = some table → table.All P

namespace Hierarchy

theorem methodTable_all (h : s.All P) (hierarchy : Hierarchy) : ∀ (depth : Nat) (cls : String) (state : TableState),
    TableState.All P state.made →
    (methodTable s hierarchy depth cls state).1.All P ∧ TableState.All P (methodTable s hierarchy depth cls state).2.made
  | 0, cls, _, hmade => ⟨MethodTable.own_all h cls, hmade⟩
  | depth + 1, cls, state, hmade => by
    unfold methodTable
    split
    · rename_i table htable
      exact ⟨hmade cls table htable, hmade⟩
    · split
      · exact ⟨MethodTable.own_all h cls, hmade⟩
      · -- The table and the state after the bases, whatever they are, are made of allowed methods.
        have finish : ∀ result : MethodTable × TableState, result.1.All P ∧ TableState.All P result.2.made →
            result.1.All P ∧ TableState.All P (result.2.made.insert cls result.1) := by
          rintro ⟨table, state⟩ ⟨htable, hstate⟩
          exact ⟨htable, forall_getElem?_insert hstate cls htable⟩
        refine finish _ (List.foldlRecOn (hierarchy.bases cls) _ (motive := fun result : MethodTable × TableState =>
          result.1.All P ∧ TableState.All P result.2.made) ⟨MethodTable.own_all h cls, hmade⟩ ?_)
        rintro ⟨table, state⟩ ⟨htable, hstate⟩ base -
        obtain ⟨hinherited, hmade⟩ := methodTable_all h hierarchy depth base state hstate
        exact ⟨MethodTable.absorb_all htable hinherited, hmade⟩

theorem methodTables_all (h : s.All P) (hierarchy : Hierarchy) : TableState.All P (methodTables s hierarchy) := by
  unfold methodTables
  refine List.foldlRecOn hierarchy.keys _ (motive := TableState.All P) (fun cls table ht => by simp at ht) ?_
  intro made hmade cls _
  exact (methodTable_all h hierarchy _ cls { made } hmade).2

theorem enter_all (h : s.All P) (cls : String) {name : String} {slot : MethodSlot}
    (hslot : ∀ id, slot.id? = some id → P id) : (enter cls s (name, slot)).All P := by
  cases slot with
  | own id => exact h
  | inherited id =>
    change (s.inherit cls name id).All P
    rw [Symbols.inherit_eq]
    split
    · exact h
    · exact h.setFunction cls name (hslot id rfl)
  | ambiguous => exact ⟨h.modules, h.classes, h.functions⟩

/-- Inheritance enters no id that the tables of names did not hold. -/
theorem mergeInherited_all (h : s.All P) (hierarchy : Hierarchy) : (hierarchy.mergeInherited s).All P := by
  unfold mergeInherited
  refine List.foldlRecOn (methodTables s hierarchy).toList _ (motive := Symbols.All P) h ?_
  rintro s' hs' ⟨cls, table⟩ hmem
  have htable := methodTables_all h hierarchy cls table (TreeMap.mem_toList_iff_getElem?_eq_some.mp hmem)
  refine List.foldlRecOn table.toList _ (motive := Symbols.All P) hs' ?_
  rintro s'' hs'' ⟨name, slot⟩ hslot
  exact enter_all hs'' cls (htable name slot (TreeMap.mem_toList_iff_getElem?_eq_some.mp hslot))

end Hierarchy

end

end ProgramGraph
