import ProgramGraph.Proofs.Resolution.Merge

/-! The tables of names told by their history. Whatever is entered, declared by outlines or inherited, in whatever
    order: a key keeps the value that was entered for it first, what is refused leaves no trace, and the sets of
    wildcards and of ambiguous names hold what was ever put into them. -/

namespace ProgramGraph
open Std

namespace Symbols

/-! ### Keys and values -/

/-- The keys of the tables that keep the first value. -/
inductive Key
  | module (name : String)
  | classDef (qualname : String)
  | function (owner name : String)
  | binding (importer localName : String)
  deriving DecidableEq, Repr

inductive Value
  | node (id : NodeId)
  | binding (b : Binding)
  deriving DecidableEq, Repr

namespace Key

def text : Key → String
  | module name => name
  | classDef qualname => qualname
  | function owner name => Dotted.qualify owner name
  | binding importer localName => Dotted.qualify importer localName

end Key

namespace Value

/-- Nodes agree if they are one, bindings if they differ in nothing but the line. -/
def agrees : Value → Value → Bool
  | node a, node b => a == b
  | binding a, binding b => a.agrees b
  | _, _ => false

def text : Value → String
  | node id => id
  | binding b => b.text

end Value

def get? (s : Symbols) : Key → Option Value
  | .module name => (s.module? name).map .node
  | .classDef qualname => (s.class? qualname).map .node
  | .function owner name => (s.function? owner name).map .node
  | .binding importer localName => (s.binding? importer localName).map .binding

/-! ### Writes -/

/-- A value for a key. -/
inductive Entry
  | module (name : String) (id : NodeId)
  | classDef (qualname : String) (id : NodeId)
  | function (owner name : String) (id : NodeId)
  | binding (importer localName : String) (b : Binding)
  deriving DecidableEq, Repr

namespace Entry

def key : Entry → Key
  | module name _ => .module name
  | classDef qualname _ => .classDef qualname
  | function owner name _ => .function owner name
  | binding importer localName _ => .binding importer localName

def value : Entry → Value
  | module _ id | classDef _ id | function _ _ id => .node id
  | binding _ _ b => .binding b

def add : Entry → Symbols → Except Problem Symbols
  | module name id, s => s.addModule name id
  | classDef qualname id, s => s.addClass qualname id
  | function owner name id, s => s.addFunction owner name id
  | binding importer localName b, s => s.addImport importer localName b

/-- Enters the value, whatever was there. -/
def put : Entry → Symbols → Symbols
  | module name id, s => { s with modules := s.modules.insert name id }
  | classDef qualname id, s => { s with classes := s.classes.insert qualname id }
  | function owner name id, s => s.setFunction owner name id
  | binding importer localName b, s =>
    { s with imports := s.imports.insert importer ((s.importsOf importer).insert localName b) }

/-- The problem of an entry whose key has a value. -/
def problem (e : Entry) (kept : Value) : Problem :=
  .duplicateSymbol e.key.text kept.text e.value.text

end Entry

/-- What can be written into the tables. -/
inductive Write
  | entry (e : Entry)
  | wildcard (module target : String)
  | ambiguity (cls name : String)
  deriving DecidableEq, Repr

namespace Write

def add : Write → Symbols → Except Problem Symbols
  | entry e, s => e.add s
  | wildcard module target, s => .ok (s.addWildcard module target)
  | ambiguity cls name, s => .ok (s.markAmbiguous cls name)

/-- The value that a write has for a key. -/
def value? (key : Key) : Write → Option Value
  | entry e => if e.key = key then some e.value else none
  | wildcard .. | ambiguity .. => none

/-- The problem of a write, where the keys have these values. -/
def refusal? (look : Key → Option Value) : Write → Option Problem
  | entry e => (look e.key).bind fun kept => if kept.agrees e.value then none else some (e.problem kept)
  | wildcard .. | ambiguity .. => none

end Write

/-- The write of an import statement for one of its names. -/
def importWrite (module : String) (entry : ImportEntry) : Write :=
  match entry.localName with
  | some localName => .entry (.binding module localName ⟨entry.target, entry.module, entry.line⟩)
  | none => .wildcard module entry.module

/-- The writes of an outline in their order. -/
def writes (o : Outline) : List Write :=
  [.entry (.module o.module o.moduleId)] ++
    o.imports.map (importWrite o.module) ++
    o.classes.map (fun c => .entry (.classDef c.qualname c.id)) ++
    o.functions.map (fun f => .entry (.function f.owner f.name f.id))

/-! ### Operations -/

inductive Operation
  | write (w : Write)
  | inherit (cls name : String) (id : NodeId)
  | register (o : Outline)

inductive Answer
  | done
  | refused (p : Problem)
  | inherited (added : Bool)
  | registered (problems : List Problem)
  deriving DecidableEq, Repr

namespace Operation

def apply (s : Symbols) : Operation → Symbols × Answer
  | write w =>
    match w.add s with
    | .ok s' => (s', .done)
    | .error p => (s, .refused p)
  | inherit cls name id =>
    let (s', added) := s.addInherited cls name id
    (s', .inherited added)
  | register o =>
    let (s', problems) := s.register o
    (s', .registered problems.toList)

def writes : Operation → List Write
  | write w => [w]
  | inherit cls name id => [.entry (.function cls name id)]
  | register o => Symbols.writes o

end Operation

/-- The tables after operations on empty ones. -/
def run (ops : List Operation) : Symbols :=
  ops.foldl (fun s op => (op.apply s).1) {}

/-- All that operations write, refused or not, in its order. -/
def log (ops : List Operation) : List Write :=
  ops.flatMap Operation.writes

/-- The value of the first write for a key. -/
def first? (log : List Write) (key : Key) : Option Value :=
  log.findSome? (Write.value? key)

/-- The problems of writes after others: each stands for a write whose key has another value by then. -/
def refusals (log : List Write) : List Write → List Problem
  | [] => []
  | w :: rest => (w.refusal? (first? log)).toList ++ refusals (log ++ [w]) rest

/-- The set that a table has for a key, in its order. -/
def members? (table : TreeMap String (TreeSet String)) (key : String) : Option (List String) :=
  table[key]?.map TreeSet.toList

/-- No look-up tells these tables apart. -/
structure Alike (s s' : Symbols) : Prop where
  imports : s'.imports = s.imports
  modules : s'.modules = s.modules
  classes : s'.classes = s.classes
  functions : s'.functions = s.functions
  wildcards : ∀ module, members? s'.wildcards module = members? s.wildcards module
  ambiguous : ∀ cls, members? s'.ambiguous cls = members? s.ambiguous cls

/-- What is in the tables after operations, what the next one answers and what it changes. -/
structure FirstWins (ops : List Operation) : Prop where
  /-- A key has the value of the first write for it. -/
  kept : ∀ key, (run ops).get? key = first? (log ops) key
  /-- An entry is refused exactly if its key has a value that does not agree with it. -/
  refused_iff : ∀ (e : Entry) p, ((Operation.write (.entry e)).apply (run ops)).2 = .refused p ↔
    ∃ kept, (run ops).get? e.key = some kept ∧ kept.agrees e.value = false ∧ p = e.problem kept
  /-- What is refused changes nothing. -/
  refused : ∀ (op : Operation) p, (op.apply (run ops)).2 = .refused p → run (ops ++ [op]) = run ops
  /-- A method is inherited exactly if the class has no function of its name. -/
  inherited : ∀ cls name id,
    ((Operation.inherit cls name id).apply (run ops)).2 = .inherited ((run ops).function? cls name).isNone
  wildcards : ∀ module target, target ∈ (run ops).wildcardsOf module ↔ .wildcard module target ∈ log ops
  ambiguous : ∀ cls name, (run ops).isAmbiguous cls name = true ↔ .ambiguity cls name ∈ log ops
  wildcards_grow : ∀ later module, ∀ target ∈ (run ops).wildcardsOf module, target ∈ (run (ops ++ later)).wildcardsOf module
  ambiguous_grows : ∀ later cls name, (run ops).isAmbiguous cls name = true → (run (ops ++ later)).isAmbiguous cls name = true
  /-- An outline answers with the problems of its refused entries, in their order. -/
  registered : ∀ o, ((Operation.register o).apply (run ops)).2 = .registered (refusals (log ops) (writes o))
  /-- An operation that was made before, as the registration of an outline, changes no look-up. -/
  again : ∀ op ∈ ops, Alike (run ops) (run (ops ++ [op]))

/-! ### One entry -/

theorem binding?_insert (s : Symbols) (importer localName : String) (b : Binding) (importer' localName' : String) :
    binding? { s with imports := s.imports.insert importer ((s.importsOf importer).insert localName b) }
        importer' localName' =
      if importer = importer' ∧ localName = localName' then some b else s.binding? importer' localName' := by
  unfold binding? importsOf
  by_cases same : importer = importer'
  · subst same
    simp [TreeMap.getElem?_insert]
  · simp [TreeMap.getD_insert, same]

theorem get?_put (s : Symbols) (e : Entry) (key : Key) :
    (e.put s).get? key = if e.key = key then some e.value else s.get? key := by
  -- Each table is written and read at its own keys; a key of another table gives what it gave.
  cases e with
  | module name id =>
    cases key with
    | module name' =>
      simp only [Entry.put, Entry.key, Entry.value, get?, module?, TreeMap.getElem?_insert, Std.compare_eq_iff_eq,
        Key.module.injEq, apply_ite (Option.map Value.node), Option.map_some]
    | classDef | function | binding => rfl
  | classDef qualname id =>
    cases key with
    | classDef qualname' =>
      simp only [Entry.put, Entry.key, Entry.value, get?, class?, TreeMap.getElem?_insert, Std.compare_eq_iff_eq,
        Key.classDef.injEq, apply_ite (Option.map Value.node), Option.map_some]
    | module | function | binding => rfl
  | function owner name id =>
    cases key with
    | function owner' name' =>
      simp only [Entry.put, Entry.key, Entry.value, get?, function?_setFunction, Key.function.injEq,
        apply_ite (Option.map Value.node), Option.map_some]
    | module | classDef | binding => rfl
  | binding importer localName b =>
    cases key with
    | binding importer' localName' =>
      simp only [Entry.put, Entry.key, Entry.value, get?, binding?_insert, Key.binding.injEq,
        apply_ite (Option.map Value.binding), Option.map_some]
    | module | classDef | function => rfl

theorem wildcardsOf_put (s : Symbols) (e : Entry) : (e.put s).wildcardsOf = s.wildcardsOf := by
  cases e <;> rfl

theorem isAmbiguous_put (s : Symbols) (e : Entry) : (e.put s).isAmbiguous = s.isAmbiguous := by
  cases e <;> rfl

/-- All entries are added by one rule. -/
theorem add_eq (s : Symbols) (e : Entry) :
    e.add s = match s.get? e.key with
      | some kept => if kept.agrees e.value then .ok s else .error (e.problem kept)
      | none => .ok (e.put s) := by
  cases e with
  | module name id =>
    simp only [Entry.add, addModule, get?, Entry.key]
    cases s.module? name with
    | none => rfl
    | some kept => simp [Value.agrees, Entry.value, Entry.problem, Entry.key, Key.text, Value.text]
  | classDef qualname id =>
    simp only [Entry.add, addClass, get?, Entry.key]
    cases s.class? qualname with
    | none => rfl
    | some kept => simp [Value.agrees, Entry.value, Entry.problem, Entry.key, Key.text, Value.text]
  | function owner name id =>
    simp only [Entry.add, addFunction, get?, Entry.key]
    cases s.function? owner name with
    | none => rfl
    | some kept => simp [Value.agrees, Entry.value, Entry.problem, Entry.key, Key.text, Value.text]
  | binding importer localName b =>
    simp only [Entry.add, addImport, get?, Entry.key]
    cases s.binding? importer localName <;> rfl

theorem addInherited_eq (s : Symbols) (cls name : String) (id : NodeId) :
    s.addInherited cls name id =
      match s.get? (.function cls name) with
      | some _ => (s, false)
      | none => ((Entry.function cls name id).put s, true) := by
  simp only [addInherited, get?]
  cases s.function? cls name <;> rfl

/-! ### One write -/

/-- What a write changes: a key without a value takes its value, a set its member. -/
structure Takes (w : Write) (s s' : Symbols) : Prop where
  values : ∀ key, s'.get? key = (s.get? key).or (w.value? key)
  wildcards : ∀ module target, target ∈ s'.wildcardsOf module ↔ target ∈ s.wildcardsOf module ∨ w = .wildcard module target
  ambiguous : ∀ cls name, s'.isAmbiguous cls name = true ↔ s.isAmbiguous cls name = true ∨ w = .ambiguity cls name

section
variable {s s' : Symbols} {w : Write} {e : Entry}

theorem takes_put (free : s.get? e.key = none) : Takes (.entry e) s (e.put s) where
  values key := by
    rw [get?_put]
    split
    · rename_i same
      rw [← same, free]
      exact (if_pos rfl).symm
    · rename_i other
      exact (Option.or_none.symm.trans (congrArg _ (if_neg other).symm))
  wildcards module target := by simp [wildcardsOf_put]
  ambiguous cls name := by simp [isAmbiguous_put]

theorem takes_held {kept : Value} (held : s.get? e.key = some kept) : Takes (.entry e) s s where
  values key := by
    by_cases same : e.key = key
    · rw [← same, held]
      rfl
    · exact (Option.or_none.symm.trans (congrArg _ (if_neg same).symm))
  wildcards module target := by simp
  ambiguous cls name := by simp

theorem takes_wildcard (s : Symbols) (module target : String) :
    Takes (.wildcard module target) s (s.addWildcard module target) where
  values key := by
    cases key <;> exact Option.or_none.symm
  wildcards module' target' := by
    unfold addWildcard wildcardsOf
    by_cases same : module = module'
    · subst same
      simp only [TreeMap.getD_insert_self, TreeSet.mem_insert, Std.compare_eq_iff_eq, Write.wildcard.injEq, true_and]
      exact or_comm
    · simp [TreeMap.getD_insert, same]
  ambiguous cls name := by simp; rfl

theorem takes_ambiguity (s : Symbols) (cls name : String) :
    Takes (.ambiguity cls name) s (s.markAmbiguous cls name) where
  values key := by
    cases key <;> exact Option.or_none.symm
  wildcards module target := by simp; rfl
  ambiguous cls' name' := by
    rw [isAmbiguous_markAmbiguous]
    simp [or_comm]

/-- A write is refused and changes nothing, or it is taken. -/
theorem write_cases (s : Symbols) (w : Write) :
    (∃ p, w.refusal? s.get? = some p ∧ w.add s = .error p ∧ Takes w s s) ∨
      (w.refusal? s.get? = none ∧ ∃ s', w.add s = .ok s' ∧ Takes w s s') := by
  cases w with
  | entry e =>
    simp only [Write.refusal?, Write.add, add_eq]
    cases held : s.get? e.key with
    | none => exact Or.inr ⟨rfl, _, rfl, takes_put held⟩
    | some kept =>
      cases agree : kept.agrees e.value with
      | true => exact Or.inr ⟨by simp [agree], s, by simp [agree], takes_held held⟩
      | false => exact Or.inl ⟨e.problem kept, by simp [agree], by simp [agree], takes_held held⟩
  | wildcard module target => exact Or.inr ⟨rfl, _, rfl, takes_wildcard s module target⟩
  | ambiguity cls name => exact Or.inr ⟨rfl, _, rfl, takes_ambiguity s cls name⟩

end

/-! ### The history -/

/-- The tables hold what the history tells. -/
structure Tells (log : List Write) (s : Symbols) : Prop where
  values : ∀ key, s.get? key = first? log key
  wildcards : ∀ module target, target ∈ s.wildcardsOf module ↔ .wildcard module target ∈ log
  ambiguous : ∀ cls name, s.isAmbiguous cls name = true ↔ .ambiguity cls name ∈ log

section
variable {s s' : Symbols} {log : List Write} {w : Write}

theorem tells_nothing : Tells [] {} where
  values key := by cases key <;> rfl
  wildcards module target := by simp [wildcardsOf]
  ambiguous cls name := by simp [isAmbiguous]

theorem Tells.take (tells : Tells log s) (takes : Takes w s s') : Tells (log ++ [w]) s' where
  values key := by
    rw [takes.values, tells.values]
    unfold first?
    rw [List.findSome?_append, List.findSome?_singleton]
  wildcards module target := by
    rw [takes.wildcards, tells.wildcards, List.mem_append, List.mem_singleton, eq_comm (a := w)]
  ambiguous cls name := by
    rw [takes.ambiguous, tells.ambiguous, List.mem_append, List.mem_singleton, eq_comm (a := w)]

theorem Tells.look (tells : Tells log s) : s.get? = first? log :=
  funext tells.values

theorem attempt_write (state : Symbols × Array Problem) (w : Write) :
    Takes w state.1 (attempt state w.add).1 ∧
      (attempt state w.add).2.toList = state.2.toList ++ (w.refusal? state.1.get?).toList := by
  unfold attempt
  rcases write_cases state.1 w with ⟨p, refusal, refused, takes⟩ | ⟨refusal, s', added, takes⟩
  · rw [refused, refusal]
    exact ⟨takes, Array.toList_push⟩
  · rw [added, refusal]
    exact ⟨takes, (List.append_nil _).symm⟩

/-- Declarations are told by their writes, and the problems are those of the refused ones. -/
theorem foldl_attempt_tells (ws : List Write) {log : List Write} (state : Symbols × Array Problem)
    (tells : Tells log state.1) :
    Tells (log ++ ws) ((ws.map Write.add).foldl attempt state).1 ∧
      ((ws.map Write.add).foldl attempt state).2.toList = state.2.toList ++ refusals log ws := by
  induction ws generalizing log state with
  | nil =>
    rw [List.append_nil]
    exact ⟨tells, (List.append_nil _).symm⟩
  | cons w ws ih =>
    obtain ⟨takes, problems⟩ := attempt_write state w
    obtain ⟨told, rest⟩ := ih _ (tells.take takes)
    rw [List.append_assoc] at told
    refine ⟨told, rest.trans ?_⟩
    rw [problems, tells.look, List.append_assoc]
    rfl

theorem addEntry_eq (module : String) (entry : ImportEntry) :
    addEntry module entry = (importWrite module entry).add := by
  funext s
  unfold addEntry importWrite
  cases entry.localName <;> rfl

theorem declarations_eq (o : Outline) : declarations o = (writes o).map Write.add := by
  simp only [declarations, writes, List.map_append, List.map_cons, List.map_nil, List.map_map]
  congr 3
  exact List.map_congr_left fun entry _ => addEntry_eq o.module entry

theorem register_tells (o : Outline) (tells : Tells log s) :
    Tells (log ++ writes o) (s.register o).1 ∧ (s.register o).2.toList = refusals log (writes o) := by
  have told := foldl_attempt_tells (writes o) (s, #[]) tells
  rwa [← declarations_eq] at told

theorem apply_refused {p : Problem} (refused : w.add s = .error p) : (Operation.write w).apply s = (s, .refused p) := by
  simp only [Operation.apply, refused]

theorem apply_added (added : w.add s = .ok s') : (Operation.write w).apply s = (s', .done) := by
  simp only [Operation.apply, added]

theorem Operation.tells_apply (op : Operation) (tells : Tells log s) : Tells (log ++ op.writes) (op.apply s).1 := by
  cases op with
  | write w =>
    refine tells.take ?_
    rcases write_cases s w with ⟨p, -, refused, takes⟩ | ⟨-, s', added, takes⟩
    · rwa [apply_refused refused]
    · rwa [apply_added added]
  | inherit cls name id =>
    refine tells.take ?_
    change Takes _ s (s.addInherited cls name id).1
    rw [addInherited_eq]
    cases held : s.get? (.function cls name) with
    | none => exact takes_put held
    | some kept => exact takes_held held
  | register o => exact (register_tells o tells).1

theorem tells_foldl (ops : List Operation) (tells : Tells log s) :
    Tells (log ++ Symbols.log ops) (ops.foldl (fun s op => (op.apply s).1) s) := by
  induction ops generalizing log s with
  | nil =>
    unfold Symbols.log
    rwa [List.flatMap_nil, List.append_nil]
  | cons op ops ih =>
    have told := ih (op.tells_apply tells)
    rwa [List.append_assoc] at told

theorem tells_run (ops : List Operation) : Tells (Symbols.log ops) (run ops) :=
  tells_foldl ops tells_nothing

theorem run_concat (ops : List Operation) (op : Operation) : run (ops ++ [op]) = (op.apply (run ops)).1 := by
  unfold run
  rw [List.foldl_append]
  rfl

end

/-! ### Writing again -/

/-- What a write would enter is there already. -/
def Stands (s : Symbols) : Write → Prop
  | .entry e => ∃ kept, s.get? e.key = some kept
  | .wildcard module target => target ∈ s.wildcardsOf module
  | .ambiguity cls name => s.isAmbiguous cls name = true

theorem Alike.refl (s : Symbols) : Alike s s :=
  ⟨rfl, rfl, rfl, rfl, fun _ => rfl, fun _ => rfl⟩

section
variable {s s' s'' : Symbols} {log : List Write} {w : Write}

theorem Alike.trans (first : Alike s s') (second : Alike s' s'') : Alike s s'' where
  imports := second.imports.trans first.imports
  modules := second.modules.trans first.modules
  classes := second.classes.trans first.classes
  functions := second.functions.trans first.functions
  wildcards module := (second.wildcards module).trans (first.wildcards module)
  ambiguous cls := (second.ambiguous cls).trans (first.ambiguous cls)

theorem Alike.get? (alike : Alike s s') (key : Key) : s'.get? key = s.get? key := by
  cases key with
  | module name => simp only [Symbols.get?, module?, alike.modules]
  | classDef qualname => simp only [Symbols.get?, class?, alike.classes]
  | function owner name => simp only [Symbols.get?, function?, functionsOf, alike.functions]
  | binding importer localName => simp only [Symbols.get?, binding?, importsOf, alike.imports]

theorem mem_getD_iff {table : TreeMap String (TreeSet String)} {key member : String} :
    member ∈ table.getD key ∅ ↔ ∃ members, members? table key = some members ∧ member ∈ members := by
  unfold members?
  rw [TreeMap.getD_eq_getD_getElem?]
  cases table[key]? with
  | none => simp
  | some set => simp [TreeSet.mem_toList]

/-- A member that is put into its set again. -/
theorem members?_insert {table : TreeMap String (TreeSet String)} {key member : String}
    (here : member ∈ table.getD key ∅) (key' : String) :
    members? (table.insert key ((table.getD key ∅).insert member)) key' = members? table key' := by
  have same : ((table.getD key ∅).insert member).toList = (table.getD key ∅).toList := by
    refine TreeSet.Equiv.toList_eq (.of_forall_mem_iff fun other => ?_)
    rw [TreeSet.mem_insert, Std.compare_eq_iff_eq]
    exact or_iff_right_of_imp fun same => same ▸ here
  obtain ⟨members, listed, -⟩ := mem_getD_iff.mp here
  unfold members? at listed ⊢
  rw [TreeMap.getElem?_insert]
  split
  · rename_i key_eq
    obtain rfl := Std.compare_eq_iff_eq.mp key_eq
    rw [Option.map_some, same, TreeMap.getD_eq_getD_getElem?]
    cases held : table[key]? with
    | none => simp [held] at listed
    | some set => rfl
  · rfl

theorem Stands.congr (stands : Stands s w) (alike : Alike s s') : Stands s' w := by
  cases w with
  | entry e =>
    obtain ⟨kept, held⟩ := stands
    exact ⟨kept, (alike.get? e.key).trans held⟩
  | wildcard module target =>
    obtain ⟨members, listed, member⟩ := mem_getD_iff.mp stands
    exact mem_getD_iff.mpr ⟨members, (alike.wildcards module).trans listed, member⟩
  | ambiguity cls name =>
    obtain ⟨members, listed, member⟩ := mem_getD_iff.mp stands
    exact mem_getD_iff.mpr ⟨members, (alike.ambiguous cls).trans listed, member⟩

theorem Stands.add (stands : Stands s w) :
    (∃ p, w.add s = .error p) ∨ ∃ s', w.add s = .ok s' ∧ Alike s s' := by
  cases w with
  | entry e =>
    obtain ⟨kept, held⟩ := stands
    simp only [Write.add, add_eq, held]
    split
    · exact Or.inr ⟨s, rfl, .refl s⟩
    · exact Or.inl ⟨_, rfl⟩
  | wildcard module target =>
    exact Or.inr ⟨_, rfl, rfl, rfl, rfl, rfl, members?_insert stands, fun _ => rfl⟩
  | ambiguity cls name =>
    exact Or.inr ⟨_, rfl, rfl, rfl, rfl, rfl, fun _ => rfl, members?_insert stands⟩

theorem foldl_attempt_alike (ws : List Write) (state : Symbols × Array Problem)
    (all : ∀ w ∈ ws, Stands state.1 w) : Alike state.1 ((ws.map Write.add).foldl attempt state).1 := by
  induction ws generalizing state with
  | nil => exact .refl state.1
  | cons w ws ih =>
    obtain ⟨stands, rest⟩ := List.forall_mem_cons.mp all
    have step : Alike state.1 (attempt state w.add).1 := by
      rcases stands.add with ⟨p, refused⟩ | ⟨s', added, alike⟩
      · rw [attempt_error refused]
        exact .refl state.1
      · rwa [attempt_ok added]
    exact step.trans (ih _ fun w member => (rest w member).congr step)

theorem Operation.alike_apply (op : Operation) (all : ∀ w ∈ op.writes, Stands s w) : Alike s (op.apply s).1 := by
  cases op with
  | write w =>
    rcases (all w (List.mem_singleton_self w)).add with ⟨p, refused⟩ | ⟨s', added, alike⟩
    · rw [apply_refused refused]
      exact .refl s
    · rwa [apply_added added]
  | inherit cls name id =>
    obtain ⟨kept, held⟩ := all _ (List.mem_singleton_self _)
    change Alike s (s.addInherited cls name id).1
    rw [addInherited_eq]
    change s.get? (.function cls name) = some kept at held
    rw [held]
    exact .refl s
  | register o =>
    change Alike s (s.register o).1
    unfold Symbols.register
    rw [declarations_eq]
    exact foldl_attempt_alike (Symbols.writes o) (s, #[]) all

theorem Tells.stands (tells : Tells log s) (member : w ∈ log) : Stands s w := by
  cases w with
  | entry e =>
    refine Option.isSome_iff_exists.mp ?_
    rw [tells.values]
    exact List.findSome?_isSome_iff.mpr ⟨.entry e, member, by simp [Write.value?]⟩
  | wildcard module target => exact (tells.wildcards module target).mpr member
  | ambiguity cls name => exact (tells.ambiguous cls name).mpr member

end

/-! ### All operations -/

theorem apply_eq_refused {s : Symbols} {op : Operation} {p : Problem} (refused : (op.apply s).2 = .refused p) :
    (op.apply s).1 = s := by
  cases op with
  | write w =>
    cases result : w.add s with
    | ok s' => simp [apply_added result] at refused
    | error p' => rw [apply_refused result]
  | inherit | register => nomatch refused

theorem apply_entry_refused_iff (s : Symbols) (e : Entry) (p : Problem) :
    ((Operation.write (.entry e)).apply s).2 = .refused p ↔
      ∃ kept, s.get? e.key = some kept ∧ kept.agrees e.value = false ∧ p = e.problem kept := by
  have rule : (Write.entry e).add s = _ := add_eq s e
  cases held : s.get? e.key with
  | none =>
    rw [held] at rule
    rw [apply_added rule]
    simp
  | some kept =>
    rw [held] at rule
    cases agree : kept.agrees e.value with
    | true =>
      simp only [agree, if_true] at rule
      rw [apply_added rule]
      simp [agree]
    | false =>
      simp only [agree, Bool.false_eq_true, if_false] at rule
      rw [apply_refused rule]
      exact ⟨fun same => ⟨kept, rfl, agree, (Answer.refused.inj same).symm⟩,
        fun ⟨_, kept_eq, _, same⟩ => by rw [same, Option.some.inj kept_eq]⟩

theorem log_append (ops later : List Operation) : log (ops ++ later) = log ops ++ log later :=
  List.flatMap_append ..

/-- For every sequence of operations: the first write for a key is the one that counts. -/
theorem first_write_wins (ops : List Operation) : FirstWins ops where
  kept := (tells_run ops).values
  refused_iff := apply_entry_refused_iff (run ops)
  refused op p refused := (run_concat ops op).trans (apply_eq_refused refused)
  inherited cls name id := by
    simp only [Operation.apply, addInherited]
    cases (run ops).function? cls name <;> rfl
  wildcards := (tells_run ops).wildcards
  ambiguous := (tells_run ops).ambiguous
  wildcards_grow later module target member := by
    rw [(tells_run ops).wildcards] at member
    rw [(tells_run _).wildcards, log_append]
    exact List.mem_append_left _ member
  ambiguous_grows later cls name marked := by
    rw [(tells_run ops).ambiguous] at marked
    rw [(tells_run _).ambiguous, log_append]
    exact List.mem_append_left _ marked
  registered o := congrArg Answer.registered (register_tells o (tells_run ops)).2
  -- What was written before stands, so the same operation finds all of it in place.
  again op member := by
    rw [run_concat]
    refine op.alike_apply fun w written => (tells_run ops).stands ?_
    exact List.mem_flatMap.mpr ⟨op, member, written⟩

theorem first_write_wins_alias :
    let os : Operation := .write (.entry (.binding "c" "x" ⟨"os", "os", 1⟩))
    let sys : Operation := .write (.entry (.binding "c" "x" ⟨"sys", "sys", 2⟩))
    (sys.apply (run [os])).2 = .refused (.duplicateSymbol "c.x" "import os" "import sys") ∧
      run ([os] ++ [sys]) = run [os] ∧ Alike (run [os, sys]) (run ([os, sys] ++ [os])) := by
  intro os sys
  have refused : (sys.apply (run [os])).2 = .refused (.duplicateSymbol "c.x" "import os" "import sys") := by
    decide +kernel
  exact ⟨refused, (first_write_wins [os]).refused sys _ refused,
    (first_write_wins [os, sys]).again os (List.mem_cons_self ..)⟩

end Symbols

end ProgramGraph
