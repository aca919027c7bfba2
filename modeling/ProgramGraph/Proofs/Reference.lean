import ProgramGraph.Proofs.Dotted
import ProgramGraph.Proofs.Symbols
import ProgramGraph.Proofs.Text.Clip

/-! What names stand for. Whatever a name stands for in the project is in the tables of names, and what it stands
    for outside of the project has the origin that the classifier gives it (`Symbols.Holds`), whether the name is
    looked up by its full path, declared by the module, or imported. A full path leads outside of the project where
    none of the tables knows it (`Symbols.Lacks`). The beginning of a name that an import binds, and the module that a
    path is inside of, are the longest that the tables know (`Symbols.longest_beginning_is_found`). -/

namespace ProgramGraph
open Std

/-- A name inside another starts with the first segment of that one. -/
theorem Dotted.head_qualify (owner member : String) : head (qualify owner member) = head owner := by
  have cut : Text.splitAt '.' (qualify owner member) = Text.splitAt '.' owner ++ Text.splitAt '.' member := by
    unfold Text.splitAt qualify
    rw [String.toList_append, String.toList_append, List.append_assoc, ← List.map_append]
    exact congrArg _ (List.splitOn_append_cons_self owner.toList member.toList)
  have any : Text.splitAt '.' owner ≠ [] := by simp [Text.splitAt]
  obtain ⟨first, others, owners⟩ := List.exists_cons_of_ne_nil any
  unfold head
  rw [cut, owners]
  rfl

/-- The id of what is declared in the project. -/
def Referent.id? : Referent → Option NodeId
  | «class» _ id | function id | module _ id => some id
  | member _ | external .. | unknown => none

namespace Symbols

/-- `id` is the id of a module, of a class or of a function. -/
def Names (s : Symbols) (id : NodeId) : Prop :=
  (∃ name, s.module? name = some id) ∨ (∃ qualname, s.class? qualname = some id) ∨
    ∃ owner name, s.function? owner name = some id

theorem All.named {P : NodeId → Prop} {s : Symbols} (all : s.All P) {id : NodeId} (named : s.Names id) : P id := by
  rcases named with ⟨_, found⟩ | ⟨_, found⟩ | ⟨_, _, found⟩
  · exact all.modules found
  · exact all.classes found
  · exact all.functions found

/-- The tables of names hold what a name stands for; what is outside of the project comes from where its first
    segment does. -/
def Holds (s : Symbols) (c : Classifier) : Referent → Prop
  | .class qualname id => s.class? qualname = some id
  | .function id => ∃ owner name, s.function? owner name = some id
  | .module name id => s.module? name = some id
  | .member module => ∃ id, s.module? module = some id
  | .external module origin => origin = c.origin (Dotted.head module)
  | .unknown => True

/-- What is declared in the project is named. -/
theorem Holds.named {s : Symbols} {c : Classifier} {r : Referent} {id : NodeId} (holds : s.Holds c r)
    (given : r.id? = some id) : s.Names id := by
  cases r with
  | «class» qualname id =>
    cases given
    exact Or.inr (Or.inl ⟨qualname, holds⟩)
  | function id =>
    cases given
    exact Or.inr (Or.inr holds)
  | module name id =>
    cases given
    exact Or.inl ⟨name, holds⟩
  | _ => cases given

/-- A path that is no class, module or function of the project and is not inside a module of it. -/
structure Lacks (s : Symbols) (path : String) : Prop where
  cls : s.class? path = none
  module : s.module? path = none
  function : s.functionAt? path = none
  inside : s.enclosingModule? path = none

instance (s : Symbols) (path : String) : Decidable (s.Lacks path) :=
  decidable_of_iff (s.class? path = none ∧ s.module? path = none ∧ s.functionAt? path = none ∧
      s.enclosingModule? path = none)
    ⟨fun ⟨cls, module, function, inside⟩ => ⟨cls, module, function, inside⟩,
      fun ⟨cls, module, function, inside⟩ => ⟨cls, module, function, inside⟩⟩

section
variable (s : Symbols) (c : Classifier)

theorem lookup_of_lacks {path : String} (lacks : s.Lacks path) (imported : String) :
    s.lookup c path imported = .external imported (c.origin (Dotted.head imported)) := by
  unfold lookup
  rw [lacks.cls, lacks.module, lacks.function, lacks.inside]

theorem holds_lookup (path imported : String) : s.Holds c (s.lookup c path imported) := by
  unfold lookup
  split
  · rename_i here
    exact here
  split
  · rename_i here
    exact here
  split
  · rename_i here
    obtain ⟨⟨owner, name⟩, -, found⟩ := Option.bind_eq_some_iff.mp here
    exact ⟨owner, name, found⟩
  split
  · rename_i here
    exact ⟨_, (Dotted.longest?_eq_some here).2⟩
  · rfl

variable {s c}

theorem holds_declared? {module name : String} {r : Referent} (found : s.declared? module name = some r) :
    s.Holds c r := by
  unfold declared? at found
  simp only at found
  split at found
  · rename_i here
    cases found
    exact here
  · split at found
    · cases found
    · obtain ⟨id, here, rfl⟩ := Option.map_eq_some_iff.mp found
      exact ⟨module, name, here⟩

theorem holds_fromWildcards? {module name : String} {r : Referent} (found : s.fromWildcards? c module name = some r) :
    s.Holds c r := by
  obtain ⟨source, -, here⟩ := List.exists_of_findSome?_eq_some found
  simp only at here
  split at here
  · cases here
    exact s.holds_lookup c _ _
  · cases here

variable (s c)

theorem holds_resolve (module name : String) : s.Holds c (s.resolve c module name) := by
  unfold resolve
  split
  · exact s.holds_lookup c _ _
  · cases given : (s.declared? module name).or (s.fromWildcards? c module name) with
    | none => trivial
    | some r =>
      rcases Option.or_eq_some_iff.mp given with declared | ⟨-, starred⟩
      · exact holds_declared? declared
      · exact holds_fromWildcards? starred

variable {s c}

/-- A name that stands for a class stands for the one that the names of the project hold. -/
theorem resolve_class {module name qualname : String} {id : NodeId} (found : s.resolve c module name = .class qualname id) :
    s.class? qualname = some id := by
  have holds := s.holds_resolve c module name
  rwa [found] at holds

end

/-! ### Longest beginnings -/

theorem expand_append (localName rest : String) (binding : Binding) :
    expand localName binding (localName ++ rest) = binding.target ++ rest := by
  unfold expand
  rw [String.toList_append, ← String.length_toList, List.drop_left, String.ofList_toList]

/-- The searches for the import that binds a name and for the module that a path is inside of end, always with the
    longest beginning that the table knows. A bound name is cut at the end of that beginning, where no character is cut
    and nothing or a dot follows, and what follows comes behind the path that the import stands for. -/
theorem longest_beginning_is_found (s : Symbols) (c : Classifier) (module name : String) :
    ((∀ answer, Dotted.Searches (s.binding? module) name answer ↔ answer = s.bindingFor? module name) ∧
      Dotted.Longest (s.binding? module) name (s.bindingFor? module name)) ∧
    ((∀ answer, Dotted.Searches s.module? name answer ↔ answer = s.enclosingModule? name) ∧
      Dotted.Longest s.module? name (s.enclosingModule? name)) ∧
    ∀ (localName : String) (binding : Binding), s.bindingFor? module name = some (localName, binding) →
      ∃ rest, Text.cutAt? localName.utf8ByteSize name = some (localName, rest) ∧
        (rest = "" ∨ ∃ more, rest = "." ++ more) ∧
        s.resolve c module name = s.lookup c (binding.target ++ rest) binding.module := by
  refine ⟨⟨fun _ => Dotted.searches_iff, Dotted.longest_longest? _ _⟩,
    ⟨fun _ => Dotted.searches_iff, Dotted.longest_longest? _ _⟩, fun localName binding found => ?_⟩
  have reached {rest : String} (split : name = localName ++ rest) :
      s.resolve c module name = s.lookup c (binding.target ++ rest) binding.module := by
    unfold resolve
    rw [found, split]
    exact congrArg (s.lookup c · binding.module) (expand_append localName rest binding)
  rcases (Dotted.longest?_eq_some found).1 with whole | ⟨more, dotted⟩
  · have split : name = localName ++ "" := by rw [whole, String.append_empty]
    exact ⟨"", Text.cutAt?_eq_some_iff.mpr ⟨split, rfl⟩, Or.inl rfl, reached split⟩
  · have split : name = localName ++ ("." ++ more) := by rw [dotted, Dotted.qualify, String.append_assoc]
    exact ⟨"." ++ more, Text.cutAt?_eq_some_iff.mpr ⟨split, rfl⟩, Or.inr ⟨more, rfl⟩, reached split⟩

end Symbols

end ProgramGraph
