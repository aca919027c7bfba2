import ProgramGraph.Proofs.Corpus.Entries

/-! The modules of a tree. A module in the tables of names is that of an outline that stays, with the id of its root,
    and every outline that stays has its module there, which no other has (`Intake.Registered`): modules are registered
    first, and a file whose module is known is skipped. -/

namespace ProgramGraph
open Std

/-! ### Registering a module -/

namespace Symbols

/-- Everything but the module itself leaves the modules as they are. -/
theorem modules_declaration {o : Outline} {add : Symbols → Except Problem Symbols} (member : add ∈ (declarations o).tail)
    {s s' : Symbols} (added : add s = .ok s') : s'.modules = s.modules := by
  unfold declarations at member
  simp only [List.cons_append, List.nil_append, List.tail_cons, List.mem_append, List.mem_map] at member
  rcases member with (⟨entry, -, rfl⟩ | ⟨c, -, rfl⟩) | ⟨d, -, rfl⟩
  · rcases addEntry_cases added with rfl | ⟨-, rfl⟩ | rfl <;> rfl
  · rcases addClass_cases added with rfl | ⟨-, rfl⟩ <;> rfl
  · rcases addFunction_cases added with rfl | ⟨-, rfl⟩ <;> rfl

theorem module?_attempt_addModule (state : Symbols × Array Problem) (module : String) (id : NodeId) (name : String) :
    (attempt state fun s => s.addModule module id).1.module? name =
      (state.1.module? name).or (if module = name then some id else none) := by
  cases known : state.1.module? module with
  | some kept =>
    have same : (attempt state fun s => s.addModule module id).1 = state.1 := by
      unfold attempt addModule
      simp only [known]
      split <;> rename_i result
      · split at result <;> cases result
        rfl
      · rfl
    rw [same]
    split
    · rename_i here
      rw [← here, known]
      rfl
    · exact (Option.or_none ..).symm
  | none =>
    have added : (attempt state fun s => s.addModule module id).1 =
        { state.1 with modules := state.1.modules.insert module id } := by
      unfold attempt addModule
      simp only [known]
    rw [added]
    change (state.1.modules.insert module id)[name]? = _
    rw [TreeMap.getElem?_insert]
    simp only [Std.compare_eq_iff_eq]
    split
    · rename_i here
      rw [← here, known]
      rfl
    · exact (Option.or_none ..).symm

/-- An outline registers its module with the id of its root, unless the module is known. -/
theorem module?_register (s : Symbols) (o : Outline) (name : String) : (s.register o).1.module? name =
    (s.module? name).or (if o.module = name then some o.moduleId else none) := by
  have rest := view_foldl_attempt (·.modules) fun _ member _ _ added => modules_declaration (o := o) member added
  rw [← module?_attempt_addModule (s, #[]) o.module o.moduleId name]
  exact congrArg (fun table : TreeMap String NodeId => table[name]?) (rest _)

end Symbols

/-! ### The modules of entered files -/

namespace Intake

/-- The modules in the tables are those of the outlines that stay, and these are held by their files. -/
structure Registered (i : Intake) : Prop where
  modules : ∀ {name id}, i.symbols.module? name = some id → ∃ o ∈ i.outlines, o.module = name ∧ o.moduleId = id
  registered : ∀ o ∈ i.outlines, i.symbols.module? o.module = some o.moduleId
  held : ∀ o ∈ i.outlines, o.module ∈ i.holders
  apart : (i.outlines.toList.map fun o => o.module).Nodup

namespace Registered
variable {i : Intake} {path : String} {o : Outline}

theorem empty : Registered {} where
  modules found := by simp [Symbols.module?] at found
  registered := by simp
  held := by simp
  apart := by simp

theorem enter (registered : i.Registered) (free : i.holders[o.module]? = none) : (i.enter path o).Registered := by
  have fresh : o.module ∉ i.holders := by
    rw [TreeMap.mem_iff_isSome_getElem?, free]
    exact Bool.false_ne_true
  let kept := o.forget (i.placed o).rejected
  have module : kept.module = o.module := Outline.module_forget ..
  -- What is entered may lack nodes and names, but its module and the id of its root stay.
  have found (name : String) : (i.enter path o).symbols.module? name =
      (i.symbols.module? name).or (if o.module = name then some o.moduleId else none) := by
    have all := i.symbols.module?_register kept name
    rw [module, show kept.moduleId = o.moduleId from Outline.moduleId_forget ..] at all
    exact all
  refine ⟨fun {name id} here => ?_, fun other member => ?_, fun other member => ?_, ?_⟩
  · rw [found, Option.or_eq_some_iff] at here
    rcases here with here | ⟨-, here⟩
    · obtain ⟨old, member, same⟩ := registered.modules here
      exact ⟨old, Array.mem_push_of_mem _ member, same⟩
    · split at here
      · rename_i same
        cases here
        exact ⟨kept, Array.mem_push_self, module.trans same, Outline.moduleId_forget ..⟩
      · cases here
  · rw [found]
    rcases Array.mem_push.mp member with member | rfl
    · rw [registered.registered other member]
      rfl
    · rw [Outline.module_forget, Outline.moduleId_forget, if_pos rfl]
      cases known : i.symbols.module? o.module with
      | none => rfl
      | some id =>
        obtain ⟨old, member, same, -⟩ := registered.modules known
        exact absurd (same ▸ registered.held old member) fresh
  · refine TreeMap.mem_insert.mpr ?_
    rcases Array.mem_push.mp member with member | rfl
    · exact Or.inr (registered.held other member)
    · exact Or.inl (Std.compare_eq_iff_eq.mpr module.symm)
  · -- The module is new, so it is none of those of the outlines before.
    have all : (i.enter path o).outlines.toList = i.outlines.toList ++ [kept] := Array.toList_push
    rw [all, List.map_append, List.nodup_append]
    refine ⟨registered.apart, by simp, fun name here name' there same => fresh ?_⟩
    obtain ⟨old, member, rfl⟩ := List.mem_map.mp here
    have last : name' = o.module := (List.mem_singleton.mp there).trans module
    rw [← last, ← same]
    exact registered.held old (Array.mem_toList_iff.mp member)

theorem skip (registered : i.Registered) (path : String) (p : Problem) : (i.skip path p).Registered :=
  ⟨registered.modules, registered.registered, registered.held, registered.apart⟩

end Registered

theorem registered_ofFiles (files : List (String × Except Problem Outline)) : (ofFiles files).Registered :=
  ofFiles_of_steps .empty (fun path p registered => registered.skip path p) fun _ free registered => registered.enter free

end Intake

end ProgramGraph
