import Mathlib.Data.List.Induction
import Mathlib.Data.List.Nodup
import ProgramGraph.Corpus
import ProgramGraph.Proofs.Text.Bytes
import ProgramGraph.Proofs.Text.Split

/-! The listing of a tree of texts. The folders that texts are put into serve as one table from paths to texts
    (`Folder.file?_put`): the names that lead to a file are those of its path, whatever else is a file or a folder on
    the way. So the listing has each path once, in order, with the text that was given last for it, and neither it nor
    the graph that is built from it depends on how the texts were given (`FileTree.ofFiles_lists`). -/

namespace ProgramGraph
open Text

namespace Folder

/-! ### Entries by name -/

section Entries
variable {α β : Type} [DecidableEq β] (key : α → β) (k : β) (new : α) {change : α → α}

/-- The first entry of each name, after the one of a name was changed or made. -/
theorem find?_updateFirst (begins : key new = k) (named : ∀ a, key a = k → key (change a) = k) (k' : β) (l : List α) :
    (updateFirst (fun a => key a == k) new change l).find? (fun a => key a == k') =
      if k' = k then some (change ((l.find? fun a => key a == k).getD new))
      else l.find? fun a => key a == k' := by
  induction l with
  | nil =>
    have changed := named new begins
    by_cases here : k' = k
    · simp [updateFirst, changed, here]
    · simp [updateFirst, changed, here, Ne.symm here]
  | cons a l ih =>
    by_cases found : key a = k
    · have changed := named a found
      by_cases here : k' = k
      · simp [updateFirst, changed, here, found]
      · simp [updateFirst, changed, here, found, Ne.symm here]
    · by_cases here : k' = k
      · subst here
        simpa [updateFirst, found] using ih
      · simp [updateFirst, here, found, ih, List.find?_cons]

theorem map_updateFirst (begins : key new = k) (named : ∀ a, key a = k → key (change a) = k) (l : List α) :
    (updateFirst (fun a => key a == k) new change l).map key =
      if k ∈ l.map key then l.map key else l.map key ++ [k] := by
  induction l with
  | nil => simp [updateFirst, named new begins]
  | cons a l ih =>
    by_cases found : key a = k
    · simp [updateFirst, found, named a found]
    · simp only [updateFirst, beq_iff_eq, found, ↓reduceIte, List.map_cons, ih, List.mem_cons, Ne.symm found, false_or]
      split <;> rfl

theorem nodup_updateFirst (begins : key new = k) (named : ∀ a, key a = k → key (change a) = k) {l : List α}
    (apart : (l.map key).Nodup) : ((updateFirst (fun a => key a == k) new change l).map key).Nodup := by
  rw [map_updateFirst key k new begins named]
  split
  · exact apart
  · rename_i fresh
    exact List.nodup_append.mpr ⟨apart, by simp, fun a member b last => by
      rintro rfl
      exact fresh (List.mem_singleton.mp last ▸ member)⟩

omit [DecidableEq β] in
variable {new} in
theorem mem_updateFirst {is : α → Bool} {a : α} {l : List α} (member : a ∈ updateFirst is new change l) :
    a ∈ l ∨ ∃ b, (b ∈ l ∨ b = new) ∧ a = change b := by
  induction l with
  | nil => exact .inr ⟨new, .inr rfl, List.mem_singleton.mp member⟩
  | cons c l ih =>
    rw [updateFirst] at member
    split at member
    · rcases List.mem_cons.mp member with rfl | later
      · exact .inr ⟨c, .inl List.mem_cons_self, rfl⟩
      · exact .inl (List.mem_cons_of_mem c later)
    · rcases List.mem_cons.mp member with rfl | later
      · exact .inl List.mem_cons_self
      · rcases ih later with here | ⟨b, source, same⟩
        · exact .inl (List.mem_cons_of_mem c here)
        · exact .inr ⟨b, source.imp_left (List.mem_cons_of_mem c), same⟩

/-- Among entries with names of their own, the first of a name is the only one. -/
theorem find?_eq_some_iff {l : List α} (apart : (l.map key).Nodup) {a : α} :
    l.find? (fun a => key a == k) = some a ↔ a ∈ l ∧ key a = k := by
  constructor
  · intro found
    exact ⟨List.mem_of_find?_eq_some found, by simpa using List.find?_some found⟩
  · rintro ⟨member, named⟩
    cases found : l.find? fun a => key a == k with
    | none => exact absurd named (by simpa using List.find?_eq_none.mp found a member)
    | some b =>
      have other : key b = k := by simpa using List.find?_some found
      rw [List.inj_on_of_nodup_map apart (List.mem_of_find?_eq_some found) member (other.trans named.symm)]

end Entries

/-! ### Files by the names that lead to them -/

/-- The file that some names lead to: all but the last are of folders. -/
def file? : List String → Folder → Option SourceFile
  | [], _ => none
  | [name], mk _ files _ => files.find? fun f => f.name == name
  | part :: next :: parts, mk _ _ folders => (folders.find? fun f => f.name == part).bind (file? (next :: parts))

theorem file?_bare (way : List String) (name : String) : file? way (bare name) = none := by
  match way with
  | [] => rfl
  | [_] => rfl
  | _ :: _ :: _ => rfl

theorem name_put (file : SourceFile) (parts : List String) (f : Folder) : (put file parts f).name = f.name := by
  cases f
  cases parts <;> rfl

/-- A file that was put in stands where it was put, and every other way leads where it led. -/
theorem file?_put (file : SourceFile) (parts : List String) (f : Folder) (way : List String) :
    file? way (put file parts f) = if way = parts ++ [file.name] then some file else file? way f := by
  induction parts generalizing f way with
  | nil =>
    obtain ⟨name, files, folders⟩ := f
    match way with
    | [] => rfl
    | [last] => simp [put, putFile, file?, find?_updateFirst SourceFile.name]
    | _ :: _ :: _ => simp [put, file?]
  | cons part parts ih =>
    obtain ⟨name, files, folders⟩ := f
    match way with
    | [] => rfl
    | [last] => simp [put, file?]
    | first :: next :: rest =>
      simp only [put, file?]
      rw [find?_updateFirst Folder.name part (bare part) rfl fun f named => (name_put file parts f).trans named]
      by_cases here : first = part
      · subst here
        rw [if_pos rfl, Option.bind_some, ih]
        simp only [List.cons_append, List.cons.injEq, true_and]
        -- A folder that was made on the way holds the new file only.
        cases folders.find? fun f => f.name == first with
        | none => simp [file?_bare]
        | some f => rfl
      · simp [here]

/-! ### Every file once -/

/-- Files and folders of one place have names of their own, in every folder. -/
inductive Tidy : Folder → Prop
  | mk (name : String) {files : List SourceFile} {folders : List Folder}
    (filesApart : (files.map SourceFile.name).Nodup) (foldersApart : (folders.map Folder.name).Nodup)
    (inside : ∀ f ∈ folders, Tidy f) : Tidy (.mk name files folders)

theorem Tidy.bare (name : String) : Tidy (bare name) :=
  .mk name List.nodup_nil List.nodup_nil fun _ member => nomatch member

theorem Tidy.put {f : Folder} (tidy : Tidy f) (file : SourceFile) (parts : List String) : Tidy (put file parts f) := by
  induction parts generalizing f with
  | nil =>
    obtain ⟨name, filesApart, foldersApart, inside⟩ := tidy
    have filesApart' := nodup_updateFirst SourceFile.name file.name file rfl (fun _ _ => rfl) filesApart
    exact .mk name filesApart' foldersApart inside
  | cons part parts ih =>
    obtain ⟨name, filesApart, foldersApart, inside⟩ := tidy
    have foldersApart' := nodup_updateFirst Folder.name part (Folder.bare part) rfl
      (fun f named => (name_put file parts f).trans named) foldersApart
    refine .mk name filesApart foldersApart' ?_
    intro f member
    rcases mem_updateFirst member with old | ⟨b, source | rfl, rfl⟩
    · exact inside f old
    · exact ih (inside b source)
    · exact ih (Tidy.bare part)

mutual

/-- The files of a folder, each with the names that lead to it. -/
def ways : Folder → List (List String × SourceFile)
  | mk _ files folders => (files.map fun f => ([f.name], f)) ++ waysAll folders

def waysAll : List Folder → List (List String × SourceFile)
  | [] => []
  | f :: rest => ((ways f).map fun (way, file) => (f.name :: way, file)) ++ waysAll rest

end

mutual

/-- The listing spells the names that lead to each file. -/
theorem collect_eq (path : String) : ∀ f : Folder,
    collect path f = (ways f).map fun (way, file) => (way.foldl join path, file)
  | mk _ files folders => by
    rw [collect, ways, collectAll_eq path folders]
    simp

theorem collectAll_eq (path : String) : ∀ fs : List Folder,
    collectAll path fs = (waysAll fs).map fun (way, file) => (way.foldl join path, file)
  | [] => rfl
  | f :: rest => by
    rw [collectAll, waysAll, collect_eq (join path f.name) f, collectAll_eq path rest]
    simp

end

theorem waysAll_eq (fs : List Folder) :
    waysAll fs = fs.flatMap fun f => (ways f).map fun (way, file) => (f.name :: way, file) := by
  induction fs with
  | nil => rfl
  | cons f fs ih => rw [waysAll, ih, List.flatMap_cons]

theorem mem_ways {name : String} {files : List SourceFile} {folders : List Folder} {way : List String}
    {file : SourceFile} : (way, file) ∈ ways (.mk name files folders) ↔
      (file ∈ files ∧ way = [file.name]) ∨ ∃ f ∈ folders, ∃ rest, (rest, file) ∈ ways f ∧ way = f.name :: rest := by
  rw [ways, waysAll_eq]
  simp only [List.mem_append, List.mem_map, List.mem_flatMap, Prod.mk.injEq, Prod.exists]
  constructor
  · rintro (⟨f, member, rfl, rfl⟩ | ⟨f, member, rest, file, inside, rfl, rfl⟩)
    · exact .inl ⟨member, rfl⟩
    · exact .inr ⟨f, member, rest, inside, rfl⟩
  · rintro (⟨member, rfl⟩ | ⟨f, member, rest, inside, rfl⟩)
    · exact .inl ⟨file, member, rfl, rfl⟩
    · exact .inr ⟨f, member, rest, file, inside, rfl, rfl⟩

/-- What is listed is what the names lead to. -/
theorem mem_ways_iff {f : Folder} (tidy : Tidy f) (way : List String) (file : SourceFile) :
    (way, file) ∈ ways f ↔ file? way f = some file := by
  induction tidy generalizing way with
  | @mk name files folders filesApart foldersApart inside ih =>
    rw [mem_ways]
    -- One name leads to a file, more names into a folder; in a tidy folder there is one of each name.
    match way with
    | [] => simp [file?]
    | [last] =>
      rw [file?, find?_eq_some_iff SourceFile.name last filesApart]
      constructor
      · rintro (⟨member, here⟩ | ⟨f, member, rest, below, here⟩)
        · exact ⟨member, (List.cons.inj here).1.symm⟩
        · obtain ⟨-, rfl⟩ := List.cons.inj here
          cases (ih f member []).mp below
      · rintro ⟨member, rfl⟩
        exact .inl ⟨member, rfl⟩
    | part :: next :: rest =>
      rw [file?, Option.bind_eq_some_iff]
      constructor
      · rintro (⟨-, here⟩ | ⟨f, member, rest', below, here⟩)
        · cases here
        · obtain ⟨rfl, rfl⟩ := List.cons.inj here
          exact ⟨f, (find?_eq_some_iff Folder.name f.name foldersApart).mpr ⟨member, rfl⟩, (ih f member _).mp below⟩
      · rintro ⟨f, found, below⟩
        obtain ⟨member, rfl⟩ := (find?_eq_some_iff Folder.name part foldersApart).mp found
        exact .inr ⟨f, member, next :: rest, (ih f member _).mpr below, rfl⟩

theorem ne_nil_of_mem_ways {f : Folder} {way : List String} {file : SourceFile} (member : (way, file) ∈ ways f) :
    way ≠ [] := by
  obtain ⟨name, files, folders⟩ := f
  rcases mem_ways.mp member with ⟨-, rfl⟩ | ⟨f, -, rest, -, rfl⟩ <;> simp

/-- No two files are led to in the same way. -/
theorem nodup_ways {f : Folder} (tidy : Tidy f) : ((ways f).map Prod.fst).Nodup := by
  induction tidy with
  | @mk name files folders filesApart foldersApart inside ih =>
    have own : ((files.map fun f => ([f.name], f)).map Prod.fst).Nodup := by
      have single : Function.Injective fun name : String => [name] := fun _ _ same => (List.cons.inj same).1
      simpa [Function.comp_def] using filesApart.map single
    have below : ((waysAll folders).map Prod.fst).Nodup := by
      rw [waysAll_eq, List.map_flatMap, List.nodup_flatMap]
      refine ⟨fun f member => ?_, (List.pairwise_map.mp foldersApart).imp fun {f f'} apart => ?_⟩
      · have prefixed : Function.Injective (f.name :: ·) := fun _ _ same => (List.cons.inj same).2
        simpa [Function.comp_def] using (ih f member).map prefixed
      · intro way here there
        simp only [List.map_map, List.mem_map, Function.comp_apply] at here there
        obtain ⟨_, -, rfl⟩ := here
        obtain ⟨_, -, same⟩ := there
        exact apart (List.cons.inj same).1.symm
    rw [ways, List.map_append]
    refine own.append below fun way here there => ?_
    -- A way through a folder has a name more.
    simp only [waysAll_eq, List.map_map, List.map_flatMap, List.mem_map, List.mem_flatMap,
      Function.comp_apply] at here there
    obtain ⟨file, -, rfl⟩ := here
    obtain ⟨f, -, ⟨rest, file'⟩, member, same⟩ := there
    exact ne_nil_of_mem_ways member (List.cons.inj same).2

/-! ### Paths -/

/-- Below a folder that is not the outermost one, names follow its path after slashes. -/
theorem foldl_join {path : String} (way : List String) (named : path ≠ "") :
    way.foldl join path = "/".intercalate (path :: way) := by
  induction way generalizing path with
  | nil => simp
  | cons name way ih =>
    have joined : join path name = path ++ "/" ++ name := by
      rw [join, if_neg (by simpa using named)]
      rfl
    have named' : join path name ≠ "" := by
      rw [joined]
      intro none
      simpa using congrArg String.toList none
    rw [List.foldl_cons, ih named', joined]
    cases way <;> simp [String.intercalate_cons_cons, String.append_assoc]

theorem foldl_join_outermost {name : String} (way : List String) (named : name ≠ "") :
    (name :: way).foldl join "" = "/".intercalate (name :: way) := by
  rw [List.foldl_cons]
  exact foldl_join way named

theorem insert_of_nil (f : Folder) {path : String} (text : String) (nothing : fields '/' path = []) :
    f.insert path text = f := by
  simp [insert, nothing]

theorem insert_of_concat (f : Folder) {path last : String} {parts : List String} (text : String)
    (split : fields '/' path = parts ++ [last]) : f.insert path text = put ⟨last, text⟩ parts f := by
  simp [insert, split]

/-- A path leads to its text; every other way leads where it led. -/
theorem file?_insert (f : Folder) (path text : String) {way : List String} (any : way ≠ []) :
    file? way (f.insert path text) =
      if fields '/' path = way then some ⟨way.getLastD "", text⟩ else file? way f := by
  rcases List.eq_nil_or_concat (fields '/' path) with nothing | ⟨parts, last, split⟩
  · rw [insert_of_nil f text nothing, nothing, if_neg any.symm]
  · rw [List.concat_eq_append] at split
    rw [insert_of_concat f text split, file?_put, split]
    by_cases here : way = parts ++ [last]
    · simp [here]
    · rw [if_neg here, if_neg (Ne.symm here)]

theorem Tidy.insert {f : Folder} (tidy : Tidy f) (path text : String) : Tidy (f.insert path text) := by
  rcases List.eq_nil_or_concat (fields '/' path) with nothing | ⟨parts, last, split⟩
  · rwa [insert_of_nil f text nothing]
  · rw [List.concat_eq_append] at split
    rw [insert_of_concat f text split]
    exact tidy.put ..

end Folder

namespace FileTree
open Fingerprint Folder

/-! ### The listing -/

/-- A path without its empty segments; one that has no other is none. -/
def normalized? (path : String) : Option String :=
  if fields '/' path = [] then none else some ("/".intercalate (fields '/' path))

/-- The text that was given last for a normalized path. -/
def lastText? (given : List (String × String)) (path : String) : Option String :=
  (given.reverse.find? fun (p, _) => normalized? p == some path).map Prod.snd

/-- A listing of texts that were given with paths: each normalized path once, in the order of the bytes of the paths,
    with the text that was given last for it and the number of its bytes. -/
structure IsListing (given : List (String × String)) (listed : List (String × SourceFile)) : Prop where
  sorted : listed.Pairwise fun a b => bytes a.1 < bytes b.1
  paths : ∀ path, path ∈ listed.map Prod.fst ↔ path ∈ given.filterMap fun (p, _) => normalized? p
  last : ∀ path file, (path, file) ∈ listed ↔
    lastText? given path = some file.text ∧ file.name = (fields '/' path).getLastD ""
  size : ∀ path file, (path, file) ∈ listed → file.size = (bytes file.text).length

/-- Names that a path can be cut into. -/
structure IsWay (way : List String) : Prop where
  any : way ≠ []
  named : ∀ part ∈ way, part ≠ "" ∧ '/' ∉ part.toList

theorem isWay_fields {path : String} (any : fields '/' path ≠ []) : IsWay (fields '/' path) :=
  ⟨any, fun _ member => mem_fields member⟩

namespace IsWay
variable {way : List String}

theorem fields_intercalate (isWay : IsWay way) : fields '/' ("/".intercalate way) = way :=
  Text.fields_intercalate rfl (fun part member => (isWay.named part member).2) fun part member =>
    (isWay.named part member).1

theorem foldl_join (isWay : IsWay way) : way.foldl join "" = "/".intercalate way := by
  cases way with
  | nil => exact absurd rfl isWay.any
  | cons name rest => exact foldl_join_outermost rest (isWay.named name List.mem_cons_self).1

theorem normalized?_eq_iff (isWay : IsWay way) (path : String) :
    normalized? path = some ("/".intercalate way) ↔ fields '/' path = way := by
  unfold normalized?
  split
  · rename_i nothing
    simp [nothing, isWay.any.symm]
  · rename_i any
    constructor
    · intro same
      rw [← (isWay_fields any).fields_intercalate, Option.some.inj same, isWay.fields_intercalate]
    · intro same
      rw [same]

end IsWay

/-- Files that lie in the order of their paths are listed as they lie. -/
theorem files_of_sorted {t : FileTree} (sorted : (t.root.collect "").Pairwise fun a b => a.1 ≤ b.1) :
    t.files = t.root.collect "" := by
  unfold files
  exact List.mergeSort_of_pairwise (sorted.imp fun le => decide_eq_true le)

theorem ofFiles_concat (given : List (String × String)) (path text : String) :
    (ofFiles (given ++ [(path, text)])).root = (ofFiles given).root.insert path text := by
  simp [ofFiles]

theorem lastText?_concat (given : List (String × String)) (p text path : String) :
    lastText? (given ++ [(p, text)]) path = if normalized? p = some path then some text else lastText? given path := by
  by_cases here : normalized? p = some path <;> simp [lastText?, here]

theorem tidy_ofFiles (given : List (String × String)) : Tidy (ofFiles given).root := by
  induction given using List.reverseRecOn with
  | nil => exact Tidy.bare ""
  | append_singleton given pair tidy =>
    rw [ofFiles_concat]
    exact tidy.insert ..

/-- A path leads to the text that was given last for it. -/
theorem file?_ofFiles {way : List String} (isWay : IsWay way) (given : List (String × String)) :
    file? way (ofFiles given).root =
      (lastText? given ("/".intercalate way)).map fun text => ⟨way.getLastD "", text⟩ := by
  -- A text is put over those before it, and the search for the last one meets it first.
  induction given using List.reverseRecOn with
  | nil => exact file?_bare way ""
  | append_singleton given pair ih =>
    rw [ofFiles_concat, file?_insert _ _ _ isWay.any, lastText?_concat, ih]
    simp only [isWay.normalized?_eq_iff]
    split <;> rfl

theorem isWay_of_file? {way : List String} {file : SourceFile} {given : List (String × String)}
    (found : file? way (ofFiles given).root = some file) : IsWay way := by
  have any : way ≠ [] := by
    rintro rfl
    cases found
  induction given using List.reverseRecOn with
  | nil =>
    rw [ofFiles, List.foldl_nil, file?_bare] at found
    cases found
  | append_singleton given pair ih =>
    rw [ofFiles_concat, file?_insert _ _ _ any] at found
    split at found
    · rename_i here
      exact here ▸ isWay_fields (here ▸ any)
    · exact ih found

theorem exists_lastText?_iff (given : List (String × String)) (path : String) :
    (∃ text, lastText? given path = some text) ↔ path ∈ given.filterMap fun (p, _) => normalized? p := by
  induction given using List.reverseRecOn with
  | nil => simp [lastText?]
  | append_singleton given pair ih =>
    rw [lastText?_concat, List.filterMap_append, List.mem_append, ← ih]
    by_cases here : normalized? pair.1 = some path <;> simp [here]

/-- The way to the file of a path that was given. -/
theorem exists_way {given : List (String × String)} {path text : String} (last : lastText? given path = some text) :
    ∃ way, IsWay way ∧ path = "/".intercalate way := by
  obtain ⟨⟨p, text'⟩, -, here⟩ := List.mem_filterMap.mp ((exists_lastText?_iff given path).mp ⟨text, last⟩)
  by_cases nothing : fields '/' p = []
  · simp [normalized?, nothing] at here
  · simp only [normalized?, if_neg nothing, Option.some.injEq] at here
    exact ⟨fields '/' p, isWay_fields nothing, here.symm⟩

variable (given : List (String × String))

theorem mem_files (path : String) (file : SourceFile) : (path, file) ∈ (ofFiles given).files ↔
    ∃ way, file? way (ofFiles given).root = some file ∧ way.foldl join "" = path := by
  simp only [files, List.mem_mergeSort, collect_eq, List.mem_map, Prod.exists, Prod.mk.injEq]
  constructor
  · rintro ⟨way, file', member, here, rfl⟩
    exact ⟨way, (mem_ways_iff (tidy_ofFiles given) way file').mp member, here⟩
  · rintro ⟨way, found, here⟩
    exact ⟨way, file, (mem_ways_iff (tidy_ofFiles given) way file).mpr found, here, rfl⟩

theorem mem_files_iff (path : String) (file : SourceFile) : (path, file) ∈ (ofFiles given).files ↔
    lastText? given path = some file.text ∧ file.name = (fields '/' path).getLastD "" := by
  rw [mem_files]
  constructor
  · rintro ⟨way, found, rfl⟩
    have isWay := isWay_of_file? found
    rw [file?_ofFiles isWay] at found
    obtain ⟨text, last, rfl⟩ := Option.map_eq_some_iff.mp found
    rw [isWay.foldl_join, isWay.fields_intercalate]
    exact ⟨last, rfl⟩
  · rintro ⟨last, name⟩
    obtain ⟨way, isWay, rfl⟩ := exists_way last
    refine ⟨way, ?_, isWay.foldl_join⟩
    rw [isWay.fields_intercalate] at name
    rw [file?_ofFiles isWay, last, Option.map_some, ← name]

theorem nodup_files : ((ofFiles given).files.map Prod.fst).Nodup := by
  have perm : ((ofFiles given).files.map Prod.fst).Perm (((ofFiles given).root.collect "").map Prod.fst) :=
    (List.mergeSort_perm ..).map _
  rw [perm.nodup_iff, collect_eq, List.map_map]
  have spelled : (Prod.fst ∘ fun (way, file) => (List.foldl join "" way, file)) =
      (fun way => List.foldl join "" way) ∘ (Prod.fst : List String × SourceFile → List String) := rfl
  rw [spelled, ← List.map_map]
  refine (nodup_ways (tidy_ofFiles given)).map_on fun way here way' there same => ?_
  have isWay {way : List String} (member : way ∈ (ways (ofFiles given).root).map Prod.fst) : IsWay way := by
    obtain ⟨⟨way, file⟩, listed, rfl⟩ := List.mem_map.mp member
    exact isWay_of_file? ((mem_ways_iff (tidy_ofFiles given) way file).mp listed)
  rw [(isWay here).foldl_join, (isWay there).foldl_join] at same
  rw [← (isWay here).fields_intercalate, same, (isWay there).fields_intercalate]

theorem sorted_files : (ofFiles given).files.Pairwise fun a b => bytes a.1 < bytes b.1 := by
  have sorted : (ofFiles given).files.Pairwise fun a b => decide (a.1 ≤ b.1) = true :=
    List.pairwise_mergeSort (fun a b c => by simpa using le_trans) (fun a b => by simpa using le_total a.1 b.1) _
  refine (sorted.and (List.pairwise_map.mp (nodup_files given))).imp fun {a b} ⟨le, apart⟩ => ?_
  rw [bytes_lt_bytes]
  exact lt_of_le_of_ne (of_decide_eq_true le) apart

theorem isListing_ofFiles : IsListing given (ofFiles given).files where
  sorted := sorted_files given
  paths path := by
    rw [← exists_lastText?_iff]
    simp only [List.mem_map, Prod.exists, exists_and_right, exists_eq_right, mem_files_iff]
    constructor
    · rintro ⟨file, last, -⟩
      exact ⟨file.text, last⟩
    · rintro ⟨text, last⟩
      exact ⟨⟨(fields '/' path).getLastD "", text⟩, last, rfl⟩
  last := mem_files_iff given
  size _ file _ := (length_bytes file.text).symm

theorem IsListing.unique {given given' : List (String × String)} {listed listed' : List (String × SourceFile)}
    (lists : IsListing given listed) (lists' : IsListing given' listed')
    (same : ∀ path, lastText? given path = lastText? given' path) : listed = listed' := by
  have nodup {given listed} (lists : IsListing given listed) : listed.Nodup := by
    refine List.Pairwise.imp ?_ lists.sorted
    rintro a _ less rfl
    exact List.lt_irrefl _ less
  have perm : listed.Perm listed' := by
    refine (List.perm_ext_iff_of_nodup (nodup lists) (nodup lists')).mpr fun (path, file) => ?_
    rw [lists.last, lists'.last, same]
  exact perm.eq_of_pairwise (fun a b _ _ before after => absurd after (List.lt_asymm before)) lists.sorted lists'.sorted

/-- A graph is built from the listing of a tree and nothing else. -/
theorem build_congr {t t' : FileTree} (same : t.files = t'.files) (s : Settings) (c : Classifier) :
    t.build s c = t'.build s c := by
  have units : t.units = t'.units := by rw [FileTree.units, FileTree.units, same]
  have outlines : t.outlines s.labelLimit = t'.outlines s.labelLimit := by
    rw [FileTree.outlines, FileTree.outlines, units]
  simp only [build, resolve, counters, ignored, same, outlines]

/-- The listing of a tree of texts has every normalized path once, in order, with the text that was given last for it;
    so texts that were given in another way, but with the same last ones, have the same listing and the same graph. -/
theorem ofFiles_lists : IsListing given (ofFiles given).files ∧
    ∀ given', (∀ path, lastText? given path = lastText? given' path) →
      (ofFiles given).files = (ofFiles given').files ∧
        ∀ s c, (ofFiles given).build s c = (ofFiles given').build s c := by
  refine ⟨isListing_ofFiles given, fun given' same => ?_⟩
  have files := (isListing_ofFiles given).unique (isListing_ofFiles given') same
  exact ⟨files, build_congr files⟩

/-- The theorem for a file that is given twice, is the name of a folder as well and comes with a path that names no
    file, and for the same texts in another order. -/
theorem ofFiles_lists_twice :
    let given := [("pkg//a.py", "x = 1"), ("b.py", ""), ("pkg/a.py", "x = 22"), ("pkg/a.py/c.py", "z = 3"), ("/", "y")]
    let given' := [("pkg/a.py/c.py", "z = 3"), ("/b.py", ""), ("pkg/a.py", "x = 22")]
    (∀ path, lastText? given path = lastText? given' path) ∧ (ofFiles given).files = (ofFiles given').files ∧
      (ofFiles given).files = [("b.py", ⟨"b.py", ""⟩), ("pkg/a.py", ⟨"a.py", "x = 22"⟩),
        ("pkg/a.py/c.py", ⟨"c.py", "z = 3"⟩)] := by
  intro given given'
  have same (path : String) : lastText? given path = lastText? given' path := by
    by_cases named : path ∈ ["pkg/a.py", "b.py", "pkg/a.py/c.py"]
    · simp only [List.mem_cons, List.not_mem_nil, or_false] at named
      rcases named with rfl | rfl | rfl <;> decide +kernel
    · have absent {given : List (String × String)} (paths : ∀ p ∈ given.filterMap fun (p, _) => normalized? p,
          p ∈ ["pkg/a.py", "b.py", "pkg/a.py/c.py"]) : lastText? given path = none := by
        cases found : lastText? given path with
        | none => rfl
        | some text => exact absurd (paths path ((exists_lastText?_iff given path).mp ⟨text, found⟩)) named
      rw [absent (by decide +kernel), absent (by decide +kernel)]
  refine ⟨same, ((ofFiles_lists given).2 given' same).1, ?_⟩
  rw [files_of_sorted (by decide +kernel)]
  decide +kernel

end FileTree

end ProgramGraph
